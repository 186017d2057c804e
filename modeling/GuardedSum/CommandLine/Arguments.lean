import GuardedSum.CommandLine.ProgramName
import GuardedSum.CommandLine.Usage
import GuardedSum.Program.Options

namespace GuardedSum.CommandLine

structure Settings where
  verbose : Bool := false
  fault : Option String := none
  deriving DecidableEq

namespace Settings

def inspect (s : Settings) : String :=
  Text.record "RunCmd"
    [("verbose", toString s.verbose), ("inject_fault", Text.option (s.fault.map Text.quoted))]

def options (s : Settings) : Program.Options :=
  Program.Options.setAll {} (s.fault.elim [] fun m => [.fault m])

end Settings

inductive Stop where
  | usage (e : UsageError)
  | page (p : Page)
  | version
  deriving DecidableEq

-- Where the options stand: before a subcommand, after it, or in a program that has none.
inductive Scope where
  | program
  | run
  | standalone (name : String)
  deriving DecidableEq

def Scope.page : Scope → Page
  | program => .program
  | run => .run
  | standalone name => .standalone name

inductive Flag where
  | verbose
  | help
  | version
  deriving DecidableEq

namespace Flag

def name : Flag → String
  | verbose => "verbose"
  | help => "help"
  | version => "version"

def letter : Flag → Char
  | verbose => 'v'
  | help => 'h'
  | version => 'V'

-- The flags there are in a scope. Only the whole program has a version.
def offered : Scope → List Flag
  | .program => [verbose, help, version]
  | _ => [verbose, help]

def ofName? (scope : Scope) (n : String) : Option Flag :=
  (offered scope).find? (·.name = n)

def ofLetter? (scope : Scope) (c : Char) : Option Flag :=
  (offered scope).find? (·.letter = c)

end Flag

inductive Token where
  -- Two dashes alone. Whatever follows is no option.
  | separator
  -- Two dashes and a name, with the value after an equals sign.
  | long (name : String) (value : Option String)
  | cluster (letters : List Char)
  | plain (word : String)
  deriving DecidableEq

def Token.ofArgument (argument : String) : Token :=
  match argument.toList with
  | ['-', '-'] => .separator
  | '-' :: '-' :: cs =>
    .long (.ofList (cs.takeWhile (· ≠ '='))) ((cs.dropWhile (· ≠ '=')).tail? |>.map .ofList)
  | '-' :: c :: cs => .cluster (c :: cs)
  | _ => .plain argument

structure Reading where
  verbose : Bool := false
  fault : Option String := none
  -- An option for a fault, with its value if that was read. It is settled only when the next option
  -- or the end is reached, so an argument that is wrong in itself is reported before it.
  pending : Option (Option String) := none
  deriving DecidableEq

namespace Reading

def any (r : Reading) : Bool :=
  r.verbose || r.fault.isSome || r.pending.isSome

def awaits (r : Reading) : Bool :=
  r.pending = some none

def setFault (r : Reading) (m : String) : Except UsageError Reading :=
  if r.fault.isSome then .error (.repeated .injectFault) else .ok { r with fault := some m }

def settle (r : Reading) : Except UsageError Reading :=
  match r.pending with
  | none => .ok r
  | some none => .error (.missingValue .injectFault)
  | some (some m) => { r with pending := none }.setFault m

-- The choices that stand when a fault that is pending is settled as well as it can be.
def choices (r : Reading) : List Choice :=
  let fault : Bool :=
    match r.pending with
    | some (some _) => r.fault.isNone
    | _ => r.fault.isSome
  (if r.verbose then [.verbose] else []) ++ if fault then [.injectFault] else []

def raise (scope : Scope) (f : Flag) (r : Reading) : Except Stop Reading := do
  let r ← r.settle.mapError .usage
  match f with
  | .verbose =>
    if r.verbose then .error (.usage (.repeated .verbose)) else .ok { r with verbose := true }
  | .help => .error (.page scope.page)
  | .version => .error .version

def readLetter (scope : Scope) (r : Reading) (c : Char) : Except Stop Reading :=
  match Flag.ofLetter? scope c with
  | some f => r.raise scope f
  | none => .error (.usage (.unknownArgument (.ofList ['-', c])))

def readLong (scope : Scope) (r : Reading) (name : String) (value : Option String) :
    Except Stop Reading :=
  if name = "inject-fault" then do
    let r ← r.settle.mapError .usage
    match value with
    | some m => (r.setFault m).mapError .usage
    | none => .ok { r with pending := some none }
  else
    -- Only an option that is known settles what is pending before it.
    match Flag.ofName? scope name, value with
    | some f, none => r.raise scope f
    | some _, some v => .error (.usage (.needlessValue ("--" ++ name) v))
    | none, _ => .error (.usage (.unknownArgument ("--" ++ name)))

-- What a word is told that is neither an option nor a value. The name of a subcommand comes to this
-- only behind options or behind the separator, where it is no subcommand.
def refuse (scope : Scope) (r : Reading) (word : String) : UsageError :=
  if scope ≠ .program then .unknownArgument word
  else if r.any then .excludedSubcommand word r.choices
  else if word = "run" || word = "help" then .unknownArgument word
  else .unknownSubcommand word

def finish (r : Reading) : Except Stop Settings := do
  let r ← r.settle.mapError .usage
  pure { verbose := r.verbose, fault := r.fault }

end Reading

def helpOn : List String → Stop
  | [] => .page .program
  | ["run"] => .page .run
  | ["help"] => .page .help
  | "run" :: w :: _ => .usage (.unknownSubcommand w)
  | "help" :: w :: _ => .usage (.unknownSubcommand w)
  | w :: _ => .usage (.unknownSubcommand w)

def readOptions (scope : Scope) (r : Reading) : List String → Except Stop Settings
  | [] => r.finish
  | a :: as =>
    match Token.ofArgument a with
    | .separator =>
      match as with
      | [] => r.finish
      | w :: _ => .error (.usage (r.refuse scope w))
    | .long name value => do readOptions scope (← r.readLong scope name value) as
    | .cluster letters => do readOptions scope (← letters.foldlM (Reading.readLetter scope) r) as
    | .plain w =>
      -- A single dash is plain; a longer value that begins with one has to follow an equals sign.
      if r.awaits then readOptions scope { r with pending := some (some w) } as
      else .error (.usage (r.refuse scope w))

def read : List String → Except Stop Settings
  | "run" :: as => readOptions .run {} as
  | "help" :: as => .error (helpOn as)
  | as => readOptions .program {} as

-- Reads the arguments of running as a program of its own. The first is what it was started as.
def readStandalone (arguments : List String) : Except Stop Settings :=
  let name := (arguments.head?.bind fileName?).getD "run"
  readOptions (.standalone name) {} arguments.tail

end GuardedSum.CommandLine
