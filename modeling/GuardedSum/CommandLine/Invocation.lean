import GuardedSum.CommandLine.Arguments
import GuardedSum.Console.Stdout
import GuardedSum.Log.Filter
import GuardedSum.Log.Line
import GuardedSum.Program.Run

namespace GuardedSum.CommandLine

structure Environment where
  directives : Option String := none
  stdout : Console.Stdout := .writable

structure Answer where
  code : Nat
  stdout : String
  stderr : String
  deriving DecidableEq

-- The filter that is set, if it can be read, or else one for the level of the settings.
def Environment.filter (env : Environment) (s : Settings) : Log.Filter :=
  (env.directives.bind Log.Filter.ofText?).getD
    (.ofLevel (if s.verbose then .debug else .warn))

-- What reaches the reader of the standard output of a text written to it.
def Environment.shown (env : Environment) (text : String) : String :=
  if env.stdout matches .writable then text else ""

def finished (r : Program.Report) : Log.Entry where
  level := .info
  target := "testcfg_cli::commands::run"
  fields := [("message", .text "program finished"), ("report", .text r.inspect)]

-- An error with the errors behind it, which are numbered if there are several.
def failure (what : String) (causes : List String) : String :=
  lines (("Error: " ++ what) :: if causes.isEmpty then [] else "" :: "Caused by:" :: body)
where
  body : List String :=
    match causes with
    | [c] => ["    " ++ c]
    | cs => cs.zipIdx.map fun (c, i) => padded i.repr ++ ": " ++ c
  padded (n : String) : String :=
    .ofList (List.replicate (5 - n.length) ' ') ++ n

def perform (env : Environment) (s : Settings) : Answer :=
  let exit := Program.run Console.Stdout.console s.options env.stdout
  let log :=
    -- The last entry is logged outside the span of the run.
    exit.log ++ match exit.outcome with
      | .ok r => [finished r]
      | _ => []
  let logged := lines (((env.filter s).select log).map (·.line))
  let written := String.join (exit.record.flatMap (·.calls))
  match exit.outcome with
  | .ok _ => { code := 0, stdout := written, stderr := logged }
  | .error e =>
    -- Code 2 is for arguments that cannot be used.
    { code := 1
      stdout := written
      stderr := logged ++
        failure "while running program" (e.display :: e.sources.map (·.display)) }
  | .panic m => { code := 101, stdout := written, stderr := logged ++ lines [m] }
  | .abort => { code := 134, stdout := written, stderr := logged }

def invoke (env : Environment) (arguments : List String) : Answer :=
  match read arguments with
  | .ok s => perform env s
  | .error (.page p) => { code := 0, stdout := env.shown p.text, stderr := "" }
  | .error .version => { code := 0, stdout := env.shown versionText, stderr := "" }
  | .error (.usage e) => { code := 2, stdout := "", stderr := lines [e.message .stream] }

end GuardedSum.CommandLine
