import GuardedSum.Guarded
import GuardedSum.Sum
import GuardedSum.Text.Inspect

namespace GuardedSum

def Guarded.inspect (g : Guarded Int32 String) : String :=
  match g with
  | .completed n => Text.variant "Completed" [Text.decimal n]
  | .caught e => Text.variant "Caught" [Text.quoted e]

namespace Block

inductive Event where
  | body (acc : Int32)
  | handler (acc : Int32) (cause : String)
  | completion (acc : Int32)
  | log (text : String)
  | outcome (result : Guarded Int32 String)
  | ignored (result : Outcome String (Guarded Int32 String))
  | caught (result : Outcome String (Guarded Int32 String))
  | step (acc : Int32)
  | accumulator (acc : Int32)
  deriving DecidableEq

inductive Ending where
  | ok (value : Int32)
  | error (cause : String)
  | panic (message : String)
  | accumulator
  deriving DecidableEq

inductive Mode where
  -- An error ends the part around it.
  | propagate
  -- An error is recorded and forgotten.
  | ignore
  -- An error or a panic is recorded and forgotten.
  | catchAll
  deriving DecidableEq

inductive Part where
  | done (ending : Ending)
  | log (text : String) (next : Part)
  | set (value : Int32) (next : Part)
  | add (value : Int32) (next : Part)
  -- Fails at once if the accumulator is above the limit.
  | failAbove (limit : Int32) (cause : String) (next : Part)
  | nested (mode : Mode) (body handler completion next : Part)
  deriving DecidableEq

abbrev Run :=
  Action Event Int32 String

def mark (event : Int32 → Event) : Run Unit := do
  .note (event (← .get))

-- A guarded block of three runs. Each records that it starts; only the body's value is kept.
def bracket (body handler completion : Run Int32) : Run (Guarded Int32 String) :=
  guarded
    (do mark .body; body)
    (fun e => do mark (.handler · e); discard handler)
    (do mark .completion; discard completion)

def Ending.run : Ending → Run Int32
  | ok n => pure n
  | error e => .throw e
  | panic m => .ofOutcome (.panic m)
  | accumulator => .get

-- Runs a nested block and records what it came to, unless its end goes further.
def Mode.run (mode : Mode) (block : Run (Guarded Int32 String)) : Run Unit :=
  match mode with
  | propagate => do .note (.outcome (← block))
  | ignore => do .note (.ignored (.ofExcept (← block.attempt)))
  | catchAll => do .note (.caught (← block.observe))

def Part.run : Part → Run Int32
  | done ending => ending.run
  | log text next => do
    .note (.log text)
    next.run
  | set n next => do
    .modify fun _ => n
    next.run
  | add n next => do
    .modify fun acc => sum acc n
    next.run
  | failAbove limit e next => do
    if limit < (← .get) then .throw e
    next.run
  | nested mode body handler completion next => do
    mode.run (bracket body.run handler.run completion.run)
    next.run

end Block

structure Block where
  body : Block.Part
  handler : Block.Part
  completion : Block.Part
  deriving DecidableEq

namespace Block

def run (b : Block) : Run (Guarded Int32 String) :=
  bracket b.body.run b.handler.run b.completion.run

instance : Inhabited Part where
  default := .done .accumulator

end Block

end GuardedSum
