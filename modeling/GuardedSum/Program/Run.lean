import GuardedSum.Console
import GuardedSum.Error.Chain
import GuardedSum.Guarded
import GuardedSum.Program.Options
import GuardedSum.Sum

namespace GuardedSum.Program

structure Report where
  -- The sum that was written, if the block completed.
  sum : Option Int32
  -- The message of the error that was caught, if there was one.
  caught : Option String
  trailing : Int32
  deriving DecidableEq

def Report.inspect (r : Report) : String :=
  Text.record "RunReport"
    [("sum", Text.option (r.sum.map Text.decimal)),
      ("caught", Text.option (r.caught.map Text.quoted)),
      ("trailing", Text.decimal r.trailing)]

def target : String :=
  "testcfg_core::program"

def span : Log.Span where
  name := "run"
  level := .info
  target := target

def summed (message : String) (a b : Int32) : Log.Entry where
  level := .debug
  target := target
  fields := [("message", .text message), ("a", .int a), ("b", .int b), ("sum", .int (sum a b))]

def failed (message : String) : Log.Entry where
  level := .warn
  target := target
  fields := [("message", .text "guarded block failed"), ("message", .text message)]

def sumLine (c : Int32) : String :=
  "Sum: " ++ Text.decimal c

def exceptionLine (message : String) : String :=
  "Exception: " ++ message

def completionLine : String :=
  "Finally block executed"

variable {γ κ : Type} (console : Console γ κ)

def ask (text : String) : Action (Request γ) κ ProgramError Unit :=
  (console.request text).mapError .output

def body (opts : Options) : Action (Request γ) κ ProgramError Int32 := do
  let (a, b) := opts.operands
  -- The sum is logged even if a fault keeps it from being written.
  .emit (summed "computed guarded sum" a b)
  match opts.fault with
  | some m => .throw (.injected m)
  | none =>
    ask console (sumLine (sum a b))
    pure (sum a b)

def handler (e : ProgramError) : Action (Request γ) κ ProgramError Unit := do
  .emit (failed e.message)
  ask console (exceptionLine e.message)

def completion : Action (Request γ) κ ProgramError Unit :=
  ask console completionLine

def report (outcome : Guarded Int32 ProgramError) (trailing : Int32) : Report where
  sum := outcome.completed?
  caught := outcome.caught?.map (·.message)
  trailing := trailing

def run (opts : Options) : Action (Request γ) κ ProgramError Report :=
  .inSpan span do
    let outcome ← guarded (body console opts) (handler console) (completion console)
    let (a, b) := opts.trailing
    .emit (summed "computed trailing sum" a b)
    pure (report outcome (sum a b))

def runEach (k : κ) (runs : List Options) :
    List (Exit (Request γ) κ ProgramError Report) :=
  Action.runEach k (runs.map (run console))

variable {console} {opts : Options} {k : κ} {runs : List Options}

theorem runEach_of_abort (h : (run console opts k).outcome = .abort) :
    runEach console k (opts :: runs) = [run console opts k] :=
  Action.runEach_of_abort h

theorem runEach_of_ne_abort (h : (run console opts k).outcome ≠ .abort) :
    runEach console k (opts :: runs) =
      run console opts k :: runEach console (run console opts k).state runs :=
  Action.runEach_of_ne_abort h

end GuardedSum.Program
