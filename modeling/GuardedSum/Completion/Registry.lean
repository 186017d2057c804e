import GuardedSum.Block

namespace GuardedSum.Completion

abbrev Named :=
  Completion Block.Event Int32 String Int32

abbrev Registry :=
  List (String × Named)

-- A step that records when it begins and, unless it panics, with what it ended.
def ofPart (acc : Int32) (part : Block.Part) : Named :=
  new acc do
    Block.mark .step
    let result ← part.run.attempt
    Block.mark .accumulator
    .ofExcept result

namespace Registry

inductive Command where
  | new (id : String) (acc : Int32) (step : Block.Part)
  | get (id : String)
  | set (id : String) (value : Int32)
  | add (id : String) (value : Int32)
  | finish (id : String)
  | drop (id : String)
  | unwind (message : String)

inductive Answer where
  | done
  | value (n : Int32)
  | finished (result : Except String Int32)

inductive Refusal where
  | notLive
  | inUse
  deriving DecidableEq

variable {ε α : Type}

def access (id : String) (x : Action Block.Event Int32 Refusal α) :
    Action Block.Event Registry Refusal α :=
  fun r =>
    match r.lookup id with
    | none => Action.throw .notLive r
    | some g =>
      (Completion.access x g).mapState fun g' =>
        r.map fun (name, h) => (name, if name = id then g' else h)

-- Ends a live completion. Its name is free again, whatever becomes of the step.
def consume (id : String) (x : Action Block.Event Named ε α) :
    Action Block.Event Registry Refusal (Except ε α) :=
  fun r =>
    match r.lookup id with
    | none => Action.throw .notLive r
    | some g => (x.attempt g).mapState fun _ => r.filter (·.1 ≠ id)

-- Runs an action inside the scope of a completion, which it does not touch.
def enclose (x : Action Block.Event Unit ε α) (g : Named) : Action Block.Event Unit ε α :=
  fun u => (scope (x.onPart (fun _ => ()) fun _ h => h) g).mapState fun _ => u

-- Panics inside the scopes of all live completions, the newest innermost.
def unwind (message : String) : Action Block.Event Registry Refusal Answer :=
  fun r =>
    -- The fold goes outwards from the panic, so the first completion it puts around is the newest.
    ((r.map (·.2)).foldl enclose (.ofOutcome (.panic message)) ()).mapState fun _ => []

def perform : Command → Action Block.Event Registry Refusal Answer
  | .new id acc step => do
    if (← .get).any (·.1 = id) then .throw .inUse
    .modify ((id, ofPart acc step) :: ·)
    pure .done
  | .get id => access id do
    pure (.value (← .get))
  | .set id n => access id do
    .modify fun _ => n
    pure .done
  | .add id n => access id do
    .modify fun acc => sum acc n
    pure (.value (← .get))
  | .finish id => do
    pure (.finished (← consume id finish))
  | .drop id => do
    discard (consume id Completion.drop)
    pure .done
  | .unwind message => unwind message

def close (r : Registry) : List (String × Exit Block.Event Named Empty Unit) :=
  r.map fun (id, g) => (id, Completion.drop g)

def session (commands : List Command) :
    List (Exit Block.Event Registry Refusal Answer) ×
      List (String × Exit Block.Event Named Empty Unit) :=
  let exits := Action.runEach [] (commands.map perform)
  -- An abort leaves no one to drop the completions that are live.
  let left := exits.getLast?.elim [] fun e => if e.outcome matches .abort then [] else e.state
  (exits, close left)

end Registry

end GuardedSum.Completion
