import GuardedSum.Action
import GuardedSum.Error.Basic

namespace GuardedSum

structure Console (γ κ : Type) where
  line : String → Action γ κ IoError Unit

-- A line that was asked of a console, its answer, and what the console did for it.
structure Request (γ : Type) where
  text : String
  answer : Outcome IoError Unit
  calls : List γ

namespace Console

variable {γ κ : Type} (console : Console γ κ)

def request (text : String) : Action (Request γ) κ IoError Unit :=
  fun k =>
    let e := console.line text k
    { outcome := e.outcome
      state := e.state
      record := [{ text, answer := e.outcome, calls := e.record }]
      log := e.log }

def requestEach (k : κ) (texts : List String) : List (Exit (Request γ) κ IoError Unit) :=
  Action.runEach k (texts.map console.request)

@[simp]
theorem request_outcome (text : String) (k : κ) :
    (console.request text k).outcome = (console.line text k).outcome :=
  rfl

@[simp]
theorem request_state (text : String) (k : κ) :
    (console.request text k).state = (console.line text k).state :=
  rfl

end Console

end GuardedSum
