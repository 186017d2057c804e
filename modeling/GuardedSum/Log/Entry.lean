namespace GuardedSum.Log

inductive Level where
  | error
  | warn
  | info
  | debug
  | trace
  deriving DecidableEq

namespace Level

def rank : Level → Nat
  | error => 1
  | warn => 2
  | info => 3
  | debug => 4
  | trace => 5

-- A level admits itself and all that is more severe.
def admits (max level : Level) : Bool :=
  level.rank ≤ max.rank

def name : Level → String
  | error => "ERROR"
  | warn => "WARN"
  | info => "INFO"
  | debug => "DEBUG"
  | trace => "TRACE"

@[simp]
theorem trace_admits (l : Level) : trace.admits l := by
  cases l <;> rfl

end Level

inductive Value where
  | int (n : Int32)
  | text (s : String)
  deriving DecidableEq

-- A stretch of a computation. The entries logged during it list it among their spans.
structure Span where
  name : String
  level : Level
  target : String
  deriving DecidableEq

-- One entry, with its spans from the outermost inwards. Two fields may share a name.
structure Entry where
  level : Level
  target : String
  fields : List (String × Value)
  spans : List Span := []
  deriving DecidableEq

namespace Entry

def within (s : Span) (e : Entry) : Entry :=
  { e with spans := s :: e.spans }

@[simp]
theorem within_spans (s : Span) (e : Entry) : (e.within s).spans = s :: e.spans :=
  rfl

end Entry

def select (sees : Entry → Bool) (seesSpan : Span → Bool) (entries : List Entry) : List Entry :=
  (entries.filter sees).map fun e => { e with spans := e.spans.filter seesSpan }

def atLevel (max : Level) : List Entry → List Entry :=
  select (max.admits ·.level) (max.admits ·.level)

@[simp]
theorem atLevel_trace (entries : List Entry) : atLevel .trace entries = entries := by
  simp [atLevel, select, List.filter_eq_self.mpr]

end GuardedSum.Log
