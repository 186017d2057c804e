import GuardedSum.Error.Basic

namespace GuardedSum

mutual

theorem IoError.sizeOf_source?_lt {s : AnyError} :
    (e : IoError) → (h : e.source? = some s) → sizeOf s < sizeOf e
  | .custom _ p, h => by
    have := AnyError.sizeOf_source?_lt p h
    simp only [IoError.custom.sizeOf_spec]
    omega

theorem ProgramError.sizeOf_source?_le {s : AnyError} :
    (e : ProgramError) → (h : e.source? = some s) → sizeOf s ≤ sizeOf e
  | .output e, h => by
    obtain rfl : AnyError.io e = s := Option.some.inj h
    simp

theorem AnyError.sizeOf_source?_lt {s : AnyError} :
    (e : AnyError) → (h : e.source? = some s) → sizeOf s < sizeOf e
  | .io e, h => by
    have := e.sizeOf_source?_lt h
    simp only [AnyError.io.sizeOf_spec]
    omega
  | .program e, h => by
    have := e.sizeOf_source?_le h
    simp only [AnyError.program.sizeOf_spec]
    omega
  | .because _ t, h => by
    obtain rfl : t = s := Option.some.inj h
    simp only [AnyError.because.sizeOf_spec]
    omega

end

def AnyError.sources (e : AnyError) : List AnyError :=
  match _ : e.source? with
  | none => []
  | some s => s :: s.sources
termination_by sizeOf e
decreasing_by exact AnyError.sizeOf_source?_lt e ‹_›

namespace ProgramError

def sources (e : ProgramError) : List AnyError :=
  (AnyError.program e).sources

def message (e : ProgramError) : String :=
  ": ".intercalate (e.display :: e.sources.map (·.display))

def kind? : ProgramError → Option ErrorKind
  | injected _ => none
  | output e => some e.kind

end ProgramError

theorem AnyError.sources_of_source?_eq_none {e : AnyError} (h : e.source? = none) :
    e.sources = [] := by
  rw [sources]
  split <;> simp_all

theorem AnyError.sources_of_source?_eq_some {e s : AnyError} (h : e.source? = some s) :
    e.sources = s :: s.sources := by
  rw [sources]
  split <;> simp_all

end GuardedSum
