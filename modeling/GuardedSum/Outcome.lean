namespace GuardedSum

-- The end of a computation: a value, an error, a panic that unwinds until someone catches it, or
-- the abort of everything, after which nothing runs any more.
inductive Outcome (ε α : Type) where
  | ok (value : α)
  | error (cause : ε)
  | panic (message : String)
  | abort
  deriving DecidableEq

namespace Outcome

variable {ε ζ α : Type}

def ofExcept : Except ε α → Outcome ε α
  | .ok a => .ok a
  | .error e => .error e

def mapError (f : ε → ζ) : Outcome ε α → Outcome ζ α
  | .ok a => .ok a
  | .error e => .error (f e)
  | .panic m => .panic m
  | .abort => .abort

-- The end of a computation whose result no one looks at. Only panics and aborts are left of it.
def discard : Outcome ε α → Outcome Empty Unit
  | .ok _ => .ok ()
  | .error _ => .ok ()
  | .panic m => .panic m
  | .abort => .abort

-- The end of a computation after a cleanup that cannot fail ran on its way out: a panic of the
-- cleanup takes over from a value or an error, and aborts when it meets another panic.
def afterCleanup : Outcome ε α → Outcome Empty Unit → Outcome ε α
  | o, .ok () => o
  | .panic _, .panic _ => .abort
  | .abort, .panic _ => .abort
  | .ok _, .panic m => .panic m
  | .error _, .panic m => .panic m
  | _, .abort => .abort

@[simp]
theorem afterCleanup_ok (o : Outcome ε α) : o.afterCleanup (.ok ()) = o := by
  cases o <;> rfl

@[simp]
theorem afterCleanup_abort (o : Outcome ε α) : o.afterCleanup .abort = .abort := by
  cases o <;> rfl

@[simp]
theorem panic_afterCleanup_panic (m n : String) :
    (panic m : Outcome ε α).afterCleanup (.panic n) = .abort :=
  rfl

@[simp]
theorem ok_afterCleanup_panic (a : α) (m : String) :
    (ok a : Outcome ε α).afterCleanup (.panic m) = .panic m :=
  rfl

@[simp]
theorem error_afterCleanup_panic (e : ε) (m : String) :
    (error e : Outcome ε α).afterCleanup (.panic m) = .panic m :=
  rfl

end Outcome

end GuardedSum
