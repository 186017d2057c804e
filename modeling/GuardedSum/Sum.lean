namespace GuardedSum

def sum (a b : Int32) : Int32 :=
  a + b

-- The sum after each value of a list, begun at `start`.
def runningSums (start : Int32) : List Int32 → List Int32
  | [] => []
  | v :: vs => sum start v :: runningSums (sum start v) vs

@[simp]
theorem runningSums_nil (start : Int32) : runningSums start [] = [] :=
  rfl

@[simp]
theorem runningSums_cons (start v : Int32) (vs : List Int32) :
    runningSums start (v :: vs) = sum start v :: runningSums (sum start v) vs :=
  rfl

@[simp]
theorem length_runningSums (start : Int32) (vs : List Int32) :
    (runningSums start vs).length = vs.length := by
  induction vs generalizing start with
  | nil => rfl
  | cons v vs ih => simp [ih]

end GuardedSum
