namespace GuardedSum.Text

abbrev Runs :=
  List (Nat × Nat)

def Runs.contains (runs : Runs) (c : Char) : Bool :=
  runs.any fun (first, last) => first ≤ c.toNat && c.toNat ≤ last

end GuardedSum.Text
