namespace GuardedSum.CommandLine

-- The parts of a path. Empty parts and single dots lead nowhere and are left out.
def pathParts (path : String) : List String :=
  (path.splitOn "/").filter fun part => part ≠ "" && part ≠ "."

def fileName? (path : String) : Option String :=
  (pathParts path).getLast?.filter (· ≠ "..")

end GuardedSum.CommandLine
