import GuardedSum.Log.Entry
import GuardedSum.Text.Inspect

namespace GuardedSum.Log

-- How a message shows a character: what a terminal may take as a command gets its code.
def escape (c : Char) : List Char :=
  if c.toNat ∈ [0x07, 0x08, 0x0c, 0x1b, 0x7f] then
    ['\\', 'x'] ++ Nat.toDigits 16 (c.toNat / 16) ++ Nat.toDigits 16 (c.toNat % 16)
  else if 0x80 ≤ c.toNat ∧ c.toNat ≤ 0x9f then
    ['\\', 'u', '\x7b'] ++ Nat.toDigits 16 c.toNat ++ ['\x7d']
  else [c]

def Value.shown : Value → String
  | .int n => Text.decimal n
  | .text s => s

-- A message is written without its name.
def field (name : String) (v : Value) : String :=
  if name = "message" then .ofList (v.shown.toList.flatMap escape) else name ++ "=" ++ v.shown

namespace Entry

def path (e : Entry) : String :=
  if e.spans.isEmpty then "" else .join (e.spans.map fun s => s.name ++ ":") ++ " "

def line (e : Entry) : String :=
  .ofList (List.replicate (5 - e.level.name.length) ' ') ++ e.level.name ++ " " ++ e.path ++
    e.target ++ ": " ++ " ".intercalate (e.fields.map fun f => field f.1 f.2)

end Entry

end GuardedSum.Log
