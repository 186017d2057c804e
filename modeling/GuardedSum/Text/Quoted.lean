import GuardedSum.Text.Unprintable

namespace GuardedSum.Text

-- A code point in lower-case hexadecimal, without leading zeros.
def hex (n : Nat) : List Char :=
  Nat.toDigits 16 n

def escape (c : Char) : List Char :=
  if c = '"' then ['\\', '"']
  else if c = '\\' then ['\\', '\\']
  else if c = '\n' then ['\\', 'n']
  else if c = '\r' then ['\\', 'r']
  else if c = '\t' then ['\\', 't']
  else if c = '\x00' then ['\\', '0']
  else if isUnprintable c then ['\\', 'u', '\x7b'] ++ hex c.toNat ++ ['\x7d']
  else [c]

def quoted (s : String) : String :=
  .ofList (['"'] ++ s.toList.flatMap escape ++ ['"'])

@[simp]
theorem toList_quoted (s : String) :
    (quoted s).toList = ['"'] ++ s.toList.flatMap escape ++ ['"'] :=
  String.toList_ofList

end GuardedSum.Text
