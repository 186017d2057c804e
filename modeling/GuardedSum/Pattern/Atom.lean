import GuardedSum.Pattern.Modes

namespace GuardedSum.Pattern

-- There are no tables of letters to match with, so neither the cases of letters nor the kinds of
-- characters can be told apart beyond ASCII. Whole characters are matched, even for bytes.
inductive Atom where
  | char (c : Char)
  -- A character by two digits. They are a byte if bytes are matched.
  | byte (c : Char)
  | any
  -- The digits, the blanks or the characters of words, or else all but those.
  | kind (negated : Bool)
  | edge
  | wordEdge
  deriving DecidableEq

namespace Atom

def hexDigit? (c : Char) : Option Nat :=
  "0123456789abcdef".toList.idxOf? c.toLower

def code? (m : Modes) (code : Nat) : Nat → List Char → Option (Nat × List Char)
  | 0, text => some (code, text)
  | n + 1, text =>
    match m.skip text with
    | [] => none
    | c :: rest => do code? m (16 * code + (← hexDigit? c)) n rest

def charOfCode? (m : Modes) (digits : Nat) (text : List Char) : Option (Char × List Char) := do
  let (n, rest) ← code? m 0 digits text
  guard n.isValidChar
  pure (.ofNat n, rest)

def isEscapable (c : Char) : Bool :=
  c.toNat ≤ 0x7f && !c.isAlphanum && c ≠ '<' && c ≠ '>'

def ofEscape? (m : Modes) : List Char → Option (Atom × List Char)
  | [] => none
  | c :: rest =>
    match c with
    | 'a' => some (char '\x07', rest)
    | 'f' => some (char '\x0c', rest)
    | 't' => some (char '\t', rest)
    | 'n' => some (char '\n', rest)
    | 'r' => some (char '\r', rest)
    | 'v' => some (char '\x0b', rest)
    | 'x' => (charOfCode? m 2 rest).map fun (c, rest) => (byte c, rest)
    | 'u' => (charOfCode? m 4 rest).map fun (c, rest) => (char c, rest)
    | 'U' => (charOfCode? m 8 rest).map fun (c, rest) => (char c, rest)
    | 'd' | 's' | 'w' => some (kind false, rest)
    | 'D' | 'S' | 'W' => some (kind true, rest)
    | 'A' | 'z' => some (edge, rest)
    | 'b' | 'B' | '<' | '>' => some (wordEdge, rest)
    | _ => if isEscapable c then some (char c, rest) else none

def ofText? (m : Modes) : List Char → Option (Atom × List Char)
  | [] => none
  | '\\' :: rest => ofEscape? m rest
  | '.' :: rest => some (any, rest)
  | '^' :: rest | '$' :: rest => some (edge, rest)
  | c :: rest => some (char c, rest)

def ofSet? (m : Modes) : List Char → Option (Atom × List Char)
  | [] => none
  | '\\' :: rest => ofEscape? m rest
  | c :: rest => some (char c, rest)

def char? : Atom → Option Char
  | char c | byte c => some c
  | _ => none

def isSupported (m : Modes) : Atom → Bool
  | char _ => !(m.unicode && m.caseless)
  | byte c => if m.unicode then !m.caseless else c.toNat ≤ 0x7f
  | any => m.unicode
  | kind negated => !m.unicode && !negated
  | edge => true
  | wordEdge => !m.unicode

-- Whether an atom may be in a set. Sets of bytes are within ASCII.
def isMember (m : Modes) : Atom → Bool
  | char c | byte c => if m.unicode then !m.caseless else c.toNat ≤ 0x7f
  | kind negated => (kind negated).isSupported m
  | _ => false

end Atom

end GuardedSum.Pattern
