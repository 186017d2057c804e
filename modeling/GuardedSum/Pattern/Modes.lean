import GuardedSum.Text.Blank

namespace GuardedSum.Pattern

structure Modes where
  caseless : Bool := false
  unicode : Bool := true
  spaced : Bool := false
  deriving DecidableEq

-- Text behind blanks and comments. A comment begins with a number sign and ends with its line.
def skipBlanks (comment : Bool) : List Char → List Char
  | [] => []
  | c :: cs =>
    if comment then skipBlanks (c ≠ '\n') cs
    else if c = '#' then skipBlanks true cs
    else if Text.isBlank c then skipBlanks false cs
    else c :: cs

namespace Modes

def skip (m : Modes) (text : List Char) : List Char :=
  if m.spaced then skipBlanks false text else text

-- A look at the next character, which sees no more of a comment than the sign it begins with.
def peek (m : Modes) (text : List Char) : Option Char :=
  if m.spaced then
    match text.dropWhile Text.isBlank with
    | '#' :: rest => (rest.dropWhile Text.isBlank).head?
    | rest => rest.head?
  else text.head?

-- Sets the mode with a letter. Some modes make no difference to what can be read.
def set? (m : Modes) (on : Bool) : Char → Option Modes
  | 'i' => some { m with caseless := on }
  | 'u' => some { m with unicode := on }
  | 'x' => some { m with spaced := on }
  | 'm' | 's' | 'R' | 'U' => some m
  | _ => none

-- Sets modes by letters, which must not repeat. After a dash there has to be something to set.
def setAll? (m : Modes) (letters : List Char) : Option Modes := do
  guard (letters.Nodup ∧ letters.getLast? ≠ some '-')
  let m ← (letters.takeWhile (· ≠ '-')).foldlM (set? · true) m
  (letters.dropWhile (· ≠ '-')).tail.foldlM (set? · false) m

end Modes

end GuardedSum.Pattern
