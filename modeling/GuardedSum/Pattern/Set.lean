import GuardedSum.Pattern.Atom

namespace GuardedSum.Pattern

structure Row where
  count : Nat := 0
  deepest : Nat := 0
  deriving DecidableEq

def Row.add (r : Row) (depth : Nat) : Row where
  count := r.count + 1
  deepest := max r.deepest depth

-- How deep a row is nested. Several things in it are a level of their own.
def Row.depth (r : Row) : Nat :=
  if r.count ≤ 1 then r.deepest else r.deepest + 1

structure OpenSet where
  items : Row := {}
  -- How deep that is nested which stands before the last operator.
  left : Option Nat := none
  -- Whether nothing but dashes was read.
  isNew : Bool := true
  deriving DecidableEq

namespace OpenSet

def depth (s : OpenSet) : Nat :=
  match s.left with
  | none => s.items.depth
  | some d => max d s.items.depth + 1

def add (s : OpenSet) (depth : Nat) : OpenSet :=
  { s with items := s.items.add depth, isNew := false }

def operate (s : OpenSet) : OpenSet where
  left := some s.depth
  isNew := false

def classNames : List String :=
  ["alnum", "alpha", "ascii", "blank", "cntrl", "digit", "graph", "lower", "print", "punct",
    "space", "upper", "word", "xdigit"]

def ofName? : List Char → Option (Bool × List Char)
  | ':' :: text =>
    let negated := text.head? = some '^'
    let text := if negated then text.tail else text
    let name := text.takeWhile (· ≠ ':')
    match text.drop name.length with
    | ':' :: ']' :: rest =>
      if classNames.contains (.ofList name) then some (negated, rest) else none
    | _ => none
  | _ => none

def afterCaret? (m : Modes) (text : List Char) : Option (List Char) :=
  match m.skip text with
  | '^' :: rest => if m.unicode then some rest else none
  | rest => some rest

-- Reads past a character or a range. A dash makes no range at the end or before another dash.
def afterRange? (m : Modes) (text : List Char) : Option (List Char) := do
  let (first, rest) ← Atom.ofSet? m text
  guard (first.isMember m)
  match m.skip rest with
  | '-' :: rest =>
    if m.peek rest = some ']' || m.peek rest = some '-' then pure ('-' :: rest)
    else
      let (last, rest) ← Atom.ofSet? m (m.skip rest)
      guard (last.isMember m)
      guard ((← first.char?) ≤ (← last.char?))
      pure rest
  | rest => pure rest

-- Reads a set to its end. Every step takes a character.
def read? (m : Modes) : Nat → OpenSet → List Char → Option (Nat × List Char)
  | 0, _, _ => none
  | n + 1, s, text =>
    match m.skip text with
    | [] => none
    | c :: rest =>
      let item depth rest := read? m n (s.add depth) rest
      if s.isNew && c = '-' then do
        guard (Atom.isMember m (.char c))
        read? m n { s with items := s.items.add 0 } rest
      else if s.isNew && s.items.count = 0 && c = ']' then do
        guard (Atom.isMember m (.char c))
        item 0 rest
      else
        match c, rest with
        | ']', rest => some (s.depth + 1, rest)
        | '[', rest =>
          match ofName? rest with
          | some (negated, rest) => do
            guard (if m.unicode then !m.caseless else !negated)
            item 0 rest
          | none => do
            let (depth, rest) ← read? m n {} (← afterCaret? m rest)
            item depth rest
        | '&', '&' :: rest | '-', '-' :: rest | '~', '~' :: rest => read? m n s.operate rest
        | c, rest => do item 0 (← afterRange? m (c :: rest))

def ofText? (m : Modes) (text : List Char) : Option (Nat × List Char) := do
  read? m (text.length + 1) {} (← afterCaret? m text)

end OpenSet

end GuardedSum.Pattern
