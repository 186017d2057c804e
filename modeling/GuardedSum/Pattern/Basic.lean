import GuardedSum.Pattern.Set
import GuardedSum.Text.Alphanumeric

namespace GuardedSum.Pattern

def isGroupName : List Char → Bool
  | [] => false
  | c :: cs =>
    (c = '_' || Text.isAlphabetic c) &&
      cs.all fun c => Text.isAlphanumeric c || c = '_' || c = '.' || c = '[' || c = ']'

inductive Opening where
  -- Nothing but modes, which are set from here on.
  | modes (m : Modes)
  -- A group in its own modes, which may have a name.
  | group (m : Modes) (name : Option (List Char))
  deriving DecidableEq

namespace Opening

def ofName? (m : Modes) (text : List Char) : Option (Opening × List Char) :=
  let name := text.takeWhile (· ≠ '>')
  match text.drop name.length with
  | _ :: rest => if isGroupName name then some (group m (some name), rest) else none
  | [] => none

def ofText? (m : Modes) (text : List Char) : Option (Opening × List Char) :=
  match m.skip text with
  | '?' :: '<' :: rest => ofName? m rest
  | '?' :: 'P' :: '<' :: rest => ofName? m rest
  | '?' :: rest =>
    let letters := rest.takeWhile fun c => c ≠ ':' && c ≠ ')'
    match rest.drop letters.length with
    | ':' :: rest => (m.setAll? letters).map fun m => (group m none, rest)
    | ')' :: rest =>
      if letters.isEmpty then none else (m.setAll? letters).map fun m => (modes m, rest)
    | _ => none
  | rest => some (group m none, rest)

end Opening

structure OpenGroup where
  modes : Modes := {}
  names : List (List Char) := []
  branches : Row := {}
  parts : Row := {}
  last : Option Nat := none
  deriving DecidableEq

namespace OpenGroup

def depth (g : OpenGroup) : Nat :=
  (g.branches.add g.parts.depth).depth

def add (g : OpenGroup) (depth : Nat) : OpenGroup :=
  { g with parts := g.parts.add depth, last := some depth }

-- Sets modes. That is a part too, but none to be repeated.
def setModes (g : OpenGroup) (m : Modes) : OpenGroup :=
  { g.add 0 with modes := m, last := none }

def branch (g : OpenGroup) : OpenGroup :=
  { g with branches := g.branches.add g.parts.depth, parts := {}, last := none }

def repeat? (g : OpenGroup) : Option OpenGroup :=
  g.last.map fun d =>
    { g with
      parts := { g.parts with deepest := max g.parts.deepest (d + 1) }
      last := some (d + 1) }

-- Names a group, unless another has the name.
def name? (g : OpenGroup) : Option (List Char) → Option (List (List Char))
  | none => some g.names
  | some name => if g.names.contains name then none else some (name :: g.names)

-- Reads a group up to the parenthesis that closes it, or to the end. Every step takes a character.
-- An open brace begins a count, which cannot be closed.
def read? : Nat → OpenGroup → List Char → Option (OpenGroup × List Char)
  | 0, _, _ => none
  | n + 1, g, text =>
    match g.modes.skip text with
    | [] => some (g, [])
    | ')' :: rest => some (g, ')' :: rest)
    | '|' :: rest => read? n g.branch rest
    | '(' :: rest => do
      match ← Opening.ofText? g.modes rest with
      | (.modes m, rest) => read? n (g.setModes m) rest
      | (.group m name, rest) =>
        match ← read? n { modes := m, names := ← g.name? name } rest with
        | (inner, _ :: rest) => read? n ({ g with names := inner.names }.add (inner.depth + 1)) rest
        | (_, []) => none
    | '[' :: rest => do
      let (depth, rest) ← OpenSet.ofText? g.modes rest
      read? n (g.add depth) rest
    | '\x7b' :: _ => none
    | '?' :: rest | '*' :: rest | '+' :: rest => do
      read? n (← g.repeat?) (if rest.head? = some '?' then rest.tail else rest)
    | rest => do
      let (a, rest) ← Atom.ofText? g.modes rest
      guard (a.isSupported g.modes)
      read? n (g.add 0) rest

end OpenGroup

def depthLimit : Nat :=
  250

def isPattern (text : List Char) : Bool :=
  match OpenGroup.read? (text.length + 1) {} text with
  | some (g, []) => g.depth ≤ depthLimit
  | _ => false

end GuardedSum.Pattern
