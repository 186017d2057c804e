import GuardedSum.Log.Entry
import GuardedSum.Log.Number
import GuardedSum.Pattern.Basic
import GuardedSum.Text.Alphanumeric
import GuardedSum.Text.Blank
import GuardedSum.Text.Bytes

namespace GuardedSum.Log

-- The level with a number. Turning everything off counts as one.
def Level.ofNumber? : Nat → Option (Option Level)
  | 0 => some none
  | 1 => some (some .error)
  | 2 => some (some .warn)
  | 3 => some (some .info)
  | 4 => some (some .debug)
  | 5 => some (some .trace)
  | _ => none

def Level.ofName? (text : List Char) : Option (Option Level) :=
  match String.ofList (text.map Char.toLower) with
  | "off" => some none
  | "error" => some (some .error)
  | "warn" => some (some .warn)
  | "info" => some (some .info)
  | "debug" => some (some .debug)
  | "trace" => some (some .trace)
  | _ => none

def Level.ofText? (text : List Char) : Option (Option Level) :=
  (natural? text).elim (ofName? text) ofNumber?

structure Directive.Field where
  name : List Char
  -- Whether a value is asked for too.
  valued : Bool
  deriving DecidableEq

-- Admits a level, for a target, for a span and for a field. It is written as the target, the span
-- in brackets with the field in braces behind its name, and the level after an equals sign. Each of
-- these may be left out, but not all of them.
structure Directive where
  target : List Char := []
  span : Option (List Char) := none
  field : Option Directive.Field := none
  max : Option Level
  deriving DecidableEq

namespace Directive

-- Reads a field. The value that is asked for stands between equals signs, and has to be a number or
-- a pattern.
def Field.ofText? (text : List Char) : Option Field :=
  let name := text.takeWhile (· ≠ '=')
  match text.drop name.length with
  | [] => some { name, valued := false }
  | _ :: rest =>
    let value := rest.takeWhile (· ≠ '=')
    if isNumber value || Pattern.isPattern value then some { name, valued := true } else none

def mayBegin (c : Char) : Bool :=
  Text.isAlphanumeric c || c = '-' || c = ':' || c = '_' || c = '['

-- Sets the level that is read from a place on. If the text ends there, all levels are admitted.
def withLevel? (d : Directive) (text : List Char) (start : Nat) : Option Directive := do
  match Text.dropBytes start text with
  | [] => pure { d with max := some .trace }
  | level => pure { d with max := ← Level.ofText? level }

-- Goes on after the target and the rest before the level, where nothing else may follow.
def close? (d : Directive) (text : List Char) (start : Nat) : List Char → Option Directive
  | [] => some { d with max := some .trace }
  | '=' :: _ => d.withLevel? text (start + 1)
  | _ => none

def ofBracket? (target text : List Char) (start : Nat) (rest : List Char) : Option Directive := do
  let piece start size := Text.takeBytes size (Text.dropBytes start text)
  let name := rest.takeWhile fun c => c ≠ ']' && c ≠ '\x7b'
  let n := Text.size name
  let span := piece start n
  match rest.drop name.length with
  | ']' :: after => close? { target, span, max := none } text (start + n + 1) after
  | _ :: inner =>
    let field := inner.takeWhile (· ≠ '\x7d')
    let m := Text.size field
    match inner.drop field.length with
    | '\x7d' :: ']' :: after =>
      guard (m ≠ 0)
      let field ← Field.ofText? (piece (start + n + 1) m)
      let span := if n = 0 then none else some span
      close? { target, span, field, max := none } text (start + n + m + 3) after
    | _ => none
  | [] => none

-- Reads a directive. Where its parts end is found without the blanks around it, but the parts are
-- cut out of the text as it stands, so blanks before a directive shift them.
def ofText? (text : List Char) : Option Directive := do
  let trimmed := Text.trim text
  guard (trimmed.head?.any mayBegin)
  let front := trimmed.takeWhile fun c => c ≠ '=' && c ≠ '['
  let n := Text.size front
  let target := Text.takeBytes n text
  match trimmed.drop front.length with
  | [] =>
    match Level.ofText? text with
    | some max => pure { max }
    | none => pure { target := text, max := some .trace }
  | '=' :: _ => withLevel? { target, max := none } text (n + 1)
  | _ :: rest => ofBracket? target text (n + 1) rest

-- Whether it is known of an entry without a look at its spans if the directive applies.
def isPlain (d : Directive) : Bool :=
  d.span.isNone && !d.field.any (·.valued)

def covers (d : Directive) (target : String) : Bool :=
  d.target.isPrefixOf target.toList

def applies (d : Directive) (e : Entry) : Bool :=
  d.isPlain && d.covers e.target && d.field.all fun f => e.fields.any (·.1.toList = f.name)

-- Whether a plain directive applies to a span. No field is asked of spans.
def appliesToSpan (d : Directive) (s : Span) : Bool :=
  d.isPlain && d.covers s.target

-- Whether a directive asks for entries within a span. A span has no fields to be asked for.
def names (d : Directive) (s : Span) : Bool :=
  d.span = some s.name.toList && d.field.isNone && d.covers s.target

-- Whether one plain directive is less specific than another: its target is shorter, or it is the
-- same and there is no field, or a field with a name further up in the alphabet.
def isVaguer (c d : Directive) : Bool :=
  c.target.length < d.target.length ||
    c.target.length = d.target.length &&
      match c.field, d.field with
      | none, some _ => true
      | some f, some g => f.name < g.name
      | _, none => false

def sharesPlace (c d : Directive) : Bool :=
  c.target = d.target && c.span = d.span && c.field = d.field

end Directive

end GuardedSum.Log
