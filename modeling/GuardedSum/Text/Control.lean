namespace GuardedSum.Text

inductive Head where
  | start
  | parameters
  | intermediate
  deriving DecidableEq

-- Where a reader stands who tells control sequences from text.
inductive Control where
  | text
  | escape
  -- After an escape character and further ones that call for yet another.
  | intermediate
  | parameters
  | device (head : Head)
  -- Within a string for the terminal, which a bell may end.
  | string (bell : Bool)
  deriving DecidableEq

-- Tabs and ends of lines and pages. The space is no control.
def isBlankControl (c : Char) : Bool :=
  c = '\t' || c = '\n' || c = '\x0c' || c = '\r'

namespace Control

def between (first last c : Char) : Bool :=
  first ≤ c && c ≤ last

def shows : Control → Char → Bool
  | text, c => isBlankControl c || (' ' ≤ c && c ≠ '\x7f')
  | device _, _ => false
  | string _, _ => false
  | _, c => isBlankControl c

-- Whether a character holds the byte that ends a string for the terminal.
def isTerminator (c : Char) : Bool :=
  (String.utf8EncodeChar c).contains 0x9c

def afterHead (head : Head) (c : Char) : Control :=
  if between '@' '~' c then string false
  else if between ' ' '/' c then device .intermediate
  else if between '0' '?' c then
    match head with
    | .start => device .parameters
    | .parameters => if c ≤ ';' then device .parameters else string false
    | .intermediate => string false
  else device head

def after (q : Control) (c : Char) : Control :=
  if c = '\x1b' then escape
  else if c = '\x18' || c = '\x1a' then text
  else
    match q with
    | text => text
    | escape =>
      if c = '[' then parameters
      else if c = ']' then string true
      else if c = 'P' then device .start
      else if c = 'X' || c = '^' || c = '_' then string false
      else if between ' ' '/' c then intermediate
      else if between '0' '~' c then text
      else escape
    | intermediate => if between '0' '~' c then text else intermediate
    | parameters => if between '@' '~' c then text else parameters
    | device head => afterHead head c
    | string bell =>
      if (if bell then c = '\x07' else isTerminator c) then text else string bell

end Control

inductive Medium where
  -- A string. A blank within a sequence breaks it off.
  | string
  -- A stream. A blank within a sequence interrupts it: what follows is text, but the next character
  -- that is no text is taken for a part of the sequence. A character above ASCII breaks it off.
  | stream
  deriving DecidableEq

structure Reader where
  control : Control := .text
  -- Whether the sequence is interrupted.
  interrupted : Bool := false
  deriving DecidableEq

namespace Reader

def shows (r : Reader) (c : Char) : Bool :=
  (if r.interrupted then .text else r.control).shows c

def after (medium : Medium) (r : Reader) (c : Char) : Reader :=
  if r.shows c then
    { control := if medium = .stream && c.toNat ≤ 0x7f then r.control else .text
      interrupted := true }
  else { control := r.control.after c }

def textOf (medium : Medium) (r : Reader) : List Char → List Char
  | [] => []
  | c :: cs =>
    let rest := (r.after medium c).textOf medium cs
    if r.shows c then c :: rest else rest

end Reader

def withoutControls (medium : Medium) (s : String) : String :=
  .ofList (({} : Reader).textOf medium s.toList)

end GuardedSum.Text
