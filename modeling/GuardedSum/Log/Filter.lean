import GuardedSum.Log.Directive

namespace GuardedSum.Log

abbrev Filter :=
  List Directive

namespace Filter

def ofLevel (max : Level) : Filter :=
  [{ max := some max }]

def ofText? (text : String) : Option Filter := do
  let parts := (text.splitOn ",").filter (· ≠ "")
  if parts.isEmpty then pure (ofLevel .error) else parts.mapM (Directive.ofText? ·.toList)

variable (f : Filter)

def mostSpecific (p : Directive → Bool) : Option Directive :=
  (f.filter p).foldl choose none
where
  -- Of two directives that are equally specific, the later is kept.
  choose (best : Option Directive) (d : Directive) : Option Directive :=
    if best.any (d.isVaguer ·) then best else some d

def admits (p : Directive → Bool) (level : Level) : Bool :=
  (f.mostSpecific p).any (·.max.any (·.admits level))

-- Whether any directive may admit a level. A value of a field is known only once there is a span,
-- so a directive that asks for one has all spans looked at.
def considers (level : Level) : Bool :=
  f.any fun d => d.max.any (·.admits level) || d.field.any (·.valued)

def effective : Filter → List Directive
  | [] => []
  | d :: ds => if ds.any d.sharesPlace then effective ds else d :: effective ds

-- A span is seen if a directive names it, whatever level that admits within, or if it is plain.
def seesSpan (s : Span) : Bool :=
  f.considers s.level && f.any (·.names s) || f.admits (·.appliesToSpan s) s.level

def admitsWithin (s : Span) (level : Level) : Bool :=
  f.seesSpan s && f.effective.any fun d => d.names s && d.max.any (·.admits level)

def sees (e : Entry) : Bool :=
  e.spans.any (f.admitsWithin · e.level) || f.admits (·.applies e) e.level

def select : List Entry → List Entry :=
  Log.select f.sees f.seesSpan

end Filter

end GuardedSum.Log
