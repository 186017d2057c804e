import GuardedSum.Error.Errno
import GuardedSum.Text.Inspect

namespace GuardedSum

mutual

inductive IoError where
  | ofKind (kind : ErrorKind)
  | ofErrno (errno : Errno)
  | described (kind : ErrorKind) (message : String)
  | custom (kind : ErrorKind) (payload : AnyError)

inductive ProgramError where
  | injected (message : String)
  | output (cause : IoError)

inductive AnyError where
  | io (e : IoError)
  | program (e : ProgramError)
  | text (message : String)
  | because (message : String) (source : AnyError)

end

deriving instance DecidableEq for IoError, ProgramError, AnyError

-- The error of a write that accepts nothing although there is something to write.
def IoError.writeZero : IoError :=
  .described .writeZero "failed to write whole buffer"

def IoError.kind : IoError → ErrorKind
  | .ofKind k => k
  | .ofErrno n => n.kind
  | .described k _ => k
  | .custom k _ => k

mutual

def IoError.display : IoError → String
  | .ofKind k => k.description
  | .ofErrno n => n.text ++ " (os error " ++ toString n.code ++ ")"
  | .described _ m => m
  | .custom _ p => p.display

def ProgramError.display : ProgramError → String
  | .injected m => m
  | .output _ => "failed to write output"

def AnyError.display : AnyError → String
  | .io e => e.display
  | .program e => e.display
  | .text m => m
  | .because m _ => m

end

mutual

def IoError.inspect : IoError → String
  | .ofKind k => Text.variant "Kind" [k.name]
  | .ofErrno n =>
    Text.record "Os"
      [("code", toString n.code), ("kind", n.kind.name), ("message", Text.quoted n.text)]
  | .described k m => Text.record "Error" [("kind", k.name), ("message", Text.quoted m)]
  | .custom k p => Text.record "Custom" [("kind", k.name), ("error", p.inspect)]

def ProgramError.inspect : ProgramError → String
  | .injected m => Text.variant "Injected" [Text.quoted m]
  | .output e => Text.variant "Output" [e.inspect]

def AnyError.inspect : AnyError → String
  | .io e => e.inspect
  | .program e => e.inspect
  | .text m => Text.quoted m
  | .because m _ => Text.quoted m

end

-- A custom error speaks for its payload, so the payload is not among the sources.

mutual

def IoError.source? : IoError → Option AnyError
  | .ofKind _ => none
  | .ofErrno _ => none
  | .described _ _ => none
  | .custom _ p => p.source?

def ProgramError.source? : ProgramError → Option AnyError
  | .injected _ => none
  | .output e => some (.io e)

def AnyError.source? : AnyError → Option AnyError
  | .io e => e.source?
  | .program e => e.source?
  | .text _ => none
  | .because _ s => some s

end

end GuardedSum
