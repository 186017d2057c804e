import GuardedSum.CommandLine.Invocation

namespace GuardedSum.CommandLine

def errnoOf (e : IO.Error) : Errno :=
  (code.bind fun c => Errno.ofCode? c.toNat).getD .inputOutput
where
  code : Option UInt32 :=
    match e with
    | .resourceExhausted _ c _ => some c
    | .resourceVanished c _ => some c
    | .invalidArgument _ c _ => some c
    | .permissionDenied _ c _ => some c
    | .hardwareFault c _ => some c
    | .otherError c _ => some c
    | _ => none

-- If it turns out that the output cannot be written, all is worked out again for what it is.
def deliver (env : Environment) (arguments : List String) : IO Answer := do
  let answer := invoke env arguments
  let out ← IO.getStdout
  try
    out.putStr answer.stdout
    out.flush
    pure answer
  catch e => pure (invoke { env with stdout := .ofErrno (errnoOf e) } arguments)

def answer (arguments : List String) : IO UInt32 := do
  let answer ← deliver { directives := ← IO.getEnv "RUST_LOG" } arguments
  (← IO.getStderr).putStr answer.stderr
  pure answer.code.toUInt32

end GuardedSum.CommandLine

def main (arguments : List String) : IO UInt32 :=
  GuardedSum.CommandLine.answer arguments
