import GuardedSum.Console

namespace GuardedSum.Console

inductive Stdout where
  | writable
  | unwritable (errno : Errno)
  | closed

-- What an output is that fails with an error number: without a descriptor it is closed.
def Stdout.ofErrno (n : Errno) : Stdout :=
  if n = .badDescriptor then .closed else .unwritable n

def Stdout.console : Console String Stdout where
  line text
    | .writable => { outcome := .ok (), state := .writable, record := [text ++ "\n"] }
    | .unwritable n => { outcome := .error (.ofErrno n), state := .unwritable n }
    | .closed => { outcome := .ok (), state := .closed }

end GuardedSum.Console
