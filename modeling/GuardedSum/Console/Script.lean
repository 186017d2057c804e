import GuardedSum.Console

namespace GuardedSum.Console

abbrev Script :=
  List (Outcome IoError Unit)

def Script.console : Console Empty Script where
  line _ script := { outcome := script.headD (.ok ()), state := script.tail }

end GuardedSum.Console
