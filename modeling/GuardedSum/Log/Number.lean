namespace GuardedSum.Log

-- Reads a number in decimal, which may have a plus sign.
def natural? (text : List Char) : Option Nat :=
  let digits := if text.head? = some '+' then text.tail else text
  if !digits.isEmpty && digits.all (·.isDigit) then some (Nat.ofDigitChars 10 digits 0) else none

def unsigned (text : List Char) : List Char :=
  if text.head? = some '+' || text.head? = some '-' then text.tail else text

-- Whether a text is a number in decimal, which may have a point and a power of ten.
def isDecimal (text : List Char) : Bool :=
  let whole := text.takeWhile (·.isDigit)
  let (part, rest) : List Char × List Char :=
    match text.drop whole.length with
    | '.' :: rest => rest.span (·.isDigit)
    | rest => ([], rest)
  (!whole.isEmpty || !part.isEmpty) &&
    match rest with
    | [] => true
    | c :: power =>
      let digits := unsigned power
      (c = 'e' || c = 'E') && !digits.isEmpty && digits.all (·.isDigit)

-- Whether a text is a number with or without a sign. Infinity is one, and so is no number.
def isNumber (text : List Char) : Bool :=
  let text := unsigned text
  isDecimal text || ["inf", "infinity", "nan"].contains (.ofList (text.map Char.toLower))

end GuardedSum.Log
