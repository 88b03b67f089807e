import PyxProject.Toml.Value

/-!
# Numbers and dates

Whether a word of a configuration file is a number, a date, a time or both. Digits
of a number may be grouped by underscores, each of which stands between two digits
or between the sign and a digit; a decimal number that starts with a digit has no
needless zero in front. An integer has to fit into 128 bits,
and a number with a fraction or an exponent must not round to infinity in double
precision. Dates and times are checked against the calendar and the clock.
-/

namespace PyxProject.Toml

/-- Whether a text is a non-empty run of digits, grouped by single underscores. -/
def isDigits (digit : Char → Bool) (text : Text) : Bool :=
  (text.splitOn '_').all fun group => group != [] && group.all digit

/-- Whether a character is a digit of base two. -/
def isBinary (char : Char) : Bool := char == '0' || char == '1'

/-- Whether a character is a digit of base eight. -/
def isOctal (char : Char) : Bool := '0' ≤ char && char ≤ '7'

/-- Whether a character is a digit of base sixteen. -/
def isHex (char : Char) : Bool :=
  char.isDigit || ('a' ≤ char && char ≤ 'f') || ('A' ≤ char && char ≤ 'F')

/-- The value of a digit of base sixteen. -/
def digitValue (char : Char) : Nat :=
  if char.isDigit then char.toNat - '0'.toNat
  else if 'a' ≤ char ∧ char ≤ 'f' then char.toNat - 'a'.toNat + 10
  else char.toNat - 'A'.toNat + 10

/-- The value of a run of digits, which may be grouped by underscores. -/
def digitsValue (base : Nat) (text : Text) : Nat :=
  (text.filter (· != '_')).foldl (fun value char => value * base + digitValue char) 0

/-- Drop one sign in front. -/
def dropSign : Text → Text
  | '+' :: rest | '-' :: rest => rest
  | text => text

/-- Whether a text is a decimal integer after a sign or without one. -/
def isDecimal (signed : Bool) (text : Text) : Bool :=
  match text with
  | '_' :: digits => signed && isDigits Char.isDigit digits
  | _ => isDigits Char.isDigit text && (text.head? != some '0' || text == ['0'])

/-- The first integer that does not fit into 128 bits without a sign. -/
def integerLimit : Nat := Nat.pow 2 128

/-- The greatest integer whose negative fits into 128 bits with a sign. -/
def negativeLimit : Nat := Nat.pow 2 127

/-- Whether a text is an integer. -/
def isInteger (text : Text) : Bool :=
  match text with
  | '0' :: 'x' :: digits => isDigits isHex digits && digitsValue 16 digits < integerLimit
  | '0' :: 'o' :: digits => isDigits isOctal digits && digitsValue 8 digits < integerLimit
  | '0' :: 'b' :: digits => isDigits isBinary digits && digitsValue 2 digits < integerLimit
  | '-' :: digits => isDecimal true digits && digitsValue 10 digits ≤ negativeLimit
  | '+' :: digits => isDecimal true digits && digitsValue 10 digits < integerLimit
  | _ => isDecimal false text && digitsValue 10 text < integerLimit

/-- Whether a text is the exponent of a number, after its mark. -/
def isExponent (text : Text) : Bool := isDigits Char.isDigit (dropSign text)

/-- The value of an exponent. -/
def exponentValue (text : Text) : Int :=
  let magnitude := Int.ofNat (digitsValue 10 (dropSign text))
  if text.head? = some '-' then -magnitude else magnitude

/-- The least number that rounds to infinity in double precision: the one half way
between the greatest number and the next power of two. -/
def doubleLimit : Nat := Nat.pow 2 1024 - Nat.pow 2 970

/-- Whether a number of the given digits times a power of ten is finite in double
precision. The limit has 309 digits, so only a number of as many needs a closer
look. -/
def isFinite (digits : Nat) (exponent : Int) : Bool :=
  let length := Int.ofNat (Nat.toDigits 10 digits).length + exponent
  if digits = 0 ∨ length < 309 then true
  else if 309 < length then false
  else digits * Nat.pow 10 exponent.toNat < doubleLimit * Nat.pow 10 (-exponent).toNat

/-- The parts of a number: the digits before and after the point, and the text after
the mark of an exponent. -/
structure Parts where
  whole : Text
  fraction? : Option Text
  exponent? : Option Text
deriving DecidableEq, Repr

/-- The parts of a number without sign, if it has at most one point. -/
def parts? (text : Text) : Option Parts :=
  let mantissa := text.takeWhile fun char => char != 'e' && char != 'E'
  let exponent? := match text.drop mantissa.length with
    | [] => none
    | _ :: exponent => some exponent
  match mantissa.splitOn '.' with
  | [whole] => some ⟨whole, none, exponent?⟩
  | [whole, fraction] => some ⟨whole, some fraction, exponent?⟩
  | _ => none

/-- Whether the parts of a number, after a sign or without one, are written as they
have to be, and there is a fraction or an exponent. -/
def Parts.wellFormed (signed : Bool) (parts : Parts) : Bool :=
  isDecimal signed parts.whole && parts.fraction?.all (isDigits Char.isDigit) &&
    parts.exponent?.all isExponent && (parts.fraction?.isSome || parts.exponent?.isSome)

/-- Whether the number that the parts stand for is finite in double precision. -/
def Parts.isFinite (parts : Parts) : Bool :=
  let fraction := (parts.fraction?.getD []).filter (· != '_')
  Toml.isFinite (digitsValue 10 (parts.whole ++ fraction))
    ((parts.exponent?.map exponentValue).getD 0 - fraction.length)

/-- Whether a text, after a sign or without one, is a number with a fraction or an
exponent. -/
def isFractional (signed : Bool) (text : Text) : Bool :=
  (parts? text).any fun parts => parts.wellFormed signed && parts.isFinite

/-- Whether a text is a number. -/
def isNumber (text : Text) : Bool :=
  isInteger text ||
    (let magnitude := dropSign text
     magnitude == "inf" || magnitude == "nan" || isFractional (magnitude != text) magnitude)

/-- The value of a run of decimal digits of the given length. -/
def fixedDigits? (length : Nat) (text : Text) : Option Nat :=
  if text.length = length ∧ text.all Char.isDigit then
    some (text.foldl (fun value char => value * 10 + (char.toNat - '0'.toNat)) 0)
  else none

/-- The number of days of a month. -/
def daysIn (year month : Nat) : Nat :=
  if month = 2 then
    if year % 4 = 0 ∧ (year % 100 ≠ 0 ∨ year % 400 = 0) then 29 else 28
  else if month = 4 ∨ month = 6 ∨ month = 9 ∨ month = 11 then 30
  else 31

/-- Whether a text is a date. -/
def isDate (text : Text) : Bool :=
  match text.splitOn '-' with
  | [year, month, day] =>
    match fixedDigits? 4 year, fixedDigits? 2 month, fixedDigits? 2 day with
    | some year, some month, some day =>
      1 ≤ month && month ≤ 12 && 1 ≤ day && day ≤ daysIn year month
    | _, _, _ => false
  | _ => false

/-- Whether a text is a number of two digits up to a limit. -/
def isUpTo (limit : Nat) (text : Text) : Bool :=
  match fixedDigits? 2 text with
  | some value => value ≤ limit
  | none => false

/-- Whether a text is a time of day. The seconds may be left out. -/
def isTime (text : Text) : Bool :=
  let whole := text.takeWhile (· != '.')
  let fractionOk := match text.drop whole.length with
    | [] => true
    | _ :: fraction => fraction != [] && fraction.all Char.isDigit
  match whole.splitOn ':' with
  | [hour, minute] => isUpTo 23 hour && isUpTo 59 minute && whole == text
  | [hour, minute, second] =>
    isUpTo 23 hour && isUpTo 59 minute && isUpTo 60 second && fractionOk
  | _ => false

/-- Whether a text is the distance from universal time, with its sign. -/
def isOffset : Text → Bool
  | ['Z'] | ['z'] => true
  | '+' :: rest | '-' :: rest =>
    match rest.splitOn ':' with
    | [hour, minute] => isUpTo 23 hour && isUpTo 59 minute
    | _ => false
  | _ => false

/-- Whether a text is a time of day, with an offset or without. -/
def isOffsetTime (text : Text) : Bool :=
  let time := text.takeWhile fun char => char.isDigit || char == ':' || char == '.'
  isTime time && (time == text || isOffset (text.drop time.length))

/-- Whether a text is a date, a time, or a date with a time. -/
def isDateTime (text : Text) : Bool :=
  let date := text.take 10
  isTime text ||
    (isDate date && match text.drop 10 with
      | [] => true
      | mark :: time => (mark == 'T' || mark == 't' || mark == ' ') && isOffsetTime time)

end PyxProject.Toml
