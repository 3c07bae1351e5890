import SqlLineage.Toml.Value

/-!
# Numbers, truth values, dates and times

The values that are written without quotes or brackets, from the characters they are written with.
Digits may be separated by single underscores.
-/

namespace SqlLineage.Toml

/-- Digits, without the underscores between them. -/
def plainDigits? (isDigit : Char → Bool) : List Char → Option (List Char)
  | [] => none
  | [c] => if isDigit c then some [c] else none
  | c :: '_' :: rest => if isDigit c then (plainDigits? isDigit rest).map (c :: ·) else none
  | c :: rest => if isDigit c then (plainDigits? isDigit rest).map (c :: ·) else none

/-- The value of a digit in any base up to sixteen. -/
def digitValue (c : Char) : Nat :=
  if c.isDigit then c.toNat - '0'.toNat
  else if 'a' ≤ c then c.toNat - 'a'.toNat + 10
  else c.toNat - 'A'.toNat + 10

/-- The number that digits of a base write. -/
def numberOf (base : Nat) (digits : List Char) : Nat :=
  digits.foldl (fun value c => base * value + digitValue c) 0

/-- Whether a character is a digit of base sixteen. -/
def isHexDigit (c : Char) : Bool :=
  c.isDigit || ('a' ≤ c && c ≤ 'f') || ('A' ≤ c && c ≤ 'F')

/-- Whether a character is a digit of base eight. -/
def isOctalDigit (c : Char) : Bool :=
  '0' ≤ c && c ≤ '7'

/-- Whether a character is a digit of base two. -/
def isBinaryDigit (c : Char) : Bool :=
  c = '0' || c = '1'

/-- The digits of a decimal number, which starts with a zero only if that is all. -/
def wholeDigits? (text : List Char) : Option (List Char) :=
  match plainDigits? Char.isDigit text with
  | some ('0' :: _ :: _) => none
  | digits => digits

/-- A sign and what follows it; whether the sign is a minus. -/
def splitSign : List Char → Bool × List Char
  | '-' :: rest => (true, rest)
  | '+' :: rest => (false, rest)
  | text => (false, text)

/-- An integer, if it fits in 128 bits. -/
def integerValue (value : Int) : Value :=
  if -(Int.pow 2 127) ≤ value ∧ value < Int.pow 2 128 then .integer value
  else .tooLarge "integer number"

/-- An integer. -/
def integer? (text : List Char) : Option Value :=
  match text with
  | '0' :: 'x' :: digits =>
    (plainDigits? isHexDigit digits).map (fun digits => integerValue (numberOf 16 digits))
  | '0' :: 'o' :: digits =>
    (plainDigits? isOctalDigit digits).map (fun digits => integerValue (numberOf 8 digits))
  | '0' :: 'b' :: digits =>
    (plainDigits? isBinaryDigit digits).map (fun digits => integerValue (numberOf 2 digits))
  | _ =>
    let (negative, digits) := splitSign text
    (wholeDigits? digits).map (fun digits =>
      let size : Int := numberOf 10 digits
      integerValue (if negative then -size else size))

/-- Splits a text at the first character with a property, which is left out. -/
def splitAt? (test : Char → Bool) (text : List Char) : List Char × Option (List Char) :=
  match text.dropWhile (fun c => !test c) with
  | [] => (text, none)
  | _ :: rest => (text.takeWhile (fun c => !test c), some rest)

/-- The real `significand · 10 ^ exponent`. -/
def realOf (negative : Bool) (significand : Nat) (exponent : Int) : Value :=
  let size : Int := (Nat.toDigits 10 significand).length + exponent
  if significand ≠ 0 ∧ 310 < size then .tooLarge "floating-point number"
  else
    let magnitude : Float :=
      if significand = 0 ∨ size < -400 then 0
      else if exponent < 0 then Float.ofScientific significand true exponent.natAbs
      else Float.ofScientific significand false exponent.natAbs
    if magnitude.isInf then .tooLarge "floating-point number"
    else .real (if negative then -magnitude else magnitude)

/-- The exponent of a real. -/
def exponent? (text : List Char) : Option Int :=
  let (negative, digits) := splitSign text
  (plainDigits? Char.isDigit digits).map (fun digits =>
    let size : Int := min (numberOf 10 digits) 1000000
    if negative then -size else size)

/-- A real: a number with a fraction, an exponent or both, or one that is not finite. -/
def real? (text : List Char) : Option Value := do
  let (negative, body) := splitSign text
  if body = ['i', 'n', 'f'] then
    let infinite : Float := 1 / 0
    return .real (if negative then -infinite else infinite)
  else if body = ['n', 'a', 'n'] then return .real (0 / 0)
  else
    let (mantissa, power) := splitAt? (fun c => c = 'e' || c = 'E') body
    let (whole, fraction) := splitAt? (fun c => c = '.') mantissa
    let wholeDigits ← wholeDigits? whole
    let fractionDigits ←
      match fraction with
      | some digits => plainDigits? Char.isDigit digits
      | none => some []
    let exponent ←
      match power with
      | some digits => exponent? digits
      | none => some 0
    let significand := numberOf 10 (wholeDigits ++ fractionDigits)
    let shifted : Int := exponent - fractionDigits.length
    if fraction.isNone && power.isNone then none
    else return realOf negative significand shifted

/-- So many digits, and what follows them. -/
def digitsOf? (count : Nat) (text : List Char) : Option (Nat × List Char) :=
  let digits := text.take count
  if digits.length = count ∧ digits.all Char.isDigit then
    some (numberOf 10 digits, text.drop count)
  else none

/-- What follows a character that has to come next. -/
def afterChar? (test : Char → Bool) : List Char → Option (List Char)
  | c :: rest => if test c then some rest else none
  | [] => none

/-- The days of a month. -/
def daysIn (year month : Nat) : Nat :=
  if month = 2 then
    if year % 4 = 0 ∧ (year % 100 ≠ 0 ∨ year % 400 = 0) then 29 else 28
  else if [4, 6, 9, 11].contains month then 30
  else 31

/-- What follows a date. -/
def afterDate? (text : List Char) : Option (List Char) := do
  let (year, rest) ← digitsOf? 4 text
  let (month, rest) ← digitsOf? 2 (← afterChar? (· = '-') rest)
  let (day, rest) ← digitsOf? 2 (← afterChar? (· = '-') rest)
  if 1 ≤ month ∧ month ≤ 12 ∧ 1 ≤ day ∧ day ≤ daysIn year month then some rest else none

/-- What follows a time of day. -/
def afterTime? (text : List Char) : Option (List Char) := do
  let (hour, rest) ← digitsOf? 2 text
  let (minute, rest) ← digitsOf? 2 (← afterChar? (· = ':') rest)
  let (second, rest) ← digitsOf? 2 (← afterChar? (· = ':') rest)
  if 24 ≤ hour ∨ 60 ≤ minute ∨ 61 ≤ second then none
  else
    match rest with
    | '.' :: fraction =>
      let digits := fraction.takeWhile Char.isDigit
      if digits.isEmpty then none else some (fraction.dropWhile Char.isDigit)
    | _ => some rest

/-- What follows an offset from universal time. -/
def afterOffset? : List Char → Option (List Char)
  | [] => some []
  | c :: rest =>
    if c = 'Z' ∨ c = 'z' then some rest
    else if c = '+' ∨ c = '-' then do
      let (hour, rest) ← digitsOf? 2 rest
      let (minute, rest) ← digitsOf? 2 (← afterChar? (· = ':') rest)
      if 24 ≤ hour ∨ 60 ≤ minute then none else some rest
    else none

/-- Whether a text is a date, a time of day, or both with or without an offset. -/
def isMoment (text : List Char) : Bool :=
  match afterDate? text with
  | some [] => true
  | some rest =>
    ((do afterOffset? (← afterTime? (← afterChar? (fun c => c = 'T' || c = 't' || c = ' ') rest)))
      == some [])
  | none => afterTime? text == some []

/-- The value that characters without quotes or brackets write. -/
def scalar? (text : List Char) : Option Value :=
  if text = "true".toList then some (.truth true)
  else if text = "false".toList then some (.truth false)
  else if isMoment text then some .moment
  else (integer? text).or (real? text)

end SqlLineage.Toml
