/-!
# The shortest decimal of a binary fraction

A finite double is `significand · 2 ^ exponent`.  Of the decimals that round back to it, the text of
a real uses one with the fewest digits, and of those the nearest.  All comparisons are made between
natural numbers, so nothing is rounded on the way.
-/

namespace SqlLineage.Decimal

/-- A positive double, split into the integer part of its representation and a power of two. -/
structure Binary where
  significand : Nat
  exponent : Int
  /-- The next smaller double is only half as far away as the next larger one. -/
  narrowBelow : Bool

/-- The representation of a double's magnitude; nothing for infinities and for values that are no
number. -/
def Binary.ofFloat? (value : Float) : Option Binary :=
  let bits : Nat := value.toBits.toNat % Nat.pow 2 63
  let fraction : Nat := bits % Nat.pow 2 52
  let scale : Nat := bits / Nat.pow 2 52
  if scale = 2047 then none
  else if scale = 0 then some ⟨fraction, -1074, false⟩
  else some ⟨fraction + Nat.pow 2 52, (scale : Int) - 1075, fraction = 0 && scale > 1⟩

/-- `n · 2 ^ twos` compared with `k · 10 ^ tens`. -/
def compareScaled (n : Nat) (twos : Int) (k : Nat) (tens : Int) : Ordering :=
  let left := n * Nat.pow 2 twos.toNat * Nat.pow 10 (-tens).toNat
  let right := k * Nat.pow 10 tens.toNat * Nat.pow 2 (-twos).toNat
  compare left right

/-- The largest multiple of `10 ^ tens` that is at most `n · 2 ^ twos`, counted in that unit. -/
def floorScaled (n : Nat) (twos tens : Int) : Nat :=
  (n * Nat.pow 2 twos.toNat * Nat.pow 10 (-tens).toNat)
    / (Nat.pow 10 tens.toNat * Nat.pow 2 (-twos).toNat)

/-- The decimal `k · 10 ^ tens` rounds back to the double: it lies between the midpoints to the two
neighbours, which themselves belong to the double with the even significand. -/
def Binary.rounds (value : Binary) (k : Nat) (tens : Int) : Bool :=
  let quarter := value.exponent - 2
  let low := 4 * value.significand - (if value.narrowBelow then 1 else 2)
  let high := 4 * value.significand + 2
  let even := value.significand % 2 = 0
  let below := compareScaled low quarter k tens
  let above := compareScaled high quarter k tens
  (below == .lt || (even && below == .eq)) && (above == .gt || (even && above == .eq))

/-- The exponent of the leading decimal digit, searched from `guess` upwards. -/
def Binary.leading (value : Binary) (guess : Int) : Nat → Int
  | 0 => guess
  | steps + 1 =>
    if compareScaled value.significand value.exponent 1 (guess + 1) == .lt then guess
    else value.leading (guess + 1) steps

/-- Looks for a decimal on the grids of `digits`, `digits + 1`, … digits. -/
def Binary.search (value : Binary) (leading : Int) : Nat → Nat → Nat × Int
  | digits, steps =>
    let tens := leading - digits + 1
    let k := floorScaled value.significand value.exponent tens
    match steps with
    | 0 => (k, tens)
    | steps + 1 =>
      match value.rounds k tens, value.rounds (k + 1) tens with
      | true, false => (k, tens)
      | false, true => (k + 1, tens)
      | true, true =>
        match compareScaled (2 * value.significand) value.exponent (2 * k + 1) tens with
        | .gt => (k + 1, tens)
        | _ => (k, tens)
      | false, false => value.search leading (digits + 1) steps

/-- Removes trailing zeros, moving them into the power of ten. -/
def trimZeros : Nat → Int → Nat → Nat × Int
  | k, tens, 0 => (k, tens)
  | k, tens, steps + 1 =>
    if k % 10 = 0 then trimZeros (k / 10) (tens + 1) steps else (k, tens)

/-- The digits of the shortest decimal and the power of ten of the last of them. -/
def shortest (value : Binary) : Nat × Int :=
  let leading := value.leading (-330) 700
  let found := value.search leading 1 17
  trimZeros found.1 found.2 20

/-- Positional notation from `1e-5` up to sixteen digits before the point, else one digit, the rest
after a point, and a signed exponent of at least two digits. -/
def positiveText (value : Binary) : String :=
  if value.significand = 0 then "0.0"
  else
    let (k, tens) := shortest value
    let digits := Nat.toDigits 10 k
    let count : Int := digits.length
    let point := count + tens
    if 0 ≤ tens ∧ point ≤ 16 then
      String.ofList (digits ++ List.replicate tens.toNat '0' ++ ['.', '0'])
    else if 0 < point ∧ point ≤ 16 then
      String.ofList (digits.take point.toNat ++ '.' :: digits.drop point.toNat)
    else if -5 < point ∧ point ≤ 0 then
      String.ofList ('0' :: '.' :: List.replicate (-point).toNat '0' ++ digits)
    else
      let exponent := point - 1
      let size := Nat.toDigits 10 exponent.natAbs
      let mantissa :=
        match digits with
        | first :: second :: rest => first :: '.' :: second :: rest
        | short => short
      String.ofList (mantissa ++ 'e' :: (if exponent < 0 then '-' else '+') ::
        List.replicate (2 - size.length) '0' ++ size)

/-- The text of a double. -/
def text (value : Float) : String :=
  match Binary.ofFloat? value with
  | none => "null"
  | some magnitude =>
    let negative := value.toBits.toNat ≥ Nat.pow 2 63
    (if negative then "-" else "") ++ positiveText magnitude

end SqlLineage.Decimal
