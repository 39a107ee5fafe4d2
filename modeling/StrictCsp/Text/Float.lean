/-!
# Decimal text and binary64 numbers

A configuration value may be written as a floating point number, and messages
about it show the number as the nearest binary64 value, written back in the
shortest decimal form that reads as the same value.

* Reading accepts an optional sign, then either `inf`, `infinity` or `nan` in
  any case, or digits with an optional point and an optional exponent, with at
  least one digit before or after the point. The exact decimal value is
  rounded to the nearest binary64 value, ties to an even significand; values
  too large become infinite and values too small become zero.
* Writing finds, for one digit and then more, the decimals of that many
  significant digits just below and just above the value; the first length
  where one of them reads back as the same value wins, the nearer one if both
  do. The digits are written in full, without an exponent.

All arithmetic is exact, on natural numbers.
-/

namespace StrictCsp.Text.Float

/-- A finite binary64 magnitude: the value is significand times two to the exponent. -/
structure Binary where
  /-- The significand, below two to the fifty-three. -/
  significand : Nat
  /-- The exponent, at least minus one thousand seventy-four. -/
  exponent : Int
  deriving DecidableEq, Repr

/-- A read number. -/
inductive Number where
  /-- A finite value with its sign. -/
  | finite (negative : Bool) (magnitude : Binary)
  /-- An infinite value with its sign. -/
  | infinite (negative : Bool)
  /-- Not a number. -/
  | nan
  deriving DecidableEq, Repr

/-- The number of binary digits of a natural number. -/
def bitLength (n : Nat) : Nat := if n = 0 then 0 else Nat.log2 n + 1

/-- The number of decimal digits of a natural number. -/
def decimalLength (n : Nat) : Nat := (toString n).length

/-- A fraction scaled by a power of two: the numerator and denominator of the result. -/
def scale (num den : Nat) (e : Int) : Nat × Nat :=
  if e ≥ 0 then (num, den * Nat.pow 2 e.toNat) else (num * Nat.pow 2 (-e).toNat, den)

/-- Moves an exponent until the scaled fraction lies between two to the fifty-two and two to the
fifty-three. -/
def settle (num den : Nat) : Nat → Int → Int
  | 0, e => e
  | fuel + 1, e =>
    let (a, b) := scale num den e
    if a < Nat.pow 2 52 * b then settle num den fuel (e - 1)
    else if a ≥ Nat.pow 2 53 * b then settle num den fuel (e + 1)
    else e

/-- The nearest binary64 magnitude of a positive fraction, ties to even; none when it is too
large for binary64. -/
def roundFraction (num den : Nat) : Option Binary :=
  if num = 0 then some ⟨0, 0⟩
  else
    let e0 : Int := (bitLength num : Int) - bitLength den - 53
    let e := settle num den 8 e0
    let e := max e (-1074)
    let (a, b) := scale num den e
    let m := a / b
    let r := a % b
    let m := if 2 * r > b || (2 * r = b && m % 2 = 1) then m + 1 else m
    let (m, e) := if m = Nat.pow 2 53 then (Nat.pow 2 52, e + 1) else (m, e)
    if e > 971 then none else some ⟨m, e⟩

/-- The nearest binary64 magnitude of digits times a power of ten; none when too large. -/
def roundDecimal (digits : Nat) (exp10 : Int) : Option Binary :=
  if digits = 0 then some ⟨0, 0⟩
  else if (decimalLength digits : Int) - 1 + exp10 > 309 then none
  else if (decimalLength digits : Int) + exp10 < -325 then some ⟨0, 0⟩
  else if exp10 ≥ 0 then roundFraction (digits * Nat.pow 10 exp10.toNat) 1
  else roundFraction digits (Nat.pow 10 (-exp10).toNat)

/-- The value of decimal digits. -/
def digitsValue (ds : List Char) : Nat := ds.foldl (fun n d => n * 10 + (d.toNat - 48)) 0

/-- Reads the digits, point and exponent of a decimal number: its digits and power of ten. -/
def readDecimal (s : List Char) : Option (Nat × Int) :=
  let (intPart, rest) := s.span Char.isDigit
  let (fracPart, rest) := match rest with
    | '.' :: r => r.span Char.isDigit
    | r => ([], r)
  if intPart.isEmpty && fracPart.isEmpty then none
  else
    let expOk : Option Int := match rest with
      | [] => some 0
      | e :: r =>
        if e == 'e' || e == 'E' then
          let (neg, ds) := match r with
            | '+' :: ds => (false, ds)
            | '-' :: ds => (true, ds)
            | ds => (false, ds)
          if !ds.isEmpty && ds.all Char.isDigit then
            let v : Int := digitsValue ds
            some (if neg then -v else v)
          else none
        else none
    expOk.map fun x => (digitsValue (intPart ++ fracPart), x - fracPart.length)

/-- Reads a number as binary64 text is read: a sign, then infinity, not-a-number or decimals. -/
def read (s : String) : Option Number :=
  let cs := s.toList
  let (negative, body) := match cs with
    | '+' :: r => (false, r)
    | '-' :: r => (true, r)
    | r => (false, r)
  let lower := String.ofList (body.map Char.toLower)
  if lower == "inf" || lower == "infinity" then some (.infinite negative)
  else if lower == "nan" then some .nan
  else
    (readDecimal body).map fun (d, e) =>
      match roundDecimal d e with
      | some b => .finite negative b
      | none => .infinite negative

/-- Compares a fraction with a power of ten. -/
def comparePow10 (num den : Nat) (q : Int) : Ordering :=
  if q ≥ 0 then compare num (den * Nat.pow 10 q.toNat) else compare (num * Nat.pow 10 (-q).toNat) den

/-- The power of ten at or below a positive fraction. -/
def floorLog10 (num den : Nat) : Int :=
  let q0 : Int := (decimalLength num : Int) - decimalLength den
  let rec adjust : Nat → Int → Int
    | 0, q => q
    | fuel + 1, q =>
      if comparePow10 num den q == .lt then adjust fuel (q - 1)
      else if comparePow10 num den (q + 1) != .lt then adjust fuel (q + 1)
      else q
  adjust 4 q0

/-- The exact value of a magnitude, as a fraction. -/
def Binary.fraction (b : Binary) : Nat × Nat :=
  if b.exponent ≥ 0 then (b.significand * Nat.pow 2 b.exponent.toNat, 1)
  else (b.significand, Nat.pow 2 (-b.exponent).toNat)

/-- The shortest digits and power of ten that read back as a positive magnitude, trying one
significant digit and then more. -/
def shortest (b : Binary) : Nat → Nat → Option (Nat × Int)
  | 0, _ => none
  | fuel + 1, p =>
    let (num, den) := b.fraction
    let q := floorLog10 num den
    let k : Int := q - p + 1
    let (n, d) := if k ≥ 0 then (num, den * Nat.pow 10 k.toNat) else (num * Nat.pow 10 (-k).toNat, den)
    let lo := n / d
    let hi := lo + 1
    let loOk := roundDecimal lo k == some b
    let hiOk := roundDecimal hi k == some b
    if loOk && hiOk then
      if 2 * (n - lo * d) ≤ d then some (lo, k) else some (hi, k)
    else if loOk then some (lo, k)
    else if hiOk then some (hi, k)
    else shortest b fuel (p + 1)

/-- Digits without their trailing zeros, the power of ten raised to match. -/
def trimZeros : Nat → Nat → Int → Nat × Int
  | 0, d, k => (d, k)
  | fuel + 1, d, k => if d ≠ 0 ∧ d % 10 = 0 then trimZeros fuel (d / 10) (k + 1) else (d, k)

/-- Digits times a power of ten, written in full without an exponent. -/
def writeDecimal (digits : Nat) (k : Int) : String :=
  let ds := toString digits
  if k ≥ 0 then ds ++ String.ofList (List.replicate k.toNat '0')
  else
    let n := ds.length
    let f := (-k).toNat
    if f < n then
      String.ofList (ds.toList.take (n - f)) ++ "." ++ String.ofList (ds.toList.drop (n - f))
    else "0." ++ String.ofList (List.replicate (f - n) '0') ++ ds

/-- A number written as messages show it: the shortest decimal form, with a point. -/
def Number.text : Number → String
  | .nan => "NaN"
  | .infinite neg => if neg then "-inf" else "inf"
  | .finite neg b =>
    let body :=
      if b.significand = 0 then "0"
      else match shortest b 20 1 with
        | some (d, k) =>
          let (d, k) := trimZeros 20 d k
          writeDecimal d k
        | none => "0"
    let body := if body.toList.contains '.' then body else body ++ ".0"
    (if neg then "-" else "") ++ body

example : ((read "1.5").map Number.text) = some "1.5" := by decide
example : ((read "1e3").map Number.text) = some "1000.0" := by decide

end StrictCsp.Text.Float
