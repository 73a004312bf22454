import PageFeed.Text.Digits

/-! Binary numbers written with the fewest decimal digits that tell them from their neighbours.

A positive number `m · 2 ^ q` stands for all reals that are nearer to it than to any other number of
its kind. Among the decimals with as few digits as possible that lie in this interval, the nearest
one is written; which of two equally near ones it is depends on the format. -/

namespace PageFeed.Decimal

/-- A positive binary number. Right above a power of two, the next smaller number is only half as
far away as the next greater one. -/
structure Binary where
  mantissa : Nat
  exponent : Int
  isEdge : Bool

structure Digits where
  digits : Nat
  exponent : Int
deriving DecidableEq, Repr

/-- Which of two neighbours on a grid is taken when both are equally near: the larger one, or the
one whose last digit is even. -/
inductive Tie
  | up
  | even
deriving DecidableEq, Repr, Inhabited

def Tie.goesDown (tie : Tie) (below : Nat) : Bool := tie == .even && below % 2 == 0

namespace Binary

/-- Four times the number as a quotient of whole numbers. The half distances to the neighbours are
then whole multiples of the unit that comes third. -/
def quarters (number : Binary) : Nat × Nat × Nat :=
  let up := Nat.pow 2 number.exponent.toNat
  let down := Nat.pow 2 (-number.exponent).toNat
  (4 * number.mantissa * up, down, up)

def onGrid (exponent : Int) (numerator denominator : Nat) : Nat × Nat :=
  (numerator * Nat.pow 10 (-exponent).toNat, denominator * Nat.pow 10 exponent.toNat)

/-- Whether a decimal is read back as the number: it lies between the middles to the neighbours,
which belong to the number when its mantissa is even. -/
def reads (number : Binary) (decimal : Digits) : Bool :=
  let (value, den, unit) := number.quarters
  let gap := if number.isEdge then unit else 2 * unit
  let (scaled, den) := (4 * decimal.digits * den * Nat.pow 10 decimal.exponent.toNat,
    Nat.pow 10 (-decimal.exponent).toNat)
  if number.mantissa % 2 == 0 then
    (value - gap) * den ≤ scaled && scaled ≤ (value + 2 * unit) * den
  else (value - gap) * den < scaled && scaled < (value + 2 * unit) * den

def leadExponent (number : Binary) : Int :=
  let (value, den, _) := number.quarters
  let (num, den) := (value, 4 * den)
  let places (n : Nat) : Nat := (Nat.toDigits 10 n).length - 1
  if den ≤ num then places (num / den)
  else
    let below := places (den / num)
    if den ≤ num * Nat.pow 10 below then -below else -below - 1

def onGrid? (tie : Tie) (number : Binary) (exponent : Int) : Option Digits :=
  let (value, den, _) := number.quarters
  let (num, den) := onGrid exponent value (4 * den)
  let below := num / den
  let low : Digits := ⟨below, exponent⟩
  let high : Digits := ⟨below + 1, exponent⟩
  match number.reads low, number.reads high with
  | true, true =>
    let twice := 2 * (num - below * den)
    if twice < den || (twice == den && tie.goesDown below) then some low else some high
  | true, false => some low
  | false, true => some high
  | false, false => none

def stripZeros : (rounds : Nat) → Digits → Digits
  | 0, decimal => decimal
  | rounds + 1, ⟨digits, exponent⟩ =>
    if digits ≠ 0 ∧ digits % 10 = 0 then stripZeros rounds ⟨digits / 10, exponent + 1⟩
    else ⟨digits, exponent⟩

/-- The shortest decimal that reads back. Seventeen digits are enough for numbers of 64 bits. -/
def shortest (tie : Tie) (number : Binary) : Digits :=
  let lead := number.leadExponent
  let grids := (List.range 17).map fun (n : Nat) => lead - n
  match grids.findSome? (number.onGrid? tie) with
  | some decimal => stripZeros 20 decimal
  | none => ⟨0, 0⟩

end Binary

inductive Reading
  | notNumber
  | infinite (isNegative : Bool)
  | zero (isNegative : Bool)
  | finite (isNegative : Bool) (value : Binary)

def ofBits (mantissaBits exponentBits bits : Nat) : Reading :=
  let mantissaSize := Nat.pow 2 mantissaBits
  let exponentSize := Nat.pow 2 exponentBits
  let isNegative := bits / (mantissaSize * exponentSize) % 2 == 1
  let exponent := bits / mantissaSize % exponentSize
  let mantissa := bits % mantissaSize
  let bias : Int := (exponentSize / 2 : Nat) - 1 + mantissaBits
  if exponent == exponentSize - 1 then
    if mantissa == 0 then .infinite isNegative else .notNumber
  else if exponent == 0 then
    if mantissa == 0 then .zero isNegative else .finite isNegative ⟨mantissa, 1 - bias, false⟩
  else .finite isNegative
    ⟨mantissa + mantissaSize, exponent - bias, mantissa == 0 && exponent != 1⟩

def ofFloat (number : Float) : Reading := ofBits 52 11 number.toBits.toNat

def ofFloat32 (number : Float32) : Reading := ofBits 23 8 number.toBits.toNat

end PageFeed.Decimal
