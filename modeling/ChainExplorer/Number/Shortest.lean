set_option autoImplicit false

namespace ChainExplorer.Number

structure Binary where
  mantissa : Nat
  exponent : Int
  -- The gap to the next smaller double is half the gap to the next larger one.
  narrowBelow : Bool
deriving Repr, DecidableEq

structure Decimal where
  digits : Nat
  exponent : Int
deriving Repr, DecidableEq

def Binary.ofBits (bits : Nat) : Binary :=
  let fraction : Nat := bits % Nat.pow 2 52
  let field : Nat := bits / Nat.pow 2 52 % Nat.pow 2 11
  if field = 0 then ⟨fraction, -1074, false⟩
  else ⟨Nat.pow 2 52 + fraction, (field : Int) - 1075, fraction == 0 && 1 < field⟩

structure Fraction where
  numerator : Nat
  denominator : Nat

def Fraction.scaled (n : Nat) (exponent : Int) : Fraction :=
  if 0 ≤ exponent then ⟨n * Nat.pow 2 exponent.toNat, 1⟩ else ⟨n, Nat.pow 2 (-exponent).toNat⟩

def Decimal.toFraction (d : Decimal) : Fraction :=
  if 0 ≤ d.exponent then ⟨d.digits * Nat.pow 10 d.exponent.toNat, 1⟩
  else ⟨d.digits, Nat.pow 10 (-d.exponent).toNat⟩

def Fraction.le (a b : Fraction) : Bool := a.numerator * b.denominator ≤ b.numerator * a.denominator

def Fraction.lt (a b : Fraction) : Bool := a.numerator * b.denominator < b.numerator * a.denominator

def Fraction.distance (a b : Fraction) : Fraction :=
  let left := a.numerator * b.denominator
  let right := b.numerator * a.denominator
  ⟨if left ≤ right then right - left else left - right, a.denominator * b.denominator⟩

-- The midpoints to the neighbours are included if the mantissa is even, since a tie goes to the even one.
def Decimal.readsBackAs (d : Decimal) (b : Binary) : Bool :=
  let value := d.toFraction
  let low := if b.narrowBelow then Fraction.scaled (4 * b.mantissa - 1) (b.exponent - 2)
    else Fraction.scaled (2 * b.mantissa - 1) (b.exponent - 1)
  let high := Fraction.scaled (2 * b.mantissa + 1) (b.exponent - 1)
  if b.mantissa % 2 = 0 then low.le value && value.le high else low.lt value && value.lt high

def Decimal.below (b : Binary) (exponent : Int) : Decimal :=
  let value := Fraction.scaled b.mantissa b.exponent
  let scaled : Fraction := if 0 ≤ exponent then ⟨value.numerator, value.denominator * Nat.pow 10 exponent.toNat⟩
    else ⟨value.numerator * Nat.pow 10 (-exponent).toNat, value.denominator⟩
  ⟨scaled.numerator / scaled.denominator, exponent⟩

def Decimal.onGrid (b : Binary) (exponent : Int) : Option Decimal :=
  let lower := Decimal.below b exponent
  let upper : Decimal := { lower with digits := lower.digits + 1 }
  let value := Fraction.scaled b.mantissa b.exponent
  let toLower := lower.toFraction.distance value
  let toUpper := upper.toFraction.distance value
  match lower.digits != 0 && lower.readsBackAs b, upper.readsBackAs b with
  | true, false => some lower
  | false, true => some upper
  | false, false => none
  | true, true =>
      if toLower.lt toUpper then some lower
      else if toUpper.lt toLower then some upper
      else if lower.digits % 2 = 0 then some lower
      else some upper

def Decimal.search (b : Binary) : Nat → Int → Decimal
  | 0, exponent => Decimal.below b exponent
  | steps + 1, exponent =>
      match Decimal.onGrid b exponent with
      | some found => found
      | none => Decimal.search b steps (exponent - 1)

def digitCount (n : Nat) : Nat := (Nat.toDigits 10 n).length

-- The exponent of a decimal grid that is too coarse for the double or holds it with one digit.
def Binary.coarseExponent (b : Binary) : Int :=
  let value := Fraction.scaled b.mantissa b.exponent
  if value.denominator ≤ value.numerator then (digitCount (value.numerator / value.denominator) : Int)
  else -((digitCount (value.denominator / value.numerator) : Int) - 1)

def Decimal.trim (d : Decimal) : Nat → Decimal
  | 0 => d
  | steps + 1 =>
      if d.digits != 0 && d.digits % 10 = 0 then Decimal.trim ⟨d.digits / 10, d.exponent + 1⟩ steps else d

-- Seventeen digits always suffice.
def shortest (b : Binary) : Decimal :=
  if b.mantissa = 0 then ⟨0, 0⟩ else (Decimal.search b 20 b.coarseExponent).trim 20

end ChainExplorer.Number
