import ChainExplorer.Number.Shortest
import ChainExplorer.Number.Word

set_option autoImplicit false

namespace ChainExplorer.Number

structure DoubleFormat where
  -- The exponents of the first digit that are written with a decimal point alone; none means all.
  positional : Option (Int × Int)
  keepsPoint : Bool

def jsonDouble : DoubleFormat := ⟨some (-5, 15), true⟩

def plainDouble : DoubleFormat := ⟨none, false⟩

def decimalDigits (n : Nat) : List Char := Nat.toDigits 10 n

def positionalText (d : Decimal) (keepsPoint : Bool) : List Char :=
  let digits := decimalDigits d.digits
  if 0 ≤ d.exponent then
    digits ++ List.replicate (if d.digits = 0 then 0 else d.exponent.toNat) '0' ++ (if keepsPoint then ['.', '0'] else [])
  else
    let places := (-d.exponent).toNat
    let padded := List.replicate (places + 1 - digits.length) '0' ++ digits
    padded.take (padded.length - places) ++ '.' :: padded.drop (padded.length - places)

def scientificText (d : Decimal) : List Char :=
  let digits := decimalDigits d.digits
  let exponent := d.exponent + digits.length - 1
  let mantissa := match digits with
    | [] => []
    | first :: [] => [first]
    | first :: others => first :: '.' :: others
  mantissa ++ 'e' :: (if exponent < 0 then '-' else '+') :: decimalDigits exponent.natAbs

def DoubleFormat.write (format : DoubleFormat) (value : Float) : List Char :=
  let bits := value.toBits.toNat
  let sign := if signedLimit ≤ bits then ['-'] else []
  let d := shortest (Binary.ofBits (bits % signedLimit))
  let leading := d.exponent + (decimalDigits d.digits).length - 1
  let positional := match format.positional with
    | none => true
    | some range => d.digits = 0 || (range.1 ≤ leading && leading ≤ range.2)
  sign ++ (if positional then positionalText d format.keepsPoint else scientificText d)

end ChainExplorer.Number
