set_option autoImplicit false

namespace ChainExplorer.Number

def hexDigit (n : Nat) : Char := Char.ofNat (if n < 10 then 48 + n else 87 + n)

def upperHexDigit (n : Nat) : Char := Char.ofNat (if n < 10 then 48 + n else 55 + n)

def hexValue? (c : Char) : Option Nat :=
  if '0' ≤ c ∧ c ≤ '9' then some (c.toNat - 48)
  else if 'a' ≤ c ∧ c ≤ 'f' then some (c.toNat - 87)
  else if 'A' ≤ c ∧ c ≤ 'F' then some (c.toNat - 55)
  else none

def hexNumeral? (digits : List Char) : Option Nat :=
  digits.foldl (fun sum digit =>
    match sum, hexValue? digit with
    | some sum, some value => some (sum * 16 + value)
    | _, _ => none) (some 0)

end ChainExplorer.Number
