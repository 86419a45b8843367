import ChainExplorer.Number.Format

set_option autoImplicit false

namespace ChainExplorer.Number

def divideToEven (n d : Nat) : Nat :=
  let quotient : Nat := n / d
  let rest : Nat := n % d
  if 2 * rest < d || (2 * rest == d && quotient % 2 == 0) then quotient else quotient + 1

def doubleDigits : Nat := 53

def toDoublePrecision (n : Nat) : Nat :=
  let unit := Nat.pow 2 (Nat.log2 n + 1 - doubleDigits)
  divideToEven n unit * unit

def byteUnits : List String := ["B", "KiB", "MiB", "GiB", "TiB", "PiB", "EiB"]

-- How often 1024 divides into a count, as far as there are units for it.
def unitIndex (bytes : Nat) : Nat := min (Nat.log2 bytes / 10) (byteUnits.length - 1)

def hundredthsText (n : Nat) : String :=
  let places := (toString ((n % 100 : Nat) + 100)).drop 1
  toString (n / 100 : Nat) ++ "." ++ places.toString

def byteSize (bytes : Nat) : String :=
  let index := unitIndex bytes
  let amount :=
    if index = 0 then toString bytes
    else hundredthsText (divideToEven (toDoublePrecision bytes * 100) (Nat.pow 1024 index))
  amount ++ " " ++ byteUnits.getD index ""

end ChainExplorer.Number
