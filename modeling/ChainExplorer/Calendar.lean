set_option autoImplicit false

namespace ChainExplorer.Calendar

structure Date where
  year : Int
  month : Nat
  day : Nat
deriving Repr, DecidableEq

-- Days from 1 March of year 0 to 1 January 1970.
def epochOffset : Int := 719468

def daysOfEra : Int := 146097

-- Years are counted from March, so that the leap day is the last of a year.
def dateOfDay (day : Int) : Date :=
  let shifted := day + epochOffset
  let era := shifted / daysOfEra
  let dayOfEra : Nat := (shifted % daysOfEra).toNat
  let yearOfEra : Nat := (dayOfEra - dayOfEra / 1460 + dayOfEra / 36524 - dayOfEra / 146096) / 365
  let dayOfYear : Nat := dayOfEra - (365 * yearOfEra + yearOfEra / 4 - yearOfEra / 100)
  let monthFromMarch : Nat := (5 * dayOfYear + 2) / 153
  let day : Nat := dayOfYear - (153 * monthFromMarch + 2) / 5 + 1
  let month : Nat := if monthFromMarch < 10 then monthFromMarch + 3 else monthFromMarch - 9
  ⟨era * 400 + yearOfEra + (if month ≤ 2 then 1 else 0), month, day⟩

def firstSecond : Int := -8334601228800

def lastSecond : Int := 8210266876799

def padded (width n : Nat) : String :=
  let digits := toString n
  String.ofList (List.replicate (width - digits.length) '0') ++ digits

-- A year has four digits at least, and a sign where it is negative or has more.
def yearText (year : Int) : String :=
  if year < 0 then "-" ++ padded 4 year.natAbs
  else if year < 10000 then padded 4 year.natAbs
  else "+" ++ toString year

def timestamp? (seconds : Int) : Option String :=
  if firstSecond ≤ seconds ∧ seconds ≤ lastSecond then
    let date := dateOfDay (seconds / 86400)
    let second : Nat := (seconds % 86400).toNat
    some (yearText date.year ++ "-" ++ padded 2 date.month ++ "-" ++ padded 2 date.day ++ " "
      ++ padded 2 (second / 3600) ++ ":" ++ padded 2 (second / 60 % 60) ++ ":" ++ padded 2 (second % 60) ++ " UTC")
  else none

end ChainExplorer.Calendar
