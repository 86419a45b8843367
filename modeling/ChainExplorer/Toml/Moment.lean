set_option autoImplicit false

namespace ChainExplorer.Toml.Moment

def digits? : Nat → List Char → Option (Nat × List Char)
  | 0, text => some (0, text)
  | count + 1, c :: rest =>
      if '0' ≤ c ∧ c ≤ '9' then
        (digits? count rest).map fun (value, rest) => ((c.toNat - 48) * Nat.pow 10 count + value, rest)
      else none
  | _ + 1, [] => none

def padded (width n : Nat) : List Char :=
  let digits := Nat.toDigits 10 n
  List.replicate (width - digits.length) '0' ++ digits

def isLeapYear (year : Nat) : Bool := year % 4 == 0 && (year % 100 != 0 || year % 400 == 0)

def daysOfMonth (year month : Nat) : Nat :=
  if month = 2 then (if isLeapYear year then 29 else 28)
  else if month = 4 ∨ month = 6 ∨ month = 9 ∨ month = 11 then 30
  else 31

def date? (text : List Char) : Option (List Char × List Char) :=
  match digits? 4 text with
  | some (year, '-' :: rest) =>
      match digits? 2 rest with
      | some (month, '-' :: rest) =>
          match digits? 2 rest with
          | some (day, rest) =>
              if 1 ≤ month ∧ month ≤ 12 ∧ 1 ≤ day ∧ day ≤ daysOfMonth year month then
                some (padded 4 year ++ '-' :: padded 2 month ++ '-' :: padded 2 day, rest)
              else none
          | none => none
      | _ => none
  | _ => none

-- The digits of a fraction of a second, up to nine of them and without zeros at the end.
def fraction (digits : List Char) : List Char :=
  match ((digits.take 9).reverse.dropWhile (· == '0')).reverse with
  | [] => []
  | kept => '.' :: kept

-- Reads a time of day and writes it. A minute may have a leap second.
def time? (text : List Char) : Option (List Char × List Char) :=
  match digits? 2 text with
  | some (hour, ':' :: rest) =>
      match digits? 2 rest with
      | some (minute, ':' :: rest) =>
          match digits? 2 rest with
          | some (second, rest) =>
              if hour ≤ 23 ∧ minute ≤ 59 ∧ second ≤ 60 then
                let whole := padded 2 hour ++ ':' :: padded 2 minute ++ ':' :: padded 2 second
                match rest with
                | '.' :: rest =>
                    let digits := rest.takeWhile fun c => '0' ≤ c && c ≤ '9'
                    if digits.isEmpty then none
                    else some (whole ++ fraction digits, rest.dropWhile fun c => '0' ≤ c && c ≤ '9')
                | rest => some (whole, rest)
              else none
          | none => none
      | _ => none
  | _ => none

def offset? : List Char → Option (List Char × List Char)
  | 'Z' :: rest | 'z' :: rest => some (['Z'], rest)
  | sign :: rest =>
      if sign = '+' ∨ sign = '-' then
        match digits? 2 rest with
        | some (hour, ':' :: rest) =>
            match digits? 2 rest with
            | some (minute, rest) =>
                if hour ≤ 23 ∧ minute ≤ 59 then
                  let sign := if hour = 0 ∧ minute = 0 then '+' else sign
                  some (sign :: padded 2 hour ++ ':' :: padded 2 minute, rest)
                else none
            | none => none
        | _ => none
      else none
  | [] => none

-- Reads a text that is a time of day, perhaps with an offset where one may stand.
def timeWithOffset? (mayHaveOffset : Bool) (text : List Char) : Option (List Char) :=
  match time? text with
  | none => none
  | some (time, []) => some time
  | some (time, rest) =>
      if mayHaveOffset then
        match offset? rest with
        | some (offset, []) => some (time ++ offset)
        | _ => none
      else none

def read? (text : List Char) : Option (List Char) :=
  match date? text with
  | none => timeWithOffset? false text
  | some (date, []) => some date
  | some (date, separator :: rest) =>
      if separator = 'T' ∨ separator = 't' ∨ separator = ' ' then
        (timeWithOffset? true rest).map fun time => date ++ 'T' :: time
      else none

end ChainExplorer.Toml.Moment
