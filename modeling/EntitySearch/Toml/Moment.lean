/-!
# Dates and times in TOML

A date, a time, or a date with a time and perhaps an offset.  It is checked
against the calendar and given back in its standard text: a capital letter
between date and time, no trailing zeros in the fraction of a second, and an
offset in hours and minutes.
-/

namespace EntitySearch.TomlMoment

/-- A number of exactly `count` digits and the rest. -/
def number? (count : Nat) (source : List Char) : Option (Nat × List Char) :=
  let digits := source.take count
  if digits.length = count ∧ digits.all Char.isDigit then
    some (digits.foldl (fun value digit => 10 * value + (digit.toNat - '0'.toNat)) 0,
      source.drop count)
  else none

def after? (expected : Char) : List Char → Option (List Char)
  | character :: rest => if character == expected then some rest else none
  | [] => none

def monthLength (year month : Nat) : Nat :=
  if month = 2 then
    if year % 4 = 0 ∧ (year % 100 ≠ 0 ∨ year % 400 = 0) then 29 else 28
  else if month ∈ [4, 6, 9, 11] then 30
  else 31

/-- A date in its standard text, and the rest. -/
def date? (source : List Char) : Option (List Char × List Char) := do
  let (year, rest) ← number? 4 source
  let (month, rest) ← number? 2 (← after? '-' rest)
  let (day, rest) ← number? 2 (← after? '-' rest)
  if 1 ≤ month ∧ month ≤ 12 ∧ 1 ≤ day ∧ day ≤ monthLength year month then
    return (source.take 10, rest)
  else none

/-- The fraction of a second in its standard text, and the rest.  Places beyond the ninth
are dropped. -/
def fraction? : List Char → Option (List Char × List Char)
  | '.' :: rest =>
      let digits := rest.takeWhile Char.isDigit
      if digits.isEmpty then none
      else
        let kept := ((digits.take 9).reverse.dropWhile (· == '0')).reverse
        some (if kept.isEmpty then [] else '.' :: kept, rest.drop digits.length)
  | rest => some ([], rest)

/-- A time of day in its standard text, and the rest. -/
def time? (source : List Char) : Option (List Char × List Char) := do
  let (hour, rest) ← number? 2 source
  let (minute, rest) ← number? 2 (← after? ':' rest)
  let (second, rest) ← number? 2 (← after? ':' rest)
  let (fraction, rest) ← fraction? rest
  if hour < 24 ∧ minute < 60 ∧ second ≤ 60 then
    return (source.take 8 ++ fraction, rest)
  else none

/-- The offset behind a time in its standard text, and the rest. -/
def offset? : List Char → Option (List Char × List Char)
  | 'Z' :: rest => some (['Z'], rest)
  | 'z' :: rest => some (['Z'], rest)
  | sign :: rest =>
      if sign == '+' || sign == '-' then do
        let (hour, behind) ← number? 2 rest
        let (minute, behind) ← number? 2 (← after? ':' behind)
        if hour < 24 ∧ minute < 60 then
          let shown := if hour = 0 ∧ minute = 0 then '+' else sign
          return (shown :: rest.take 5, behind)
        else none
      else some ([], sign :: rest)
  | [] => some ([], [])

/-- A date or time in its standard text, and the rest. -/
def read? (source : List Char) : Option (List Char × List Char) :=
  match date? source with
  | none => time? source
  | some (date, rest) =>
      match rest with
      | delimiter :: behind =>
          if delimiter == 'T' || delimiter == 't' || delimiter == ' ' then
            match time? behind with
            | none => some (date, rest)
            | some (time, behind) =>
                (offset? behind).map fun (offset, rest) => (date ++ 'T' :: time ++ offset, rest)
          else some (date, rest)
      | [] => some (date, [])

end EntitySearch.TomlMoment
