/-!
# Durations in text

A duration given in milliseconds is written in seconds from one second on, with
as many of the three decimal places as it needs, and in milliseconds below.  The
empty duration is written in nanoseconds.
-/

namespace EntitySearch.Text

/-- The three decimal places of a number of milliseconds below one second, without the
zeros at their end. -/
def millisecondPlaces (milliseconds : Nat) : List Char :=
  let digits := Nat.toDigits 10 milliseconds
  let padded := List.replicate (3 - digits.length) '0' ++ digits
  (padded.reverse.dropWhile (· == '0')).reverse

def durationText (milliseconds : Nat) : String :=
  if milliseconds = 0 then "0ns"
  else if milliseconds < 1000 then toString milliseconds ++ "ms"
  else
    let places := millisecondPlaces (milliseconds % 1000)
    let fraction := if places.isEmpty then "" else "." ++ String.ofList places
    toString (milliseconds / 1000) ++ fraction ++ "s"

end EntitySearch.Text
