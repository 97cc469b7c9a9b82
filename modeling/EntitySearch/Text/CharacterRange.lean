/-!
# Ranges of characters

A character property of the Unicode standard is a set of code points, written
here as a list of closed ranges in ascending order.  Membership stops at the
first range that starts beyond the code point, so a query about a small code
point reads a short prefix of the list.  Properties that alternate between
neighbouring code points, as letter case does in most alphabets, are written
with a stride.
-/

namespace EntitySearch.Text

/-- Whether one of the closed ranges, listed in ascending order, holds the code point. -/
def inRanges : List (Nat × Nat) → Nat → Bool
  | [], _ => false
  | (first, last) :: ranges, point =>
      if point < first then false
      else point ≤ last || inRanges ranges point

/-- The code points `first`, `first + stride`, … up to `last`. -/
structure CharacterRun where
  first : Nat
  last : Nat
  stride : Nat
deriving Repr, DecidableEq

def CharacterRun.holds (run : CharacterRun) (point : Nat) : Bool :=
  run.first ≤ point && point ≤ run.last && (point - run.first) % run.stride == 0

/-- Whether one of the runs, listed by ascending first member, holds the code point. -/
def inRuns : List CharacterRun → Nat → Bool
  | [], _ => false
  | run :: runs, point =>
      if point < run.first then false
      else run.holds point || inRuns runs point

/-- The ASCII characters come first in every table, so they are decided without one. -/
def isAscii (character : Char) : Bool :=
  character.toNat < 128

end EntitySearch.Text
