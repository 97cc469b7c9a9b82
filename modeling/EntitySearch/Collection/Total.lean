/-!
# Totals

The total of a list of numbers, for lengths and counts that are added up.
-/

namespace EntitySearch

def totalOf (numbers : List Nat) : Nat :=
  numbers.foldr (· + ·) 0

@[simp] theorem totalOf_nil : totalOf [] = 0 := rfl

@[simp] theorem totalOf_cons (number : Nat) (numbers : List Nat) :
    totalOf (number :: numbers) = number + totalOf numbers := rfl

theorem totalOf_append (first second : List Nat) :
    totalOf (first ++ second) = totalOf first + totalOf second := by
  induction first with
  | nil => simp
  | cons number numbers ih => simp [ih, Nat.add_assoc]

end EntitySearch
