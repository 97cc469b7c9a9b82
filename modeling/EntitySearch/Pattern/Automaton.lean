import EntitySearch.Pattern.Basic
import Std.Data.HashSet

/-!
# The size of a pattern's automaton

A pattern is run as a deterministic automaton over the UTF-8 bytes of a term.
Its states are the sets of places that the pattern can have reached: before an
item, or inside the bytes of a character.  A pattern whose automaton has too many
states is refused, which happens when many single wild characters follow a run.
-/

namespace EntitySearch.PatternAutomaton

/-- The most states that an accepted pattern has. -/
def stateLimit : Nat := 1000

/-- Bytes from `first` to `last`. -/
structure ByteRange where
  first : Nat
  last : Nat
deriving Repr, DecidableEq

def ByteRange.holds (range : ByteRange) (byte : Nat) : Bool :=
  range.first ≤ byte && byte ≤ range.last

/-- A byte behind the first one of a character. -/
def continuation : ByteRange := ⟨0x80, 0xBF⟩

/-- The byte sequences of all characters but the line feed. -/
def wildSequences : List (List ByteRange) :=
  [[⟨0x00, 0x09⟩], [⟨0x0B, 0x7F⟩], [⟨0xC2, 0xDF⟩, continuation],
   [⟨0xE0, 0xE0⟩, ⟨0xA0, 0xBF⟩, continuation],
   [⟨0xE1, 0xEC⟩, continuation, continuation],
   [⟨0xED, 0xED⟩, ⟨0x80, 0x9F⟩, continuation],
   [⟨0xEE, 0xEF⟩, continuation, continuation],
   [⟨0xF0, 0xF0⟩, ⟨0x90, 0xBF⟩, continuation, continuation],
   [⟨0xF1, 0xF3⟩, continuation, continuation, continuation],
   [⟨0xF4, 0xF4⟩, ⟨0x80, 0x8F⟩, continuation, continuation]]

def itemSequences : PatternItem → List (List ByteRange)
  | .literal character =>
      [(String.utf8EncodeChar character).map fun byte => ⟨byte.toNat, byte.toNat⟩]
  | .anyOne => wildSequences
  | .anyRun => wildSequences

/-- A place of the automaton: an item, one of its byte sequences, and how many bytes of
that sequence have been read.  Before an item the sequence and the count are zero. -/
structure Place where
  item : Nat
  sequence : Nat
  read : Nat
deriving Repr, DecidableEq, Hashable

/-- The places before the item at an index: a run may be passed over. -/
def placesBefore (items : List PatternItem) (index : Nat) : List Place :=
  match items with
  | [] => [⟨index, 0, 0⟩]
  | .anyRun :: rest => ⟨index, 0, 0⟩ :: placesBefore rest (index + 1)
  | .literal _ :: _ => [⟨index, 0, 0⟩]
  | .anyOne :: _ => [⟨index, 0, 0⟩]

/-- The places behind a whole character of the item at the head of the list, which has the
given index. -/
def placesBehind (items : List PatternItem) (index : Nat) : List Place :=
  match items with
  | .anyRun :: rest => ⟨index, 0, 0⟩ :: placesBefore rest (index + 1)
  | _ :: rest => placesBefore rest (index + 1)
  | [] => []

/-- The places that one byte leads to from a place. -/
def stepPlace (items : List PatternItem) (byte : Nat) (place : Place) : List Place :=
  match items.drop place.item with
  | [] => []
  | item :: rest =>
      let sequences := itemSequences item
      let candidates :=
        if place.read = 0 then sequences.zip (List.range sequences.length)
        else (sequences.zip (List.range sequences.length)).filter (·.2 == place.sequence)
      candidates.flatMap fun (ranges, sequence) =>
        match ranges.drop place.read with
        | [] => []
        | range :: later =>
            if range.holds byte then
              if later.isEmpty then placesBehind (item :: rest) place.item
              else [⟨place.item, sequence, place.read + 1⟩]
            else []

/-- The set of places that one byte leads to. -/
def stepState (items : List PatternItem) (state : List Place) (byte : Nat) : List Place :=
  (state.flatMap (stepPlace items byte)).eraseDups

/-- Bytes that between them behave like all bytes. -/
def sampleBytes (items : List PatternItem) : List Nat :=
  let ranges := items.flatMap fun item => (itemSequences item).flatten
  ((ranges.flatMap fun range => [range.first, range.last + 1]).filter (· < 256)).eraseDups

/-- Explores the automaton; the allowance is the number of states that it may still
have. -/
def exploreWithin (items : List PatternItem) (samples : List Nat) :
    Nat → Std.HashSet (List Place) → List (List Place) → Bool
  | _, _, [] => true
  | 0, _, _ :: _ => false
  | allowance + 1, known, state :: unexplored =>
      let next := ((samples.map (stepState items state)).filter (!·.isEmpty)).eraseDups
      let fresh := next.filter (!known.contains ·)
      exploreWithin items samples allowance (known.insertMany fresh) (fresh ++ unexplored)

/-- Whether the automaton of a pattern has no more states than are allowed. -/
def isSmall (items : List PatternItem) : Bool :=
  let initial := placesBefore items 0
  exploreWithin items (sampleBytes items) stateLimit
    (Std.HashSet.emptyWithCapacity.insert initial) [initial]

end EntitySearch.PatternAutomaton

namespace EntitySearch

/-- Whether the engine accepts the pattern with this text. -/
def patternIsAccepted (pattern : String) : Bool :=
  PatternAutomaton.isSmall (PatternItem.ofText pattern.toList)

end EntitySearch
