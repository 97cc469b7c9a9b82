/-!
# Tables

A table maps finitely many keys to values.  Its entries are kept in ascending
order of their keys, so two tables with the same content list it in the same
order, whatever the order in which the entries were made.
-/

namespace EntitySearch

/-- A finite map with its entries in ascending order of the keys. -/
structure Table (Key Value : Type) [LT Key] where
  entries : List (Key × Value)
  ascending : entries.Pairwise fun first second => first.1 < second.1

namespace Table

section Lists

variable {Key Value : Type} [LT Key] [DecidableLT Key]
  [DecidableEq Key]

/-- Inserts an entry into an ascending list, in place of one with the same key. -/
def insertEntry (key : Key) (value : Value) : List (Key × Value) → List (Key × Value)
  | [] => [(key, value)]
  | entry :: rest =>
      if key = entry.1 then (key, value) :: rest
      else if key < entry.1 then (key, value) :: entry :: rest
      else entry :: insertEntry key value rest

theorem mem_insertEntry {key : Key} {value : Value} {entries : List (Key × Value)}
    {member : Key × Value} (inserted : member ∈ insertEntry key value entries) :
    member = (key, value) ∨ member ∈ entries := by
  induction entries with
  | nil => simpa [insertEntry] using inserted
  | cons entry rest ih =>
      simp only [insertEntry] at inserted
      split at inserted
      · rcases List.mem_cons.1 inserted with same | later
        · exact Or.inl same
        · exact Or.inr (List.mem_cons_of_mem _ later)
      · split at inserted
        · rcases List.mem_cons.1 inserted with same | later
          · exact Or.inl same
          · exact Or.inr later
        · rcases List.mem_cons.1 inserted with same | later
          · exact Or.inr (same ▸ List.mem_cons_self)
          · exact (ih later).imp_right (List.mem_cons_of_mem _)

theorem pairwise_insertEntry [LE Key] [Std.IsLinearOrder Key] [Std.LawfulOrderLT Key]
    {key : Key} {value : Value} {entries : List (Key × Value)}
    (ascending : entries.Pairwise fun first second => first.1 < second.1) :
    (insertEntry key value entries).Pairwise fun first second => first.1 < second.1 := by
  induction entries with
  | nil => simp [insertEntry]
  | cons entry rest ih =>
      obtain ⟨headBelow, restAscending⟩ := List.pairwise_cons.1 ascending
      simp only [insertEntry]
      split
      case isTrue same =>
        exact List.pairwise_cons.2 ⟨fun member isMember => same ▸ headBelow member isMember,
          restAscending⟩
      case isFalse different =>
        split
        case isTrue below =>
          refine List.pairwise_cons.2 ⟨fun member isMember => ?_, ascending⟩
          rcases List.mem_cons.1 isMember with same | later
          · exact same ▸ below
          · exact Std.lt_trans below (headBelow member later)
        case isFalse notBelow =>
          refine List.pairwise_cons.2 ⟨fun member isMember => ?_, ih restAscending⟩
          rcases mem_insertEntry isMember with same | later
          · rcases Std.lt_trichotomy key entry.1 with below | equal | above
            · exact absurd below notBelow
            · exact absurd equal different
            · exact same ▸ above
          · exact headBelow member later

theorem find?_insertEntry_self (key : Key) (value : Value) (entries : List (Key × Value)) :
    (insertEntry key value entries).find? (·.1 = key) = some (key, value) := by
  induction entries with
  | nil => simp [insertEntry]
  | cons entry rest ih =>
      simp only [insertEntry]
      split
      · simp
      · split
        · simp
        · rename_i different _
          simp [Ne.symm different, ih]

theorem find?_insertEntry_of_ne {key other : Key} (different : other ≠ key) (value : Value)
    (entries : List (Key × Value)) :
    (insertEntry key value entries).find? (·.1 = other) = entries.find? (·.1 = other) := by
  induction entries with
  | nil => simp [insertEntry, Ne.symm different]
  | cons entry rest ih =>
      simp only [insertEntry]
      split
      · rename_i same
        have : entry.1 ≠ other := same ▸ Ne.symm different
        simp [Ne.symm different, this]
      · split
        · simp [List.find?_cons, Ne.symm different]
        · simp [List.find?_cons, ih]

end Lists

variable {Key Value : Type} [LT Key] [DecidableLT Key]
  [DecidableEq Key]

def empty : Table Key Value := ⟨[], List.Pairwise.nil⟩

instance : Inhabited (Table Key Value) := ⟨empty⟩

def get? (table : Table Key Value) (key : Key) : Option Value :=
  (table.entries.find? (·.1 = key)).map (·.2)

def contains (table : Table Key Value) (key : Key) : Bool :=
  table.entries.any (·.1 = key)

def keys (table : Table Key Value) : List Key :=
  table.entries.map (·.1)

def values (table : Table Key Value) : List Value :=
  table.entries.map (·.2)

def size (table : Table Key Value) : Nat :=
  table.entries.length

/-- The table without the entries that a test rejects. -/
def filter (table : Table Key Value) (test : Key → Value → Bool) : Table Key Value :=
  ⟨table.entries.filter fun entry => test entry.1 entry.2, table.ascending.filter _⟩

def erase (table : Table Key Value) (key : Key) : Table Key Value :=
  table.filter fun present _ => present ≠ key

/-- The table with every value replaced by a function of its key and itself. -/
def map {Image : Type} (table : Table Key Value) (image : Key → Value → Image) :
    Table Key Image :=
  ⟨table.entries.map fun entry => (entry.1, image entry.1 entry.2),
    List.pairwise_map.2 table.ascending⟩

omit [DecidableLT Key] in
theorem get?_empty (key : Key) : (empty : Table Key Value).get? key = none := rfl

omit [DecidableLT Key] in
@[simp]
theorem get?_erase_self (table : Table Key Value) (key : Key) :
    (table.erase key).get? key = none := by
  simp [erase, filter, get?]

omit [DecidableLT Key] in
theorem get?_erase_of_ne (table : Table Key Value) {key other : Key} (different : other ≠ key) :
    (table.erase key).get? other = table.get? other := by
  simp only [erase, filter, get?, List.find?_filter]
  congr 1
  congr 1
  funext entry
  by_cases same : entry.1 = other
  · simp [same, different]
  · simp [same]

omit [DecidableLT Key] in
theorem get?_map {Image : Type} (table : Table Key Value) (image : Key → Value → Image)
    (key : Key) : (table.map image).get? key = (table.get? key).map (image key) := by
  simp only [map, get?]
  induction table.entries with
  | nil => rfl
  | cons entry rest ih =>
      by_cases same : entry.1 = key
      · subst same
        simp
      · simpa [List.find?_cons, same] using ih

variable [LE Key] [Std.IsLinearOrder Key] [Std.LawfulOrderLT Key]

/-- The table with a value at a key, in place of the value that was there. -/
def set (table : Table Key Value) (key : Key) (value : Value) : Table Key Value :=
  ⟨insertEntry key value table.entries, pairwise_insertEntry table.ascending⟩

/-- The table with the value at a key replaced by a function of what is there. -/
def alter (table : Table Key Value) (key : Key) (change : Option Value → Value) :
    Table Key Value :=
  table.set key (change (table.get? key))

/-- The table with the value at a key changed, if there is one. -/
def modify (table : Table Key Value) (key : Key) (change : Value → Value) : Table Key Value :=
  match table.get? key with
  | some value => table.set key (change value)
  | none => table

/-- The table of a list of entries, where a later entry replaces an earlier one. -/
def ofList (entries : List (Key × Value)) : Table Key Value :=
  entries.foldl (fun table entry => table.set entry.1 entry.2) empty

@[simp]
theorem get?_set_self (table : Table Key Value) (key : Key) (value : Value) :
    (table.set key value).get? key = some value := by
  simp [set, get?, find?_insertEntry_self]

theorem get?_set_of_ne (table : Table Key Value) {key other : Key} (different : other ≠ key)
    (value : Value) : (table.set key value).get? other = table.get? other := by
  simp [set, get?, find?_insertEntry_of_ne different]

omit [DecidableLT Key] [Std.IsLinearOrder Key] in
/-- The entries are the keys with their values. -/
theorem mem_entries_iff (table : Table Key Value) {key : Key} {value : Value} :
    (key, value) ∈ table.entries ↔ table.get? key = some value := by
  obtain ⟨entries, ascending⟩ := table
  simp only [get?, Option.map_eq_some_iff]
  induction entries with
  | nil => simp
  | cons entry entries ih =>
      obtain ⟨below, restAscending⟩ := List.pairwise_cons.1 ascending
      by_cases same : entry.1 = key
      · subst same
        have notLater : (entry.1, value) ∉ entries := by
          intro later
          exact Std.lt_irrefl (below (entry.1, value) later)
        constructor
        · intro inside
          rcases List.mem_cons.1 inside with here | later
          · exact ⟨entry, by simp, by rw [← here]⟩
          · exact absurd later notLater
        · rintro ⟨found, isFound, sameValue⟩
          rw [List.find?_cons_of_pos (by simp)] at isFound
          cases isFound
          rw [← sameValue]
          exact List.mem_cons_self
      · have notHere : (key, value) ≠ entry := by
          intro here
          exact same (by rw [← here])
        rw [List.mem_cons, or_iff_right notHere, ih restAscending,
          List.find?_cons_of_neg (by simpa using same)]

theorem get?_foldl_set (entries : List (Key × Value)) (table : Table Key Value) (key : Key) :
    (entries.foldl (fun table entry => table.set entry.1 entry.2) table).get? key =
      ((entries.reverse.find? (·.1 = key)).map (·.2)).or (table.get? key) := by
  induction entries generalizing table with
  | nil => rfl
  | cons entry entries ih =>
      rw [List.foldl_cons, ih, List.reverse_cons, List.find?_append]
      cases later : entries.reverse.find? (·.1 = key) with
      | some found => rfl
      | none =>
          by_cases same : entry.1 = key
          · subst same
            simp
          · simp [same, get?_set_of_ne table (Ne.symm same)]

/-- Of the entries with a key a table made of a list has the last one. -/
theorem get?_ofList (entries : List (Key × Value)) (key : Key) :
    (ofList entries).get? key = (entries.reverse.find? (·.1 = key)).map (·.2) := by
  rw [ofList, get?_foldl_set, get?_empty, Option.or_none]

end Table

end EntitySearch
