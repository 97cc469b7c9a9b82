import EntitySearch.Collection.Table
import Mathlib.Data.List.Nodup
import Mathlib.Data.List.Perm.Subperm

/-!
# The entries of a table

A table is told by its entries, and a table made of a list without repeated keys
has the members of the list as its entries.
-/

namespace EntitySearch

namespace Table

section

variable {Key Value : Type} [LT Key] [DecidableLT Key] [DecidableEq Key] [LE Key]
  [Std.IsLinearOrder Key] [Std.LawfulOrderLT Key]

theorem mem_entries_ofList {entries : List (Key × Value)} (distinct : (entries.map (·.1)).Nodup)
    {key : Key} {value : Value} :
    (key, value) ∈ (ofList entries).entries ↔ (key, value) ∈ entries := by
  rw [mem_entries_iff, get?_ofList, Option.map_eq_some_iff]
  constructor
  · rintro ⟨found, isFound, sameValue⟩
    have sameKey : found.1 = key := by simpa using List.find?_some isFound
    have inside := List.mem_reverse.1 (List.mem_of_find?_eq_some isFound)
    rw [← sameKey, ← sameValue]
    exact inside
  · intro inside
    have some : (entries.reverse.find? (·.1 = key)).isSome := by
      rw [List.find?_isSome]
      exact ⟨(key, value), List.mem_reverse.2 inside, by simp⟩
    obtain ⟨found, isFound⟩ := Option.isSome_iff_exists.1 some
    refine ⟨found, isFound, ?_⟩
    have sameKey : found.1 = key := by simpa using List.find?_some isFound
    have foundInside := List.mem_reverse.1 (List.mem_of_find?_eq_some isFound)
    have same := List.inj_on_of_nodup_map distinct foundInside inside sameKey
    rw [same]

omit [DecidableLT Key] [DecidableEq Key] [Std.IsLinearOrder Key] in
theorem nodup_keys (table : Table Key Value) : (table.entries.map (·.1)).Nodup := by
  rw [List.Nodup, List.pairwise_map]
  refine table.ascending.imp fun below equal => ?_
  rw [equal] at below
  exact Std.lt_irrefl below

omit [DecidableLT Key] [DecidableEq Key] in
/-- A table is told by its entries. -/
theorem ext_entries {first second : Table Key Value}
    (same : ∀ key value, (key, value) ∈ first.entries ↔ (key, value) ∈ second.entries) :
    first = second := by
  have sameEntries : first.entries = second.entries :=
    ((List.perm_ext_iff_of_nodup (List.Nodup.of_map _ first.nodup_keys)
      (List.Nodup.of_map _ second.nodup_keys)).2 fun entry =>
        same entry.1 entry.2).eq_of_pairwise
          (fun _ _ _ _ forward backward =>
            absurd (Std.lt_trans forward backward) Std.lt_irrefl)
          first.ascending second.ascending
  obtain ⟨firstEntries, firstAscending⟩ := first
  obtain ⟨secondEntries, secondAscending⟩ := second
  cases sameEntries
  rfl

theorem ofList_entries (table : Table Key Value) : ofList table.entries = table :=
  ext_entries fun _ _ => mem_entries_ofList table.nodup_keys

omit [DecidableLT Key] in
/-- A table is told by its values. -/
theorem ext_get? {first second : Table Key Value}
    (same : ∀ key, first.get? key = second.get? key) : first = second := by
  apply ext_entries
  intro key value
  rw [mem_entries_iff, mem_entries_iff, same key]

theorem get?_modify (table : Table Key Value) (key other : Key) (change : Value → Value) :
    (table.modify key change).get? other =
      if other = key then (table.get? key).map change else table.get? other := by
  unfold modify
  split
  · rename_i value present
    split
    · rename_i same
      rw [same, get?_set_self, present]
      rfl
    · rename_i different
      rw [get?_set_of_ne _ different]
  · rename_i absent
    split
    · rename_i same
      rw [same, absent]
      rfl
    · rfl

/-- What a change leaves alone can be read off the changed table. -/
theorem values_modify {Image : Type} (table : Table Key Value) (key : Key)
    {change : Value → Value} {image : Value → Image}
    (keeps : ∀ value, image (change value) = image value) :
    (table.modify key change).values.map image = table.values.map image := by
  have sameImages : (table.modify key change).map (fun _ => image) =
      table.map fun _ => image := by
    apply ext_get?
    intro other
    rw [get?_map, get?_map, get?_modify]
    split
    · rename_i same
      rw [same, Option.map_map]
      congr 1
      funext value
      exact keeps value
    · rfl
  have sameValues := congrArg values sameImages
  simp only [values, map, List.map_map] at sameValues ⊢
  exact sameValues

omit [DecidableLT Key] [Std.IsLinearOrder Key] in
theorem mem_values_iff (table : Table Key Value) {value : Value} :
    value ∈ table.values ↔ ∃ key, table.get? key = some value := by
  rw [values, List.mem_map]
  constructor
  · rintro ⟨⟨key, found⟩, inside, rfl⟩
    exact ⟨key, table.mem_entries_iff.1 inside⟩
  · rintro ⟨key, present⟩
    exact ⟨(key, value), table.mem_entries_iff.2 present, rfl⟩

end

end Table

end EntitySearch
