import Mathlib.Data.List.Forall2

/-!
# Outcomes of computations that can fail

What the success of a computation tells about its parts.  A computation in steps
succeeds in each of them, and a traversal of a list succeeds exactly if every
element has its image in the result.
-/

namespace EntitySearch

variable {Failure First Last : Type}

theorem toOption_eq_some_iff {outcome : Except Failure First} {value : First} :
    outcome.toOption = some value ↔ outcome = .ok value := by
  cases outcome <;> simp [Except.toOption]

theorem exists_of_bind_ok {first : Except Failure First} {next : First → Except Failure Last}
    {last : Last} (done : first >>= next = .ok last) :
    ∃ outcome, first = .ok outcome ∧ next outcome = .ok last := by
  cases first with
  | error failure => cases done
  | ok outcome => exact ⟨outcome, rfl, done⟩

theorem exists_of_map_ok {first : Except Failure First} {image : First → Last} {last : Last}
    (done : first.map image = .ok last) :
    ∃ outcome, first = .ok outcome ∧ image outcome = last := by
  cases first with
  | error failure => cases done
  | ok outcome => exact ⟨outcome, rfl, Except.ok.inj done⟩

section Traversals

variable {Source Image : Type} {image : Source → Except Failure Image} {sources : List Source}
  {images : List Image}

/-- A traversal yields the images of the elements, one for each, in their order. -/
theorem mapM_eq_ok_iff :
    sources.mapM image = .ok images ↔
      List.Forall₂ (fun source found => image source = .ok found) sources images := by
  constructor
  · intro done
    induction sources generalizing images with
    | nil =>
        cases done
        exact .nil
    | cons source sources ih =>
        rw [List.mapM_cons] at done
        obtain ⟨first, isFirst, rest⟩ := exists_of_bind_ok done
        obtain ⟨others, areOthers, made⟩ := exists_of_bind_ok rest
        cases made
        exact .cons isFirst (ih areOthers)
  · intro related
    induction related with
    | nil => rfl
    | cons isFirst _ ih =>
        rw [List.mapM_cons, isFirst, ih]
        rfl

theorem exists_of_mapM_ok (done : sources.mapM image = .ok images) {found : Image}
    (inside : found ∈ images) : ∃ source ∈ sources, image source = .ok found := by
  have related := mapM_eq_ok_iff.1 done
  obtain ⟨place, within, rfl⟩ := List.mem_iff_getElem.1 inside
  have inSources : place < sources.length := related.length_eq ▸ within
  exact ⟨sources[place], List.getElem_mem inSources, related.get inSources within⟩

theorem exists_image_of_mapM_ok (done : sources.mapM image = .ok images) {source : Source}
    (inside : source ∈ sources) : ∃ found ∈ images, image source = .ok found := by
  have related := mapM_eq_ok_iff.1 done
  obtain ⟨place, within, rfl⟩ := List.mem_iff_getElem.1 inside
  have inImages : place < images.length := related.length_eq ▸ within
  exact ⟨images[place], List.getElem_mem inImages, related.get within inImages⟩

theorem map_of_mapM_ok {origin : Image → Source}
    (returns : ∀ source found, image source = .ok found → origin found = source)
    (done : sources.mapM image = .ok images) : images.map origin = sources := by
  have related := (mapM_eq_ok_iff.1 done).imp fun source found isFound =>
    (returns source found isFound).symm
  have same := List.forall₂_map_right_iff.2 related
  rw [List.forall₂_eq_eq_eq] at same
  exact same.symm

theorem exists_mapM_eq_ok (succeeds : ∀ source ∈ sources, ∃ found, image source = .ok found) :
    ∃ images, sources.mapM image = .ok images := by
  induction sources with
  | nil => exact ⟨[], rfl⟩
  | cons source sources ih =>
      obtain ⟨first, isFirst⟩ := succeeds source List.mem_cons_self
      obtain ⟨others, areOthers⟩ := ih fun other inside =>
        succeeds other (List.mem_cons_of_mem _ inside)
      exact ⟨first :: others, mapM_eq_ok_iff.2 (.cons isFirst (mapM_eq_ok_iff.1 areOthers))⟩

end Traversals

end EntitySearch
