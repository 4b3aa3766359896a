import Mathlib.Tactic.Common
import Specimen.Files.Disk

/-!
# Reading what was written

A text that has been written to a path is read from it (`read_write`). Paths lead where they led:
writing takes away no directory, and the way to a file does not lead through the file itself.
-/

namespace Specimen

namespace Disk

/-- In the place of a file that is put there stands its text; the others are as before. -/
theorem lookup_put (place other : Location) (text : String) :
    ∀ files : List (Location × String), (put files place text).lookup other =
      if other = place then some text else files.lookup other
  | [] => by
    rw [put, List.filter_nil, List.nil_append, List.lookup_cons, List.lookup_nil]
    by_cases same : other = place
    · rw [if_pos same, beq_iff_eq.mpr same]
    · rw [if_neg same, beq_eq_false_iff_ne.mpr same]
  | (there, content) :: rest => by
    have ih := lookup_put place other text rest
    rw [put] at ih ⊢
    rw [List.filter_cons]
    by_cases replaced : there = place
    · rw [if_neg (by simpa using replaced), ih]
      by_cases same : other = place
      · rw [if_pos same, if_pos same]
      · rw [if_neg same, if_neg same, List.lookup_cons,
          beq_eq_false_iff_ne.mpr fun eq => same (eq.trans replaced)]
    · rw [if_pos (by simpa using replaced), List.cons_append, List.lookup_cons, ih,
        List.lookup_cons]
      cases here : other == there with
      | true => exact (if_neg fun same => replaced ((eq_of_beq here).symm.trans same)).symm
      | false => rfl

variable {disk : Disk} {place : Location} {text : String}

/-- A disk with a text put in a place. -/
def withFile (disk : Disk) (place : Location) (text : String) : Disk :=
  { disk with files := put disk.files place text }

theorem fileAt?_withFile (other : Location) :
    (disk.withFile place text).fileAt? other =
      if other = place then some text else disk.fileAt? other :=
  lookup_put place other text disk.files

theorem mem_known_withFile {other : Location} (known : other ∈ disk.known) :
    other ∈ (disk.withFile place text).known := by
  rw [Disk.known, List.mem_append] at known ⊢
  refine known.imp id fun named => ?_
  obtain ⟨file, mem, rfl⟩ := List.mem_map.mp named
  by_cases replaced : file.1 = place
  · rw [replaced]
    exact List.mem_map_of_mem (List.mem_append_right _ (List.mem_singleton_self (place, text)))
  · have kept : (file.1 != place) = true := bne_iff_ne.mpr replaced
    exact List.mem_map_of_mem (List.mem_append_left _ (List.mem_filter.mpr ⟨mem, kept⟩))

/-- Where there is no directory, a text may be put without taking one away. -/
theorem isDirectoryAt_withFile (free : disk.isDirectoryAt place = false) {other : Location}
    (directory : disk.isDirectoryAt other = true) :
    (disk.withFile place text).isDirectoryAt other = true := by
  have elsewhere : other ≠ place := by
    rintro rfl
    exact absurd directory (by rw [free]; decide)
  rw [isDirectoryAt, Bool.and_eq_true, List.any_eq_true] at directory ⊢
  obtain ⟨noFile, below, known, leads⟩ := directory
  rw [fileAt?_withFile, if_neg elsewhere]
  exact ⟨noFile, below, mem_known_withFile known, leads⟩

/-- A way that leads through directories still does. -/
theorem enter_withFile (free : disk.isDirectoryAt place = false) {start next : Location}
    {name : String} (way : disk.enter start name = some next) :
    (disk.withFile place text).enter start name = some next := by
  unfold enter at way ⊢
  cases directory : disk.isDirectoryAt start with
  | false =>
    rw [directory] at way
    cases way
  | true =>
    rw [directory] at way
    rw [isDirectoryAt_withFile free directory]
    exact way

theorem foldlM_enter_withFile (free : disk.isDirectoryAt place = false) :
    ∀ (names : List String) {start goal : Location}, names.foldlM disk.enter start = some goal →
      names.foldlM (disk.withFile place text).enter start = some goal
  | [], _, _, way => way
  | name :: rest, start, goal, way => by
    rw [List.foldlM_cons] at way ⊢
    obtain ⟨next, first, onward⟩ := Option.bind_eq_some_iff.mp way
    exact Option.bind_eq_some_iff.mpr
      ⟨next, enter_withFile free first, foldlM_enter_withFile free rest onward⟩

theorem locate_withFile (free : disk.isDirectoryAt place = false) {path : String}
    {goal : Location} (found : disk.locate path = some goal) :
    (disk.withFile place text).locate path = some goal := by
  unfold locate at found ⊢
  split at found
  · cases found
  · rename_i named
    rw [if_neg named]
    exact foldlM_enter_withFile free (names path) found

/-- What was written is read. -/
theorem read_write {path : String} {after : Disk} (wrote : disk.write path text = some after) :
    after.read path = some text := by
  unfold write at wrote
  cases found : disk.locate path with
  | none =>
    rw [found] at wrote
    cases wrote
  | some place =>
    rw [found] at wrote
    dsimp only at wrote
    split at wrote
    · cases wrote
    · rename_i free
      obtain rfl : disk.withFile place text = after := Option.some.inj wrote
      rw [read, locate_withFile (eq_false_of_ne_true free) found]
      exact (fileAt?_withFile place).trans (if_pos rfl)

end Disk

end Specimen
