import Mathlib.Data.List.Infix
import SqlSchema.CommandLine.Files
/-!
# Written files

A text that has been written is read back from the same path. All other files stay as they are, and no
directory comes or goes, since a path leads through directories that are there already.
-/
namespace SqlSchema.CommandLine.FileSystem

/-- After a text is written to a path, it stands there, and all else is as it was before. -/
structure Replaces (fs : FileSystem) (path text : String) (left : FileSystem) : Prop where
  read : left.read path = .ok text
  others : ∃ place, fs.locate path = .ok place ∧
    ∀ other, other ≠ place → left.file? other = fs.file? other
  directories : ∀ place, left.isDirectory place = fs.isDirectory place

/-- All places on the way to a place are directories. -/
def IsRooted (fs : FileSystem) (place : List String) : Prop :=
  ∀ above, above <+: place → above ≠ place → fs.isDirectory above

variable {fs : FileSystem} {place : List String}

section Paths

theorem isRooted_pathStart (path : String) : fs.IsRooted (pathStart path) := by
  have hworking : fs.isDirectory [] := by simp [isDirectory]
  intro above habove hne
  unfold pathStart at habove hne
  split at habove
  · next hroot =>
    rw [if_pos hroot] at hne
    rcases List.prefix_cons_iff.1 habove with rfl | ⟨rest, rfl, hrest⟩
    · exact hworking
    · rw [List.prefix_nil.1 hrest] at hne
      exact absurd rfl hne
  · rw [List.prefix_nil.1 habove]
    exact hworking

theorem IsRooted.of_prefix {above : List String} (h : fs.IsRooted place) (habove : above <+: place) :
    fs.IsRooted above := by
  intro front hfront hne
  apply h front (hfront.trans habove)
  rintro rfl
  exact hne (hfront.eq_of_length (Nat.le_antisymm hfront.length_le habove.length_le))

theorem IsRooted.enter (h : fs.IsRooted place) (hplace : fs.isDirectory place) (step : String) :
    fs.IsRooted (enter place step) := by
  unfold CommandLine.enter
  split
  · exact h
  · split
    · exact h.of_prefix (List.dropLast_prefix place)
    · intro above habove hne
      rcases List.prefix_concat_iff.1 habove with heq | habove
      · exact absurd heq hne
      · by_cases heq : above = place
        · rwa [heq]
        · exact h above habove heq

theorem IsRooted.follow {steps target : List String} (h : fs.IsRooted place)
    (hfollow : fs.follow place steps = .ok target) : fs.IsRooted target := by
  induction steps generalizing place with
  | nil =>
    obtain rfl : place = target := by simpa [FileSystem.follow] using hfollow
    exact h
  | cons step steps ih =>
    rw [FileSystem.follow] at hfollow
    split at hfollow
    · next hplace => exact ih (h.enter hplace step) hfollow
    · split at hfollow <;> cases hfollow

theorem target_eq_ok {path : String} (h : fs.target path = .ok place) :
    fs.locate path = .ok place ∧ fs.isDirectory place = false := by
  unfold target at h
  split at h
  · cases h
  · next found hfollow =>
    split at h
    · cases h
    · next hgo =>
      obtain rfl : found = place := by simpa using h
      obtain ⟨hlast, hplace⟩ := not_or.1 hgo
      -- without a slash at its end, no step of the path is left out
      have hsteps : ((pathSteps path).reverse.dropWhile (· == "")).reverse = pathSteps path := by
        rcases List.eq_nil_or_concat (pathSteps path) with hnil | ⟨steps, last, hsteps⟩
        · rw [hnil]
          rfl
        · rw [hsteps] at hlast ⊢
          have hne : last ≠ "" := by simpa using hlast
          simp [hne]
      rw [hsteps] at hfollow
      exact ⟨hfollow, by simpa using hplace⟩

end Paths

section Places

@[simp] theorem file?_put_self (text : String) : (fs.put place text).file? place = some (some text) := by
  simp [put, file?]

theorem file?_put_of_ne {other : List String} (h : other ≠ place) (text : String) :
    (fs.put place text).file? other = fs.file? other := by
  have hkeep : ∀ f : List String × Option String,
      decide (f.1 != place ∧ f.1 == other) = (f.1 == other) := by
    intro f
    by_cases heq : f.1 = other <;> simp_all
  have hplace : (place == other) = false := by simpa using h.symm
  simp only [put, file?, List.find?_cons, hplace, List.find?_filter, hkeep]

theorem isDirectory_put (h : fs.IsRooted place) (text : String) (other : List String) :
    (fs.put place text).isDirectory other = fs.isDirectory other := by
  by_cases habove : other <+: place ∧ other ≠ place
  -- a place on the way to the new file is a directory before it as well
  · have hother := h other habove.1 habove.2
    have hlength : other.length < place.length := by
      refine Nat.lt_of_le_of_ne habove.1.length_le fun heq => habove.2 ?_
      exact habove.1.eq_of_length heq
    rw [hother]
    simp [isDirectory, put, hlength, habove.1]
  · have hplace : (decide (other.length < place.length) && other.isPrefixOf place) = false := by
      refine Bool.eq_false_iff.2 fun hboth => habove ?_
      simp only [Bool.and_eq_true, decide_eq_true_eq, List.isPrefixOf_iff_prefix] at hboth
      exact ⟨hboth.2, fun heq => by simp [heq] at hboth⟩
    have hkeep : ∀ f : List String × Option String,
        (f.1 != place && (decide (other.length < f.1.length) && other.isPrefixOf f.1)) =
          (decide (other.length < f.1.length) && other.isPrefixOf f.1) := by
      intro f
      by_cases heq : f.1 = place <;> simp_all
    simp only [isDirectory, put, List.any_cons, List.any_filter, hplace, hkeep, Bool.false_or]

theorem follow_put (h : fs.IsRooted place) (text : String) {source target steps : List String}
    (hfollow : fs.follow source steps = .ok target) :
    (fs.put place text).follow source steps = .ok target := by
  induction steps generalizing source with
  | nil => exact hfollow
  | cons step steps ih =>
    rw [follow] at hfollow ⊢
    rw [isDirectory_put h]
    split at hfollow
    · next hsource =>
      rw [if_pos hsource]
      exact ih hfollow
    · split at hfollow <;> cases hfollow

end Places

theorem replaces_of_write {path text : String} {left : FileSystem} (h : fs.write path text = .ok left) :
    fs.Replaces path text left := by
  unfold write at h
  cases htarget : fs.target path with
  | error fault => simp [htarget, Except.map] at h
  | ok place =>
    obtain rfl : fs.put place text = left := by simpa [htarget, Except.map] using h
    obtain ⟨hlocate, hplace⟩ := target_eq_ok htarget
    have hrooted := (isRooted_pathStart path).follow hlocate
    constructor
    · have hstill : (fs.put place text).locate path = .ok place := follow_put hrooted text hlocate
      simp [FileSystem.read, hstill, isDirectory_put hrooted, hplace]
    · exact ⟨place, hlocate, fun other hother => file?_put_of_ne hother text⟩
    · exact isDirectory_put hrooted text

end SqlSchema.CommandLine.FileSystem
