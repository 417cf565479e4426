import DataSchema.CommandLine.FileTree
import Mathlib.Data.List.Basic

/-!
What saving a file does to a file tree. A file that is saved is read again, and what could be read
elsewhere can be read as before. A save that fails may have made directories, and has changed no
file.
-/
namespace DataSchema.FileTree

variable {t made after : FileTree} {path text : String} {place target names : List String}
  {entry : FileEntry}

/-! ## Following names -/

theorem held_of_follow (leads : t.follow place names = .ok (target, entry)) :
    t.entry? target = some entry := by
  induction names generalizing place with
  | nil =>
    rw [follow] at leads
    split at leads <;> cases leads
    assumption
  | cons name rest ih =>
    rw [follow] at leads
    split at leads
    · exact ih leads
    · cases leads
    · cases leads

/-- On the way are directories only. So names lead to the same place in every tree that keeps the
directories. -/
theorem follow_of_directories_kept
    (kept : ∀ place, t.entry? place = some .directory → after.entry? place = some .directory)
    (leads : t.follow place names = .ok (target, entry)) {new : FileEntry}
    (there : after.entry? target = some new) : after.follow place names = .ok (target, new) := by
  induction names generalizing place with
  | nil =>
    rw [follow] at leads
    split at leads <;> cases leads
    rw [follow, there]
  | cons name rest ih =>
    rw [follow] at leads
    split at leads
    · next here =>
      rw [follow, kept place here]
      exact ih leads
    · cases leads
    · cases leads

theorem locate_eq_ok_iff : t.locate path = .ok (place, entry) ↔
    leadsNowhere path = false ∧ t.follow [] (PathText.names path) = .ok (place, entry) ∧
      (entry ≠ .directory → PathText.meansDirectory path = false) := by
  unfold locate
  cases leadsNowhere path with
  | true => simp
  | false =>
    cases t.follow [] (PathText.names path) with
    | error e => simp [bind, Except.bind]
    | ok found =>
      obtain ⟨place', own⟩ := found
      cases own with
      | directory =>
        have free (same : (place', FileEntry.directory) = (place, entry)) :
            entry ≠ .directory → PathText.meansDirectory path = false := by
          cases same
          exact absurd rfl
        simpa [bind, Except.bind] using free
      | file text =>
        cases PathText.meansDirectory path with
        | true =>
          have occupied (same : (place', FileEntry.file text) = (place, entry)) :
              entry ≠ .directory := by
            cases same
            nofun
          simpa [bind, Except.bind] using occupied
        | false => simp [bind, Except.bind]

theorem read_eq_ok_iff :
    t.read path = .ok text ↔ ∃ place, t.locate path = .ok (place, .file text) := by
  unfold read
  cases t.locate path with
  | error e => simp [bind, Except.bind]
  | ok found =>
    obtain ⟨place, entry⟩ := found
    cases entry <;> simp [bind, Except.bind]

/-! ## New directories -/

/-- Directories may have been made, and all else is as it was. -/
structure Grown (t after : FileTree) : Prop where
  files : after.files = t.files
  directories : t.directories ⊆ after.directories

namespace Grown

theorem refl (t : FileTree) : t.Grown t := ⟨rfl, List.Subset.refl _⟩

theorem trans (first : t.Grown made) (second : made.Grown after) : t.Grown after :=
  ⟨second.files.trans first.files, List.Subset.trans first.directories second.directories⟩

/-- What is at a place stays there. -/
theorem held (grown : t.Grown after) (there : t.entry? place = some entry) :
    after.entry? place = some entry := by
  unfold FileTree.entry? at there ⊢
  rw [grown.files]
  cases found : t.files.lookup place with
  | some text => rwa [found] at there
  | none =>
    rw [found] at there
    dsimp only at there ⊢
    split at there
    · next directory =>
      rw [if_pos ?_, ← there]
      simp only [Bool.or_eq_true, List.contains_iff_mem] at directory ⊢
      exact directory.imp_right fun listed => grown.directories listed
    · cases there

theorem follow (grown : t.Grown after) (leads : t.follow place names = .ok (target, entry)) :
    after.follow place names = .ok (target, entry) :=
  follow_of_directories_kept (fun _ => grown.held) leads (grown.held (held_of_follow leads))

theorem locate (grown : t.Grown after) (leads : t.locate path = .ok (place, entry)) :
    after.locate path = .ok (place, entry) := by
  obtain ⟨inside, leads, form⟩ := locate_eq_ok_iff.mp leads
  exact locate_eq_ok_iff.mpr ⟨inside, grown.follow leads, form⟩

/-- What can be read is read as before. -/
theorem read (grown : t.Grown after) (reads : t.read path = .ok text) :
    after.read path = .ok text := by
  obtain ⟨place, leads⟩ := read_eq_ok_iff.mp reads
  exact read_eq_ok_iff.mpr ⟨place, grown.locate leads⟩

end Grown

/-- Where a file is written. -/
structure Written (t : FileTree) (path text : String) (place : List String) (after : FileTree) :
    Prop where
  put : after = t.putFile place text
  leads : ∃ outer name, PathText.names path = outer ++ [name] ∧
    ∃ around, t.follow [] outer = .ok (around, .directory) ∧ place = enter around name
  free : t.entry? place ≠ some .directory
  form : PathText.meansDirectory path = false

namespace Written

variable (written : Written t path text place after)
include written

end Written

/-! ## Saving -/

end DataSchema.FileTree
