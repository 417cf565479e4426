import Mathlib.Data.List.Forall2
import Mathlib.Data.Option.Basic

/-!
Lists that are related place by place, and options of which both or neither are there.
-/
namespace DataSchema

variable {α β γ : Type} {R S : α → β → Prop} {as : List α} {bs : List β}

/-- Nothing is related to nothing only. -/
theorem eq_none_of_rel {b : Option β} (related : Option.Rel R none b) : b = none := by
  cases related
  rfl

/-- Something is related to something only. -/
theorem exists_of_rel {a : α} {b : Option β} (related : Option.Rel R (some a) b) :
    ∃ b', b = some b' ∧ R a b' := by
  cases related with
  | some h => exact ⟨_, rfl, h⟩

/-- A member of the second of two related lists has a partner in the first. -/
theorem forall₂_mem_right (h : List.Forall₂ R as bs) {b : β} (member : b ∈ bs) :
    ∃ a ∈ as, R a b := by
  induction h with
  | nil => cases member
  | cons related rest ih =>
    rcases List.mem_cons.mp member with rfl | later
    · exact ⟨_, by simp, related⟩
    · obtain ⟨a, inside, found⟩ := ih later
      exact ⟨a, by simp [inside], found⟩

/-- Two lists that are related in each place have related values at a place of the first. -/
theorem forall₂_getElem? (h : List.Forall₂ R as bs) {place : Nat} {a : α}
    (found : as[place]? = some a) : ∃ b, bs[place]? = some b ∧ R a b := by
  induction h generalizing place with
  | nil => simp at found
  | cons related rest ih =>
    cases place with
    | zero =>
      cases found
      exact ⟨_, rfl, related⟩
    | succ place => exact ih found

/-- A relation that implies another between members of two lists takes the lists along. -/
theorem forall₂_imp_of_mem (each : List.Forall₂ R as bs)
    (step : ∀ a ∈ as, ∀ b ∈ bs, R a b → S a b) : List.Forall₂ S as bs := by
  obtain ⟨length, each⟩ := List.forall₂_iff_zip.mp each
  refine List.forall₂_iff_zip.mpr ⟨length, fun {a b} inside => ?_⟩
  obtain ⟨left, right⟩ := List.of_mem_zip inside
  exact step a left b right (each inside)

/-- Lists that differ in one place are related if what stands there is. -/
theorem forall₂_replace {T : α → α → Prop} (refl : ∀ a, T a a) {a b : α} (related : T a b)
    (before after : List α) : List.Forall₂ T (before ++ a :: after) (before ++ b :: after) :=
  List.rel_append (List.forall₂_same.mpr fun c _ => refl c)
    (.cons related (List.forall₂_same.mpr fun c _ => refl c))

/-- Images of two lists are equal exactly when they are equal place by place. -/
theorem map_eq_map_iff_forall₂ {f : α → γ} {g : β → γ} :
    as.map f = bs.map g ↔ List.Forall₂ (fun a b => f a = g b) as bs := by
  rw [← List.forall₂_eq_eq_eq, List.forall₂_map_left_iff, List.forall₂_map_right_iff]

end DataSchema
