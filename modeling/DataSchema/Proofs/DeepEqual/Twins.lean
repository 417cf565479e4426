import DataSchema.Proofs.DeepEqual.Canonical
import DataSchema.Proofs.Json.Members

/-!
Twins: two values that JSON has and that are deep-equal. They are of one kind, and their parts are
twins. Members may come in another order, which changes neither what there is under a name nor what
is chosen and counted by names, and outputs that are twins are merged to twins.
-/
namespace DataSchema

namespace Json

/-! ## Members in any order -/

namespace UpToOrder

variable {R S : Json → Json → Prop} {members members' more more' : Members}

theorem imp (related : UpToOrder R members members') (step : ∀ v w, R v w → S v w) :
    UpToOrder S members members' := by
  obtain ⟨aligned, each, order⟩ := related
  exact ⟨aligned, each.imp fun member other h => ⟨h.1, step _ _ h.2⟩, order⟩

/-- Names are the same up to order. -/
theorem names_perm (related : UpToOrder R members members') :
    (members.map Prod.fst).Perm (members'.map Prod.fst) := by
  obtain ⟨aligned, each, order⟩ := related
  have names : members.map Prod.fst = aligned.map Prod.fst :=
    map_eq_map_iff_forall₂.mpr (each.imp fun member other h => h.1)
  exact names ▸ order.map Prod.fst

theorem hasMember_eq (related : UpToOrder R members members') (name : String) :
    hasMember members name = hasMember members' name := by
  rw [Bool.eq_iff_iff, hasMember_iff, hasMember_iff, related.names_perm.mem_iff]

theorem exists_right (related : UpToOrder R members members') {member : String × Json}
    (inside : member ∈ members) : ∃ other ∈ members', member.1 = other.1 ∧ R member.2 other.2 := by
  obtain ⟨aligned, each, order⟩ := related
  obtain ⟨other, inside, h⟩ := forall₂_mem_right each.flip inside
  exact ⟨other, order.mem_iff.mp inside, h⟩

theorem exists_left (related : UpToOrder R members members') {other : String × Json}
    (inside : other ∈ members') : ∃ member ∈ members, member.1 = other.1 ∧ R member.2 other.2 := by
  obtain ⟨aligned, each, order⟩ := related
  exact forall₂_mem_right each (order.mem_iff.mpr inside)

theorem append (first : UpToOrder R members members') (second : UpToOrder R more more') :
    UpToOrder R (members ++ more) (members' ++ more') := by
  obtain ⟨aligned, each, order⟩ := first
  obtain ⟨aligned', each', order'⟩ := second
  exact ⟨aligned ++ aligned', List.rel_append each each', order.append order'⟩

/-- A choice that agrees on related members chooses related members. -/
theorem filter (related : UpToOrder R members members') {p q : String × Json → Bool}
    (same : ∀ member other : String × Json, member.1 = other.1 → R member.2 other.2 →
      p member = q other) :
    UpToOrder R (members.filter p) (members'.filter q) := by
  obtain ⟨aligned, each, order⟩ := related
  refine ⟨aligned.filter q, List.rel_filter ?_ each, order.filter q⟩
  exact fun member other h => Bool.eq_iff_iff.mp (same member other h.1 h.2)

/-- As many are counted where counting agrees on related members. -/
theorem countP_eq (related : UpToOrder R members members') {p q : String × Json → Bool}
    (same : ∀ member other : String × Json, member.1 = other.1 → R member.2 other.2 →
      p member = q other) : members.countP p = members'.countP q := by
  rw [List.countP_eq_length_filter, List.countP_eq_length_filter]
  simpa using (related.filter same).names_perm.length_eq

/-- What is made of related members is related if each of the results is. -/
theorem filterMap (related : UpToOrder R members members') {f g : String → Json → Option Json}
    (same : ∀ name v w, R v w → Option.Rel S (f name v) (g name w)) :
    UpToOrder S (members.filterMap fun member => (f member.1 member.2).map (Prod.mk member.1))
      (members'.filterMap fun member => (g member.1 member.2).map (Prod.mk member.1)) := by
  obtain ⟨aligned, each, order⟩ := related
  refine ⟨_, List.rel_filterMap ?_ each, order.filterMap _⟩
  rintro ⟨name, v⟩ ⟨name', w⟩ ⟨rfl, related⟩
  have forms := same name v w related
  dsimp only
  generalize f name v = form at forms ⊢
  generalize g name w = form' at forms ⊢
  cases forms with
  | some h => exact .some ⟨rfl, h⟩
  | none => exact .none

end UpToOrder

/-! ## Twins -/

/-- Two values that JSON has and that are deep-equal. -/
structure Twins (v w : Json) : Prop where
  left : v.WellFormed
  right : w.WellFormed
  equal : v.deepEqual w = true

theorem Twins.refl {v : Json} (wellFormed : v.WellFormed) : Twins v v :=
  ⟨wellFormed, wellFormed, deepEqual_refl v⟩

theorem twins_array_iff {items items' : List Json} :
    Twins (.array items) (.array items') ↔ List.Forall₂ Twins items items' := by
  constructor
  · rintro ⟨left, right, equal⟩
    exact forall₂_imp_of_mem (deepEqual_array_iff.mp equal) fun v inside w inside' same =>
      ⟨left.items v inside, right.items w inside', same⟩
  · intro each
    refine ⟨.array fun v inside => ?_, .array fun w inside => ?_, ?_⟩
    · obtain ⟨w, -, twins⟩ := forall₂_mem_right each.flip inside
      exact twins.left
    · obtain ⟨v, -, twins⟩ := forall₂_mem_right each inside
      exact twins.right
    · exact deepEqual_array_iff.mpr (each.imp fun v w twins => twins.equal)

theorem twins_object_iff {members members' : Members} :
    Twins (.object members) (.object members') ↔
      (members.map Prod.fst).Nodup ∧ UpToOrder Twins members members' := by
  constructor
  · rintro ⟨left, right, equal⟩
    cases left with
    | object names left =>
      cases right with
      | object names' right =>
        obtain ⟨aligned, each, order⟩ := (deepEqual_object_iff names names').mp equal
        refine ⟨names, aligned, forall₂_imp_of_mem each ?_, order⟩
        intro member inside other inside' same
        exact ⟨same.1, left member inside, right other (order.mem_iff.mp inside'), same.2⟩
  · rintro ⟨names, related⟩
    have names' := related.names_perm.nodup_iff.mp names
    refine ⟨.object names fun member inside => ?_, .object names' fun other inside => ?_, ?_⟩
    · obtain ⟨other, -, -, twins⟩ := related.exists_right inside
      exact twins.left
    · obtain ⟨member, -, -, twins⟩ := related.exists_left inside
      exact twins.right
    · exact (deepEqual_object_iff names names').mpr (related.imp fun v w twins => twins.equal)

/-- What twins look like. -/
inductive TwinForms : Json → Json → Prop
  | null : TwinForms .null .null
  | bool {value : Bool} : TwinForms (.bool value) (.bool value)
  | number {n n' : Number} (left : n.WellFormed) (right : n'.WellFormed)
      (same : n.toBinary64.canonical = n'.toBinary64.canonical) :
      TwinForms (.number n) (.number n')
  | string {value : String} : TwinForms (.string value) (.string value)
  | array {items items' : List Json} (each : List.Forall₂ Twins items items') :
      TwinForms (.array items) (.array items')
  | object {members members' : Members} (names : (members.map Prod.fst).Nodup)
      (related : UpToOrder Twins members members') :
      TwinForms (.object members) (.object members')

theorem Twins.forms {v w : Json} (twins : Twins v w) : TwinForms v w := by
  have images : v.key.canonical = w.key.canonical := deepEqual_iff.mp twins.equal
  obtain ⟨left, right, -⟩ := id twins
  cases left with
  | null =>
    cases right with
    | null => exact .null
    | _ => simp [key, Key.canonical] at images
  | @bool value =>
    cases right with
    | @bool value' =>
      obtain rfl : value = value' := by simpa [key, Key.canonical] using images
      exact .bool
    | _ => simp [key, Key.canonical] at images
  | @string value =>
    cases right with
    | @string value' =>
      obtain rfl : value = value' := by simpa [key, Key.canonical] using images
      exact .string
    | _ => simp [key, Key.canonical] at images
  | number left =>
    cases right with
    | number right => exact .number left right (by simpa [key, Key.canonical] using images)
    | _ => simp [key, Key.canonical] at images
  | array left =>
    cases right with
    | array right => exact .array (twins_array_iff.mp twins)
    | _ => simp [key, Key.canonical] at images
  | object names left =>
    cases right with
    | object names' right => exact .object names (twins_object_iff.mp twins).2
    | _ => simp [key, Key.canonical] at images

/-! ## Merging -/

theorem Twins.absorb {members members' : Members} {output output' : Json}
    (merged : Twins (.object members) (.object members')) (twins : Twins output output') :
    Twins (.object (absorb members output)) (.object (absorb members' output')) := by
  cases twins.forms with
  | object names related =>
    obtain ⟨known, merged⟩ := twins_object_iff.mp merged
    refine twins_object_iff.mpr ⟨nodup_absorb known names, merged.append (related.filter ?_)⟩
    intro member other same _
    rw [same, merged.hasMember_eq]
  | _ => exact merged

end Json

/-- Outputs that are twins are merged to twins. -/
theorem Check.mergeOutputs_twins {outputs outputs' : List Json}
    (each : List.Forall₂ Json.Twins outputs outputs') :
    Json.Twins (mergeOutputs outputs) (mergeOutputs outputs') := by
  cases each with
  | nil => exact .refl .null
  | @cons output output' _ _ first rest =>
    cases first.forms with
    | object names related =>
      have others := Json.twins_array_iff.mpr rest
      rw [mergeOutputs_object _ fun _ inside => (others.left.items _ inside).names,
        mergeOutputs_object _ fun _ inside => (others.right.items _ inside).names]
      exact List.rel_foldl (R := Json.Twins) (P := fun merged merged' =>
        Json.Twins (.object merged) (.object merged'))
        (fun _ _ merged _ _ twins => merged.absorb twins) first rest
    | _ => exact first
end DataSchema
