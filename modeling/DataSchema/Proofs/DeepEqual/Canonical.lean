import DataSchema.Json.Key
import DataSchema.Proofs.Related
import Mathlib.Data.List.Perm.Basic
import Mathlib.Order.Compare

/-!
Deep equality is equality of canonical images: the keys of values with the two zeros made one. So it
is an equivalence, arrays are deep-equal item by item, and objects are up to the order of members.
-/
namespace DataSchema

/-! ## Numbers -/

namespace Binary64

/-- The number itself, except that zero has no sign. -/
def canonical : Binary64 → Binary64
  | .finite negative units => .finite (negative && units != 0) units
  | x => x

@[simp] theorem signedUnits_canonical (negative : Bool) (units : Nat) :
    signedUnits (negative && units != 0) units = signedUnits negative units := by
  cases negative <;> cases units <;> simp [signedUnits]

/-- Units with their sign tell a number but for the sign of zero. -/
theorem signedUnits_eq_iff {s t : Bool} {m n : Nat} :
    signedUnits s m = signedUnits t n ↔ (finite s m).canonical = (finite t n).canonical := by
  simp only [canonical, finite.injEq]
  constructor
  · intro same
    have units : m = n := by
      cases s <;> cases t <;> simp only [signedUnits] at same <;> split at same <;> omega
    subst units
    rcases Nat.eq_zero_or_pos m with rfl | positive
    · simp
    · cases s <;> cases t <;> simp [signedUnits] at same ⊢ <;> omega
  · rintro ⟨sign, rfl⟩
    rw [← signedUnits_canonical s m, sign, signedUnits_canonical]

@[simp] theorem lt_canonical_left (x y : Binary64) : x.canonical.lt y = x.lt y := by
  cases x <;> cases y <;> simp [canonical, lt]

@[simp] theorem lt_canonical_right (x y : Binary64) : x.lt y.canonical = x.lt y := by
  cases x <;> cases y <;> simp [canonical, lt]

@[simp] theorem eq_canonical_left (x y : Binary64) : x.canonical.eq y = x.eq y := by
  cases x <;> cases y <;> simp [canonical, eq]

@[simp] theorem eq_canonical_right (x y : Binary64) : x.eq y.canonical = x.eq y := by
  cases x <;> cases y <;> simp [canonical, eq]

@[simp] theorem le_canonical_left (x y : Binary64) : x.canonical.le y = x.le y := by
  simp [le]

@[simp] theorem le_canonical_right (x y : Binary64) : x.le y.canonical = x.le y := by
  simp [le]

@[simp] theorem isIntegral_canonical (x : Binary64) : x.canonical.isIntegral = x.isIntegral := by
  cases x <;> rfl

@[simp] theorem abs_canonical (x : Binary64) : x.canonical.abs = x.abs := by
  cases x <;> rfl

@[simp] theorem abs_rem_canonical (x y : Binary64) : (x.canonical.rem y).abs = (x.rem y).abs := by
  cases x with
  | finite negative units =>
    cases y with
    | finite _ n => by_cases zero : n = 0 <;> simp [canonical, rem, abs, zero]
    | _ => rfl
  | _ => rfl

/-- Numbers compare as equal exactly when they are, but for the sign of zero. -/
theorem order_eq_iff (x y : Binary64) : x.order y = .eq ↔ x.canonical = y.canonical := by
  cases x with
  | nan => cases y <;> simp [order, canonical]
  | infinite a =>
    cases y with
    | infinite b => cases a <;> cases b <;> simp [order, canonical, lt]
    | _ => cases a <;> simp [order, canonical, lt]
  | finite s m =>
    cases y with
    | finite t n =>
      rw [← signedUnits_eq_iff]
      rcases Int.lt_trichotomy (signedUnits s m) (signedUnits t n) with less | equal | greater
      · simp [order, lt, less, Int.ne_of_lt less]
      · simp [order, lt, equal]
      · simp [order, lt, greater, Int.lt_asymm greater, Int.ne_of_gt greater]
    | infinite b => cases b <;> simp [order, canonical, lt]
    | nan => simp [order, canonical]

end Binary64

/-! ## Keys -/

namespace Key

mutual

/-- The key with the sign of every zero left out. -/
def canonical : Key → Key
  | .number value => .number value.canonical
  | .array items => .array (canonicalItems items)
  | .object members => .object (canonicalMembers members)
  | key => key

def canonicalItems : List Key → List Key
  | [] => []
  | key :: rest => key.canonical :: canonicalItems rest

def canonicalMembers : List (String × Key) → List (String × Key)
  | [] => []
  | (name, key) :: rest => (name, key.canonical) :: canonicalMembers rest

end

theorem canonicalItems_eq_map (keys : List Key) : canonicalItems keys = keys.map canonical := by
  induction keys with
  | nil => rfl
  | cons key rest ih => rw [canonicalItems, List.map_cons, ih]

theorem canonicalMembers_eq_map (members : List (String × Key)) :
    canonicalMembers members = members.map fun member => (member.1, member.2.canonical) := by
  induction members with
  | nil => rfl
  | cons member rest ih => rw [canonicalMembers, List.map_cons, ih]

mutual

/-- Keys compare as equal exactly when they are, but for the signs of zeros. -/
theorem order_eq_iff : ∀ a b : Key, order a b = .eq ↔ a.canonical = b.canonical
  | .null, b => by cases b <;> simp [order, canonical, rank]
  | .bool a, b => by cases b <;> simp [order, canonical, rank]
  | .string a, b => by cases b <;> simp [order, canonical, rank]
  | .number a, b => by
    cases b with
    | number b => simpa [order, canonical] using Binary64.order_eq_iff a b
    | _ => simp [order, canonical, rank]
  | .array as, b => by
    cases b with
    | array bs => simpa [order, canonical] using orderItems_eq_iff as bs
    | _ => simp [order, canonical, rank]
  | .object as, b => by
    cases b with
    | object bs => simpa [order, canonical] using orderMembers_eq_iff as bs
    | _ => simp [order, canonical, rank]

theorem orderItems_eq_iff : ∀ as bs : List Key,
    orderItems as bs = .eq ↔ canonicalItems as = canonicalItems bs
  | [], bs => by cases bs <;> simp [orderItems, canonicalItems]
  | a :: as, [] => by simp [orderItems, canonicalItems]
  | a :: as, b :: bs => by
    simp [orderItems, canonicalItems, Ordering.then_eq_eq, order_eq_iff a b,
      orderItems_eq_iff as bs]

theorem orderMembers_eq_iff : ∀ as bs : List (String × Key),
    orderMembers as bs = .eq ↔ canonicalMembers as = canonicalMembers bs
  | [], bs => by cases bs <;> simp [orderMembers, canonicalMembers]
  | (m, a) :: as, [] => by simp [orderMembers, canonicalMembers]
  | (m, a) :: as, (n, b) :: bs => by
    simp [orderMembers, canonicalMembers, Ordering.then_eq_eq, order_eq_iff a b,
      orderMembers_eq_iff as bs, and_assoc]

end

theorem same_iff (a b : Key) : a.same b = true ↔ a.canonical = b.canonical := by
  rw [same, beq_iff_eq, order_eq_iff]

/-- Members in the order of their names, no name twice. -/
def Sorted (members : List (String × Key)) : Prop :=
  members.Pairwise fun a b => compare a.1 b.1 = .lt

variable {name : String} {key : Key} {members : List (String × Key)}

theorem mem_insertMember {member : String × Key} (inside : member ∈ insertMember name key members) :
    member.1 = name ∨ member ∈ members := by
  induction members with
  | nil => simp_all [insertMember]
  | cons first rest ih =>
    rw [insertMember] at inside
    cases place : compare name first.1 with
    | lt =>
      simp only [place, List.mem_cons] at inside
      rcases inside with rfl | inside
      · exact .inl rfl
      · exact .inr (List.mem_cons.mpr inside)
    | eq =>
      have same : name = first.1 := Std.compare_eq_iff_eq.mp place
      simp only [place, List.mem_cons] at inside
      rcases inside with rfl | inside
      · exact .inl same.symm
      · exact .inr (List.mem_cons_of_mem _ inside)
    | gt =>
      simp only [place, List.mem_cons] at inside
      rcases inside with rfl | inside
      · exact .inr List.mem_cons_self
      · exact (ih inside).imp_right (List.mem_cons_of_mem _)

/-- Insertion keeps members in their order. -/
theorem Sorted.insertMember (sorted : Sorted members) : Sorted (insertMember name key members) := by
  induction members with
  | nil => exact List.pairwise_singleton _ _
  | cons first rest ih =>
    obtain ⟨before, sorted⟩ := List.pairwise_cons.mp sorted
    rw [Key.insertMember]
    cases place : compare name first.1 with
    | lt =>
      refine List.pairwise_cons.mpr ⟨?_, List.pairwise_cons.mpr ⟨before, sorted⟩⟩
      intro member inside
      rcases List.mem_cons.mp inside with rfl | inside
      · exact place
      · exact Std.TransCmp.lt_trans place (before member inside)
    | eq => exact List.pairwise_cons.mpr ⟨before, sorted⟩
    | gt =>
      refine List.pairwise_cons.mpr ⟨?_, ih sorted⟩
      intro member inside
      rcases mem_insertMember inside with same | inside
      · exact same ▸ Std.OrientedCmp.lt_of_gt place
      · exact before member inside

/-- A member of a new name is added. -/
theorem insertMember_perm (fresh : name ∉ members.map Prod.fst) :
    (insertMember name key members).Perm ((name, key) :: members) := by
  induction members with
  | nil => exact .refl _
  | cons first rest ih =>
    obtain ⟨other, fresh⟩ := not_or.mp (fresh ∘ List.mem_cons.mpr)
    rw [insertMember]
    cases place : compare name first.1 with
    | lt => exact .refl _
    | eq => exact absurd (Std.compare_eq_iff_eq.mp place) other
    | gt => exact ((ih fresh).cons first).trans (.swap _ _ _)

end Key

/-! ## Values -/

namespace Json

/-- The canonical image of a value. -/
def canonical (v : Json) : Key := v.key.canonical

theorem deepEqual_iff {v w : Json} : v.deepEqual w = true ↔ v.canonical = w.canonical :=
  Key.same_iff v.key w.key

theorem deepEqual_refl (v : Json) : v.deepEqual v = true := deepEqual_iff.mpr rfl

/-- Deep-equal values are deep-equal to the same values. -/
theorem deepEqual_congr {v v' w w' : Json} (left : v.deepEqual v' = true)
    (right : w.deepEqual w' = true) : v.deepEqual w = v'.deepEqual w' := by
  rw [Bool.eq_iff_iff, deepEqual_iff, deepEqual_iff, deepEqual_iff.mp left, deepEqual_iff.mp right]

theorem keys_eq_map (items : List Json) : keys items = items.map key := by
  induction items with
  | nil => rfl
  | cons item rest ih => rw [keys, List.map_cons, ih]

theorem deepEqual_array_iff {items items' : List Json} :
    (array items).deepEqual (array items') = true ↔
      List.Forall₂ (fun v w => v.deepEqual w = true) items items' := by
  have images (list : List Json) : (array list).canonical = .array (list.map canonical) := by
    rw [canonical, key, Key.canonical, Key.canonicalItems_eq_map, keys_eq_map, List.map_map]
    rfl
  rw [deepEqual_iff, images, images, Key.array.injEq, map_eq_map_iff_forall₂]
  simp only [deepEqual_iff]

/-! ### Objects -/

theorem memberKeys_sorted (members : Members) {known : List (String × Key)}
    (sorted : Key.Sorted known) : Key.Sorted (memberKeys members known) := by
  induction members generalizing known with
  | nil => exact sorted
  | cons member rest ih => exact ih sorted.insertMember

theorem memberKeys_perm (members : Members) (known : List (String × Key))
    (names : (members.map Prod.fst ++ known.map Prod.fst).Nodup) :
    (memberKeys members known).Perm
      (members.map (fun member => (member.1, member.2.key)) ++ known) := by
  induction members generalizing known with
  | nil => exact .refl _
  | cons member rest ih =>
    obtain ⟨fresh, names⟩ := List.nodup_cons.mp names
    have inserted : (Key.insertMember member.1 member.2.key known).Perm
        ((member.1, member.2.key) :: known) :=
      Key.insertMember_perm fun inside => fresh (List.mem_append_right _ inside)
    have later : (rest.map Prod.fst ++
        (Key.insertMember member.1 member.2.key known).map Prod.fst).Nodup := by
      rw [((inserted.map Prod.fst).append_left _).nodup_iff, List.map_cons,
        List.perm_middle.nodup_iff]
      exact List.nodup_cons.mpr ⟨fresh, names⟩
    have step : (memberKeys (member :: rest) known).Perm
        (rest.map (fun member => (member.1, member.2.key)) ++
          Key.insertMember member.1 member.2.key known) := ih _ later
    exact (step.trans (inserted.append_left _)).trans List.perm_middle

/-- Members of the same names, with related values, in any order. -/
def UpToOrder (R : Json → Json → Prop) (members members' : Members) : Prop :=
  ∃ aligned, List.Forall₂ (fun member other => member.1 = other.1 ∧ R member.2 other.2)
    members aligned ∧ aligned.Perm members'

/-- The canonical image of a member. -/
def memberImage (member : String × Json) : String × Key := (member.1, member.2.canonical)

/-- Where no name comes twice, an object has the images of its members in the order of names. -/
theorem exists_canonical_object {members : Members} (names : (members.map Prod.fst).Nodup) :
    ∃ images, (object members).canonical = .object images ∧ Key.Sorted images ∧
      images.Perm (members.map memberImage) := by
  refine ⟨_, by rw [canonical, key, Key.canonical, Key.canonicalMembers_eq_map], ?_, ?_⟩
  · rw [Key.Sorted, List.pairwise_map]
    exact memberKeys_sorted members .nil
  · have keys := memberKeys_perm members [] (by simpa using names)
    rw [List.append_nil] at keys
    have images := keys.map fun member => (member.1, member.2.canonical)
    rwa [List.map_map] at images

/-- Objects are equal in images exactly when their members are, in any order. -/
theorem perm_memberImage_iff {members members' : Members} :
    (members.map memberImage).Perm (members'.map memberImage) ↔
      UpToOrder (fun v w => v.deepEqual w = true) members members' := by
  have same (member other : String × Json) :
      memberImage member = memberImage other ↔
        member.1 = other.1 ∧ member.2.deepEqual other.2 = true := by
    rw [deepEqual_iff, memberImage, memberImage, Prod.mk.injEq]
  constructor
  · intro perm
    have own : List.Forall₂ (fun image member => image = memberImage member)
        (members'.map memberImage) members' := by
      rw [List.forall₂_map_left_iff, List.forall₂_same]
      exact fun member _ => rfl
    obtain ⟨aligned, each, order⟩ := List.perm_comp_forall₂ perm own
    rw [List.forall₂_map_left_iff] at each
    exact ⟨aligned, each.imp fun member other => (same member other).mp, order⟩
  · rintro ⟨aligned, each, order⟩
    have images : members.map memberImage = aligned.map memberImage :=
      map_eq_map_iff_forall₂.mpr (each.imp fun member other => (same member other).mpr)
    rw [images]
    exact order.map memberImage

theorem deepEqual_object_iff {members members' : Members}
    (names : (members.map Prod.fst).Nodup) (names' : (members'.map Prod.fst).Nodup) :
    (object members).deepEqual (object members') = true ↔
      UpToOrder (fun v w => v.deepEqual w = true) members members' := by
  obtain ⟨images, eq, sorted, perm⟩ := exists_canonical_object names
  obtain ⟨images', eq', sorted', perm'⟩ := exists_canonical_object names'
  rw [deepEqual_iff, eq, eq', Key.object.injEq, ← perm_memberImage_iff]
  constructor
  · rintro rfl
    exact perm.symm.trans perm'
  · intro same
    refine List.Perm.eq_of_pairwise ?_ sorted sorted' (perm.trans (same.trans perm'.symm))
    intro a b _ _ less greater
    rw [Std.OrientedCmp.gt_of_lt greater] at less
    cases less

end Json
end DataSchema
