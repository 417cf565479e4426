import DataSchema.Proofs.Comparison
import DataSchema.Proofs.DeepEqual.Twins
import DataSchema.Proofs.Places
import Mathlib.Data.List.Nodup

/-!
Keys as images of values. Two values have the same key exactly if they are alike all the way down,
and keys are in a total order, in which lists are compared item by item and objects as the lists of
their members in the order of names.
-/
namespace DataSchema

/-! ## Values that are alike -/

namespace Json

/-- Values of one kind that tell the same: numbers of one value, arrays item by item, and objects
with the same names and, under each of them, values that tell the same. -/
inductive Alike : Json → Json → Prop
  | null : Alike .null .null
  | bool {value : Bool} : Alike (.bool value) (.bool value)
  | number {m n : Number} (equal : m.toBinary64.eq n.toBinary64 = true) :
      Alike (.number m) (.number n)
  | string {value : String} : Alike (.string value) (.string value)
  | array {items items' : List Json} (length : items.length = items'.length)
      (each : ∀ (place : Nat) v w, items[place]? = some v → items'[place]? = some w → Alike v w) :
      Alike (.array items) (.array items')
  | object {members members' : Members}
      (names : ∀ name, hasMember members name = hasMember members' name)
      (each : ∀ name v w, member? members name = some v → member? members' name = some w →
        Alike v w) :
      Alike (.object members) (.object members')

end Json

/-- Numbers are equal exactly if they are one number but for the sign of zero. -/
theorem Binary64.eq_iff_canonical {x y : Binary64} (number : x.isFinite = true) :
    x.eq y = true ↔ x.canonical = y.canonical := by
  cases x with
  | finite s m =>
    cases y with
    | finite t n =>
      rw [← signedUnits_eq_iff]
      exact beq_iff_eq
    | _ => simp [eq, canonical]
  | _ => cases number

namespace Json

/-- The image of what is under a name is the image under the name. -/
theorem mem_memberImages_iff {members : Members} (names : (members.map Prod.fst).Nodup)
    {name : String} {image : Key} : (name, image) ∈ members.map memberImage ↔
      (member? members name).map canonical = some image := by
  rw [List.mem_map, Option.map_eq_some_iff]
  constructor
  · rintro ⟨member, inside, same⟩
    cases same
    exact ⟨member.2, member?_of_mem names inside, rfl⟩
  · rintro ⟨v, found, rfl⟩
    exact ⟨(name, v), mem_of_member? found, rfl⟩

theorem Twins.alike {v w : Json} (twins : Twins v w) : v.Alike w := by
  have wellFormed := twins.left
  induction wellFormed generalizing w with
  | null =>
    cases twins.forms with
    | null => exact .null
  | bool =>
    cases twins.forms with
    | bool => exact .bool
  | number =>
    cases twins.forms with
    | number left right same =>
      exact .number ((Binary64.eq_iff_canonical left.isFinite).mpr same)
  | string =>
    cases twins.forms with
    | string => exact .string
  | array each ih =>
    cases twins.forms with
    | array related =>
      refine .array related.length_eq fun place v w one other => ?_
      obtain ⟨inside, rfl⟩ := List.getElem?_eq_some_iff.mp one
      obtain ⟨inside', rfl⟩ := List.getElem?_eq_some_iff.mp other
      exact ih _ (List.getElem_mem inside) (related.get inside inside')
  | object names each ih =>
    cases twins.forms with
    | object names related =>
      refine .object related.hasMember_eq fun name v w one other => ?_
      obtain ⟨⟨name', w'⟩, inside, same, twins⟩ := related.exists_right (mem_of_member? one)
      cases same
      cases other.symm.trans (member?_of_mem (related.names_perm.nodup_iff.mp names) inside)
      exact ih _ (mem_of_member? one) twins

theorem Alike.deepEqual {v w : Json} (alike : v.Alike w) (left : v.WellFormed)
    (right : w.WellFormed) : v.deepEqual w = true := by
  induction alike with
  | null => exact deepEqual_refl _
  | bool => exact deepEqual_refl _
  | @number m n equal =>
    cases left with
    | number left =>
      have same := (Binary64.eq_iff_canonical left.isFinite).mp equal
      rw [deepEqual_iff, canonical, canonical, key, key, Key.canonical, Key.canonical, same]
  | string => exact deepEqual_refl _
  | array length each ih =>
    refine deepEqual_array_iff.mpr (List.forall₂_iff_get.mpr ⟨length, ?_⟩)
    intro place inside inside'
    exact ih place _ _ (List.getElem?_eq_getElem inside) (List.getElem?_eq_getElem inside')
      (left.items _ (List.getElem_mem inside)) (right.items _ (List.getElem_mem inside'))
  | @object members members' names each ih =>
    rw [deepEqual_object_iff left.names right.names, ← perm_memberImage_iff]
    have images (list : Members) (nodup : (list.map Prod.fst).Nodup) :
        (list.map memberImage).Nodup := by
      refine List.Nodup.of_map Prod.fst ?_
      rwa [List.map_map]
    refine (List.perm_ext_iff_of_nodup (images _ left.names) (images _ right.names)).mpr ?_
    rintro ⟨name, image⟩
    rw [mem_memberImages_iff left.names, mem_memberImages_iff right.names]
    have known := names name
    rw [hasMember, hasMember] at known
    cases one : member? members name with
    | none =>
      rw [one] at known
      have other : member? members' name = none := by simpa using known.symm
      rw [other]
    | some v =>
      rw [one] at known
      obtain ⟨w, other⟩ := Option.isSome_iff_exists.mp known.symm
      have equal := ih name v w one other (left.member one) (right.member other)
      rw [other, Option.map_some, Option.map_some, deepEqual_iff.mp equal]

/-- The keys of values that JSON has are equal exactly if the values are alike. -/
theorem deepEqual_iff_alike {v w : Json} (left : v.WellFormed) (right : w.WellFormed) :
    v.deepEqual w = true ↔ v.Alike w := by
  constructor
  · exact fun equal => Twins.alike ⟨left, right, equal⟩
  · exact fun alike => alike.deepEqual left right

end Json

/-! ## Comparisons -/

/-- What makes a comparison that of a total order, as far as one value is concerned. -/
structure OrderedAt {α : Type} (cmp : α → α → Ordering) (a : α) : Prop where
  swap : ∀ b, cmp b a = (cmp a b).swap
  left : ∀ b c, cmp a b = .eq → cmp a c = cmp b c
  right : ∀ b c, cmp b c = .eq → cmp a b = cmp a c
  trans : ∀ b c, cmp a b = .lt → cmp b c = .lt → cmp a c = .lt

namespace OrderedAt

variable {α β : Type} {cmp : α → α → Ordering} {cmp' : β → β → Ordering}

theorem of_transCmp [Std.TransCmp cmp] (a : α) : OrderedAt cmp a where
  swap _ := Std.OrientedCmp.eq_swap
  left _ _ := Std.TransCmp.congr_left
  right _ _ := Std.TransCmp.congr_right
  trans _ _ := Std.TransCmp.lt_trans

/-- Laws at every value are laws of the comparison. -/
theorem transCmp (each : ∀ a, OrderedAt cmp a) : Std.TransCmp cmp where
  eq_swap := (each _).swap _
  isLE_trans := by
    intro a b c first second
    cases one : cmp a b with
    | lt =>
      cases other : cmp b c with
      | lt => rw [(each a).trans b c one other]; rfl
      | eq => rw [← (each a).right b c other, one]; rfl
      | gt => rw [other] at second; cases second
    | eq => rwa [(each a).left b c one]
    | gt => rw [one] at first; cases first

/-- Pairs are compared by what comes first, then by what comes second. -/
theorem pair {a : α} {b : β} (first : OrderedAt cmp a) (second : OrderedAt cmp' b) :
    OrderedAt (fun p q : α × β => (cmp p.1 q.1).then (cmp' p.2 q.2)) (a, b) where
  swap q := by simp only [first.swap, second.swap, Ordering.swap_then]
  left q r same := by
    obtain ⟨one, other⟩ := Ordering.then_eq_eq.mp same
    simp only [first.left _ _ one, second.left _ _ other]
  right q r same := by
    obtain ⟨one, other⟩ := Ordering.then_eq_eq.mp same
    simp only [first.right _ _ one, second.right _ _ other]
  trans q r less less' := by
    rw [Ordering.then_eq_lt] at less less' ⊢
    rcases less with less | ⟨same, less⟩
    · rcases less' with less' | ⟨same', -⟩
      · exact .inl (first.trans _ _ less less')
      · exact .inl ((first.right _ _ same').symm.trans less)
    · rcases less' with less' | ⟨same', less'⟩
      · exact .inl ((first.left _ _ same).trans less')
      · exact .inr ⟨(first.left _ _ same).trans same', second.trans _ _ less less'⟩

/-- Lists are compared item by item, a proper beginning being less. -/
theorem list {as : List α} (each : ∀ a ∈ as, OrderedAt cmp a) :
    OrderedAt (List.compareLex cmp) as := by
  induction as with
  | nil =>
    refine ⟨fun b => ?_, fun b c => ?_, fun b c => ?_, fun b c => ?_⟩
    · cases b <;> rfl
    · cases b <;> simp [List.compareLex]
    · cases b <;> cases c <;> simp [List.compareLex]
    · cases b <;> cases c <;> simp [List.compareLex]
  | cons a as ih =>
    obtain ⟨here, each⟩ := List.forall_mem_cons.mp each
    have laws := here.pair (ih each)
    refine ⟨fun b => ?_, fun b c => ?_, fun b c => ?_, fun b c => ?_⟩
    · cases b with
      | nil => rfl
      | cons b bs => simpa only [List.compareLex_cons_cons] using laws.swap (b, bs)
    · cases b with
      | nil => simp [List.compareLex]
      | cons b bs =>
        cases c with
        | nil => simp [List.compareLex]
        | cons c cs => simpa only [List.compareLex_cons_cons] using laws.left (b, bs) (c, cs)
    · cases b with
      | nil => cases c <;> simp [List.compareLex]
      | cons b bs =>
        cases c with
        | nil => simp [List.compareLex]
        | cons c cs => simpa only [List.compareLex_cons_cons] using laws.right (b, bs) (c, cs)
    · cases b with
      | nil => simp [List.compareLex]
      | cons b bs =>
        cases c with
        | nil => simp [List.compareLex]
        | cons c cs => simpa only [List.compareLex_cons_cons] using laws.trans (b, bs) (c, cs)

end OrderedAt

/-! ## Keys -/

namespace Key

theorem orderItems_eq_compareLex (as bs : List Key) :
    orderItems as bs = List.compareLex order as bs := by
  induction as generalizing bs with
  | nil => cases bs <;> rfl
  | cons a as ih =>
    cases bs with
    | nil => rfl
    | cons b bs => rw [orderItems, List.compareLex_cons_cons, ih]

/-- Members are compared by their names, then by the keys of what is under them. -/
def orderMember (m n : String × Key) : Ordering := (compare m.1 n.1).then (order m.2 n.2)

theorem orderMembers_eq_compareLex (as bs : List (String × Key)) :
    orderMembers as bs = List.compareLex orderMember as bs := by
  induction as generalizing bs with
  | nil => cases bs <;> rfl
  | cons a as ih =>
    cases bs with
    | nil => rfl
    | cons b bs =>
      rw [orderMembers, List.compareLex_cons_cons, ih, orderMember, Ordering.then_assoc]

variable {a b c : Key}

/-- Keys of different kinds are compared by their kinds. -/
theorem order_of_rank_ne (apart : a.rank ≠ b.rank) : order a b = compare a.rank b.rank := by
  cases a <;> cases b <;> first | rfl | exact absurd rfl apart

theorem rank_le_of_isLE (least : (order a b).isLE = true) : a.rank ≤ b.rank := by
  by_cases same : a.rank = b.rank
  · exact Nat.le_of_eq same
  · rw [order_of_rank_ne same, Nat.isLE_compare] at least
    exact least

theorem rank_eq_of_order_eq (same : order a b = .eq) : a.rank = b.rank := by
  by_contra apart
  rw [order_of_rank_ne apart, Nat.compare_eq_eq] at same
  exact apart same

/-- The laws hold at a key if they do at its content, compared with contents of the same kind. -/
theorem orderedAt_of_content {β : Type} {f : β → Key} {content : β → β → Ordering} {x : β}
    (same : ∀ y z, order (f y) (f z) = content y z) (kind : ∀ b, b.rank = (f x).rank → ∃ y, b = f y)
    (laws : OrderedAt content x) : OrderedAt order (f x) where
  swap b := by
    by_cases close : b.rank = (f x).rank
    · obtain ⟨y, rfl⟩ := kind b close
      rw [same, same, laws.swap]
    · rw [order_of_rank_ne close, order_of_rank_ne (Ne.symm close)]
      exact Std.OrientedCmp.eq_swap
  left b c equal := by
    obtain ⟨y, rfl⟩ := kind b (rank_eq_of_order_eq equal).symm
    by_cases close : c.rank = (f x).rank
    · obtain ⟨z, rfl⟩ := kind c close
      rw [same] at equal
      rw [same, same, laws.left _ _ equal]
    · rw [order_of_rank_ne (Ne.symm close), rank_eq_of_order_eq equal, order_of_rank_ne]
      exact rank_eq_of_order_eq equal ▸ Ne.symm close
  right b c equal := by
    have ranks := rank_eq_of_order_eq equal
    by_cases close : b.rank = (f x).rank
    · obtain ⟨y, rfl⟩ := kind b close
      obtain ⟨z, rfl⟩ := kind c (ranks.symm.trans close)
      rw [same] at equal
      rw [same, same, laws.right _ _ equal]
    · rw [order_of_rank_ne (Ne.symm close), ranks, order_of_rank_ne]
      exact ranks ▸ Ne.symm close
  trans b c less less' := by
    have first := rank_le_of_isLE (Ordering.isLE_of_eq_lt less)
    have second := rank_le_of_isLE (Ordering.isLE_of_eq_lt less')
    by_cases close : c.rank = (f x).rank
    · obtain ⟨y, rfl⟩ := kind b (by omega)
      obtain ⟨z, rfl⟩ := kind c close
      rw [same] at less less' ⊢
      exact laws.trans _ _ less less'
    · rw [order_of_rank_ne (Ne.symm close), Nat.compare_eq_lt]
      omega

mutual

/-- The laws hold at every key, by those at its items and members. -/
theorem orderedAt : ∀ a : Key, OrderedAt order a
  | .null => by
    have laws : OrderedAt (fun _ _ : Unit => Ordering.eq) () :=
      ⟨fun _ => rfl, fun _ _ _ => rfl, fun _ _ _ => rfl, nofun⟩
    refine orderedAt_of_content (f := fun _ => .null) (fun _ _ => rfl) ?_ laws
    intro b
    cases b <;> simp [rank]
  | .bool value => by
    have laws : OrderedAt compare value := .of_transCmp value
    refine orderedAt_of_content (f := .bool) (fun _ _ => rfl) ?_ laws
    intro b
    cases b <;> simp [rank]
  | .number value => by
    have laws : OrderedAt Binary64.order value := .of_transCmp value
    refine orderedAt_of_content (f := .number) (fun _ _ => rfl) ?_ laws
    intro b
    cases b <;> simp [rank]
  | .string value => by
    have laws : OrderedAt compare value := .of_transCmp value
    refine orderedAt_of_content (f := .string) (fun _ _ => rfl) ?_ laws
    intro b
    cases b <;> simp [rank]
  | .array items => by
    have laws := OrderedAt.list (orderedAt_items items)
    refine orderedAt_of_content (f := .array) orderItems_eq_compareLex ?_ laws
    intro b
    cases b <;> simp [rank]
  | .object members => by
    have laws := OrderedAt.list (orderedAt_members members)
    refine orderedAt_of_content (f := .object) orderMembers_eq_compareLex ?_ laws
    intro b
    cases b <;> simp [rank]

theorem orderedAt_items : ∀ items : List Key, ∀ a ∈ items, OrderedAt order a
  | [] => List.forall_mem_nil _
  | a :: rest => List.forall_mem_cons.mpr ⟨orderedAt a, orderedAt_items rest⟩

theorem orderedAt_members : ∀ members : List (String × Key), ∀ m ∈ members, OrderedAt orderMember m
  | [] => List.forall_mem_nil _
  | (name, a) :: rest => List.forall_mem_cons.mpr
    ⟨(OrderedAt.of_transCmp name).pair (orderedAt a), orderedAt_members rest⟩

end

instance : Std.TransCmp order := OrderedAt.transCmp orderedAt

/-- A comparison is that of a total order, in which keys are equal if they have one canonical
image. -/
structure Total (cmp : Key → Key → Ordering) : Prop where
  refl : ∀ a, (cmp a a).isLE = true
  antisymm : ∀ a b, (cmp a b).isLE = true → (cmp b a).isLE = true → a.canonical = b.canonical
  trans : ∀ a b c, (cmp a b).isLE = true → (cmp b c).isLE = true → (cmp a c).isLE = true
  total : ∀ a b, (cmp a b).isLE = true ∨ (cmp b a).isLE = true
  equal : ∀ a b, cmp a b = .eq ↔ a.canonical = b.canonical

theorem total_order : Total order where
  refl _ := Std.ReflCmp.isLE_rfl
  antisymm a b least most := (order_eq_iff a b).mp (Std.OrientedCmp.isLE_antisymm least most)
  trans _ _ _ := Std.TransCmp.isLE_trans
  total a b := by
    have swapped : order b a = (order a b).swap := Std.OrientedCmp.eq_swap
    rw [swapped]
    cases order a b <;> simp
  equal := order_eq_iff

/-- A comparison goes by kinds first. Arrays are compared item by item, and objects member by
member, each by its name and then by the key of what is under it. -/
structure Lexicographic (cmp : Key → Key → Ordering) : Prop where
  kinds : ∀ b x s items members, [.null, .bool b, .number x, .string s, .array items,
    .object members].Pairwise fun a b => cmp a b = .lt
  items : ∀ as bs, cmp (.array as) (.array bs) = List.compareLex cmp as bs
  members : ∀ as bs, cmp (.object as) (.object bs) =
    List.compareLex (fun m n => (compare m.1 n.1).then (cmp m.2 n.2)) as bs

theorem lexicographic_order : Lexicographic order where
  kinds b x s items members := by
    simp only [List.pairwise_cons, List.forall_mem_cons, List.not_mem_nil, false_implies,
      implies_true, List.Pairwise.nil, and_true]
    and_intros <;> rfl
  items := orderItems_eq_compareLex
  members := orderMembers_eq_compareLex

end Key

namespace Json

/-- An object has the keys of its members, in the order of names. -/
theorem exists_key_object {members : Members} (names : (members.map Prod.fst).Nodup) :
    ∃ sorted, (object members).key = .object sorted ∧ Key.Sorted sorted ∧
      sorted.Perm (members.map fun member => (member.1, member.2.key)) := by
  have perm := memberKeys_perm members [] (by simpa using names)
  rw [List.append_nil] at perm
  exact ⟨_, rfl, memberKeys_sorted members .nil, perm⟩

/-- Values that JSON has are alike exactly if their keys are equal. Keys are in a total order with
that equality, which leaves out the signs of zeros. The order goes by kinds, from null to objects,
and compares arrays item by item and objects by their members in the order of names. -/
theorem key_is_ordered_image (v w : Json) (left : v.WellFormed) (right : w.WellFormed) :
    (v.deepEqual w = true ↔ v.Alike w) ∧
    Key.Total Key.order ∧ Key.Lexicographic Key.order ∧
    ∀ members, v = .object members → ∃ sorted, v.key = .object sorted ∧ Key.Sorted sorted ∧
      sorted.Perm (members.map fun member => (member.1, member.2.key)) := by
  refine ⟨deepEqual_iff_alike left right, Key.total_order, Key.lexicographic_order, ?_⟩
  rintro members rfl
  exact exists_key_object left.names

/-- The origin of a plane, one coordinate being a zero with a sign. -/
def origin : Json := .object [("x", .number (.int 0)), ("y", .number (.float (.finite true 0)))]

/-- The same point with its members in another order and without the sign. -/
def turnedOrigin : Json := .object [("y", .number (.int 0)), ("x", .number (.int 0))]

theorem origin_alike : origin.WellFormed ∧ turnedOrigin.WellFormed ∧ origin.Alike turnedOrigin := by
  have zero : (Number.int 0).WellFormed := .int (by decide) (by decide)
  have left : origin.WellFormed := by
    refine .object (by decide) ?_
    simp only [List.forall_mem_cons, List.not_mem_nil, false_implies, implies_true, and_true]
    exact ⟨.number zero, .number (.float rfl)⟩
  have right : turnedOrigin.WellFormed := by
    refine .object (by decide) ?_
    simp only [List.forall_mem_cons, List.not_mem_nil, false_implies, implies_true, and_true]
    exact ⟨.number zero, .number zero⟩
  have equal : origin.deepEqual turnedOrigin = true := by decide +kernel
  exact ⟨left, right, (key_is_ordered_image _ _ left right).1.mp equal⟩

end Json
end DataSchema
