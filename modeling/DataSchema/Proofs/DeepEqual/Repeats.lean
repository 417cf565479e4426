import DataSchema.Check.Rules
import DataSchema.Proofs.DeepEqual.Canonical
import Mathlib.Data.Nat.Find
import Mathlib.Order.Bounds.Defs

/-!
Repeats in a list of values. Enumerations and arrays of unique items each look for one in a loop of
their own: the first keeps the keys that it has seen, the second also where it has seen them. Both
stop at the same value, the first of all that is deep-equal to an earlier one.
-/
namespace DataSchema
namespace Json

/-- The value at the later of two places is deep-equal to the one at the earlier place. -/
def RepeatAt (values : List Json) (earlier later : Nat) : Prop :=
  earlier < later ∧ ∃ v w, values[earlier]? = some v ∧ values[later]? = some w ∧
    v.deepEqual w = true

/-- No value that repeats another comes before this one. -/
structure FirstRepeat (values : List Json) (first second : Nat) : Prop where
  repeats : RepeatAt values first second
  least : ∀ earlier later, RepeatAt values earlier later → second ≤ later

variable {values more : List Json} {first second earlier later place : Nat}

theorem deepEqual_symm {v w : Json} (equal : v.deepEqual w = true) : w.deepEqual v = true :=
  deepEqual_iff.mpr (deepEqual_iff.mp equal).symm

theorem deepEqual_trans {u v w : Json} (equal : u.deepEqual v = true)
    (equal' : v.deepEqual w = true) : u.deepEqual w = true :=
  deepEqual_iff.mpr ((deepEqual_iff.mp equal).trans (deepEqual_iff.mp equal'))

theorem RepeatAt.lt_length (repeats : RepeatAt values earlier later) : later < values.length := by
  obtain ⟨-, -, w, -, there, -⟩ := repeats
  exact (List.getElem?_eq_some_iff.mp there).1

/-- Whether places of a list hold a repeat does not depend on what comes after the list. -/
theorem repeatAt_append_iff (inside : later < values.length) :
    RepeatAt (values ++ more) earlier later ↔ RepeatAt values earlier later := by
  unfold RepeatAt
  refine and_congr_right fun order => ?_
  rw [List.getElem?_append_left (Nat.lt_trans order inside), List.getElem?_append_left inside]

/-- There are repeats exactly if values are not all apart. -/
theorem exists_repeatAt_iff : (∃ earlier later, RepeatAt values earlier later) ↔
    ¬ values.Pairwise fun v w => v.deepEqual w = false := by
  rw [List.pairwise_iff_getElem]
  constructor
  · rintro ⟨earlier, later, order, v, w, one, other, equal⟩ apart
    obtain ⟨inside, rfl⟩ := List.getElem?_eq_some_iff.mp one
    obtain ⟨inside', rfl⟩ := List.getElem?_eq_some_iff.mp other
    rw [apart earlier later inside inside' order] at equal
    cases equal
  · intro close
    by_contra none
    apply close
    intro earlier later inside inside' order
    by_contra equal
    refine none ⟨earlier, later, order, _, _, List.getElem?_eq_getElem inside,
      List.getElem?_eq_getElem inside', ?_⟩
    simpa using equal

/-- Only one earlier value is deep-equal to the first that repeats another: of two, the later would
have been the first. -/
theorem FirstRepeat.eq_of_repeatAt (found : FirstRepeat values first second)
    (repeats : RepeatAt values earlier second) : earlier = first := by
  obtain ⟨order, v, w, one, there, equal⟩ := found.repeats
  obtain ⟨order', v', w', one', there', equal'⟩ := repeats
  cases there.symm.trans there'
  have both : v.deepEqual v' = true := deepEqual_trans equal (deepEqual_symm equal')
  rcases Nat.lt_trichotomy earlier first with less | same | more
  · have before := found.least earlier first ⟨less, v', v, one', one, deepEqual_symm both⟩
    omega
  · exact same
  · have before := found.least first earlier ⟨more, v, v', one, one', both⟩
    omega

theorem FirstRepeat.unique {first' second' : Nat} (found : FirstRepeat values first second)
    (found' : FirstRepeat values first' second') : first = first' ∧ second = second' := by
  have same : second = second' := Nat.le_antisymm (found.least _ _ found'.repeats)
    (found'.least _ _ found.repeats)
  subst same
  exact ⟨found'.eq_of_repeatAt found.repeats, rfl⟩

/-- There is a first repeat exactly if there are repeats. -/
theorem exists_firstRepeat_iff : (∃ first second, FirstRepeat values first second) ↔
    ∃ earlier later, RepeatAt values earlier later := by
  constructor
  · rintro ⟨first, second, found⟩
    exact ⟨first, second, found.repeats⟩
  · rintro ⟨earlier, later, repeats⟩
    classical
    have some : ∃ later, ∃ earlier, RepeatAt values earlier later := ⟨later, earlier, repeats⟩
    obtain ⟨first, found⟩ := Nat.find_spec some
    exact ⟨first, Nat.find some, found, fun earlier later again => Nat.find_min' some ⟨_, again⟩⟩

/-! ## What has been seen -/

/-- The keys of values, each with its place. -/
def seenKeys (values : List Json) : List (Key × Nat) :=
  values.zipIdx.map fun entry => (entry.1.key, entry.2)

theorem seenKeys_snoc (values : List Json) (value : Json) :
    seenKeys (values ++ [value]) = seenKeys values ++ [(value.key, values.length)] := by
  simp [seenKeys, List.zipIdx_append]

theorem mem_seenKeys_iff {entry : Key × Nat} :
    entry ∈ seenKeys values ↔ ∃ v, values[entry.2]? = some v ∧ v.key = entry.1 := by
  obtain ⟨key, place⟩ := entry
  simp only [seenKeys, List.mem_map, Prod.exists, List.mem_zipIdx_iff_getElem?, Prod.mk.injEq]
  constructor
  · rintro ⟨v, own, found, same, rfl⟩
    exact ⟨v, found, same⟩
  · rintro ⟨v, found, same⟩
    exact ⟨v, place, found, same, rfl⟩

/-- A value whose key has been seen repeats the value at that place. -/
theorem firstRepeat_of_seen {value : Json} {entry : Key × Nat}
    (apart : ∀ earlier later, ¬ RepeatAt values earlier later) (seen : entry ∈ seenKeys values)
    (same : entry.1.same value.key = true) :
    FirstRepeat (values ++ value :: more) entry.2 values.length := by
  obtain ⟨v, found, key⟩ := mem_seenKeys_iff.mp seen
  have before : entry.2 < values.length := (List.getElem?_eq_some_iff.mp found).1
  refine ⟨⟨before, v, value, ?_, by simp, by rwa [deepEqual, key]⟩, ?_⟩
  · rw [List.getElem?_append_left before, found]
  · intro earlier later repeats
    by_contra early
    exact apart earlier later ((repeatAt_append_iff (by omega)).mp repeats)

/-- Values stay apart with one more whose key has not been seen. -/
theorem apart_snoc {value : Json} (apart : ∀ earlier later, ¬ RepeatAt values earlier later)
    (fresh : ∀ entry ∈ seenKeys values, entry.1.same value.key = false) (earlier later : Nat) :
    ¬ RepeatAt (values ++ [value]) earlier later := by
  intro repeats
  have bound := repeats.lt_length
  rw [List.length_append, List.length_singleton] at bound
  by_cases inside : later < values.length
  · exact apart earlier later ((repeatAt_append_iff inside).mp repeats)
  · obtain rfl : later = values.length := by omega
    obtain ⟨order, v, w, one, other, equal⟩ := repeats
    rw [List.getElem?_append_left order] at one
    rw [List.getElem?_concat_length, Option.some.injEq] at other
    subst other
    have unseen := fresh (v.key, earlier) (mem_seenKeys_iff.mpr ⟨v, one, rfl⟩)
    rw [deepEqual, unseen] at equal
    cases equal

/-! ## The searches -/

/-- The search goes on from values that are apart, with their keys and places, and finds the first
repeat of all. -/
theorem firstRepeatFrom_eq_some_iff {rest : List Json}
    (apart : ∀ earlier later, ¬ RepeatAt values earlier later) :
    firstRepeatFrom (seenKeys values) values.length rest = some (first, second) ↔
      FirstRepeat (values ++ rest) first second := by
  induction rest generalizing values with
  | nil =>
    rw [firstRepeatFrom, List.append_nil]
    constructor
    · intro none
      cases none
    · intro found
      exact absurd found.repeats (apart first second)
  | cons value rest ih =>
    rw [firstRepeatFrom]
    cases looked : (seenKeys values).find? fun entry => entry.1.same value.key with
    | some entry =>
      have seen : entry ∈ seenKeys values := List.mem_of_find?_eq_some looked
      have same : entry.1.same value.key = true := by simpa using List.find?_some looked
      have found : FirstRepeat (values ++ value :: rest) entry.2 values.length :=
        firstRepeat_of_seen apart seen same
      simp only [Option.some.injEq, Prod.mk.injEq]
      constructor
      · rintro ⟨rfl, rfl⟩
        exact found
      · exact found.unique
    | none =>
      have fresh : ∀ entry ∈ seenKeys values, entry.1.same value.key = false := by
        simpa [List.find?_eq_none] using looked
      have later := ih (apart_snoc apart fresh)
      rwa [seenKeys_snoc, List.length_append, List.length_singleton, List.append_assoc,
        List.singleton_append] at later

theorem firstRepeat_eq_some_iff :
    firstRepeat values = some (first, second) ↔ FirstRepeat values first second := by
  have start := @firstRepeatFrom_eq_some_iff [] first second values
    fun earlier later repeats => Nat.not_lt_zero later repeats.lt_length
  exact start

/-- Nothing is found exactly if no value is deep-equal to an earlier one. -/
theorem firstRepeat_eq_none_iff (values : List Json) :
    firstRepeat values = none ↔ values.Pairwise fun v w => v.deepEqual w = false := by
  rw [← not_iff_not, ← exists_repeatAt_iff, ← exists_firstRepeat_iff, ← Ne,
    Option.ne_none_iff_exists']
  simp only [Prod.exists, firstRepeat_eq_some_iff]

/-- Keys that are kept without their places find the value that is found with them. -/
theorem repeated?_eq {keys : List Key} {rest : List Json}
    (known : ∀ own, keys.any (·.same own) = (seenKeys values).any fun entry => entry.1.same own) :
    repeated? keys rest = (firstRepeatFrom (seenKeys values) values.length rest).bind fun found =>
      (values ++ rest)[found.2]? := by
  induction rest generalizing keys values with
  | nil => rfl
  | cons value rest ih =>
    rw [repeated?, firstRepeatFrom, known value.key, ← List.isSome_find?]
    cases looked : (seenKeys values).find? fun entry => entry.1.same value.key with
    | some entry => simp
    | none =>
      have known' (own : Key) : (value.key :: keys).any (·.same own) =
          (seenKeys (values ++ [value])).any fun entry => entry.1.same own := by
        rw [seenKeys_snoc, List.any_append, List.any_cons, known own, Bool.or_comm]
        simp
      have later := ih known'
      rw [seenKeys_snoc, List.length_append, List.length_singleton, List.append_assoc,
        List.singleton_append] at later
      simpa using later

/-- Both searches find the same value. -/
theorem repeated?_eq_firstRepeat (values : List Json) :
    repeated? [] values = (firstRepeat values).bind fun found => values[found.2]? :=
  @repeated?_eq [] [] values fun _ => rfl

theorem repeated?_eq_some_iff {v : Json} : repeated? [] values = some v ↔
    ∃ first second, FirstRepeat values first second ∧ values[second]? = some v := by
  rw [repeated?_eq_firstRepeat, Option.bind_eq_some_iff]
  simp only [Prod.exists, firstRepeat_eq_some_iff]

theorem repeated?_eq_none_iff :
    repeated? [] values = none ↔ values.Pairwise fun v w => v.deepEqual w = false := by
  rw [← firstRepeat_eq_none_iff, repeated?_eq_firstRepeat, Option.bind_eq_none_iff]
  constructor
  · intro unread
    by_contra some
    obtain ⟨found, looked⟩ := Option.ne_none_iff_exists'.mp some
    have inside : found.2 < values.length :=
      (firstRepeat_eq_some_iff.mp looked).repeats.lt_length
    have missing := unread found looked
    rw [List.getElem?_eq_getElem inside] at missing
    cases missing
  · intro none found looked
    rw [none] at looked
    cases looked

end Json

open Json (FirstRepeat RepeatAt)

/-- Unique items are told of exactly one pair, that of the first repeat. -/
theorem ArrayRule.duplicateItems_mem_reasons_iff {rules : List ArrayRule} {items : List Json}
    {first second : Nat} : ReasonOver.duplicateItems first second ∈ reasons rules items ↔
      uniqueItems ∈ rules ∧ FirstRepeat items first second := by
  rw [reasons, List.mem_filterMap]
  constructor
  · rintro ⟨rule, asked, told⟩
    cases rule with
    | uniqueItems =>
      obtain ⟨⟨one, other⟩, found, same⟩ := Option.map_eq_some_iff.mp told
      cases same
      exact ⟨asked, Json.firstRepeat_eq_some_iff.mp found⟩
    | minItems min => simp [reason?] at told
    | maxItems max => simp [reason?] at told
  · rintro ⟨asked, found⟩
    refine ⟨uniqueItems, asked, ?_⟩
    rw [reason?, Json.firstRepeat_eq_some_iff.mpr found]
    rfl

/-- An enumeration is refused for the value that is the first to repeat another. -/
theorem Node.enumOf_eq_duplicate_iff {values : List Json} {v : Json} :
    enumOf values = .error (.duplicateEnumValue v) ↔
      ∃ first second, FirstRepeat values first second ∧ values[second]? = some v := by
  rw [← Json.repeated?_eq_some_iff]
  unfold enumOf
  cases values with
  | nil => simp [Json.repeated?]
  | cons value rest =>
    simp only [List.isEmpty_cons, Bool.false_eq_true, if_false]
    cases Json.repeated? [] (value :: rest) <;> simp

/-- An enumeration of values is refused for a repeat exactly if they are told of as items that have
to be unique, and that is exactly if two of them are deep-equal. The second of the two places that
are told is then the least whose value is deep-equal to an earlier one, the first is the only
earlier place of such a value, and the enumeration is refused for the value at the second. -/
theorem repeats_are_found_alike (values : List Json) (rules : List ArrayRule)
    (asked : .uniqueItems ∈ rules) :
    ((∃ v, Node.enumOf values = .error (.duplicateEnumValue v)) ↔
      ∃ first second, .duplicateItems first second ∈ ArrayRule.reasons rules values) ∧
    ((∃ first second, .duplicateItems first second ∈ ArrayRule.reasons rules values) ↔
      ∃ earlier later, RepeatAt values earlier later) ∧
    ∀ first second, .duplicateItems first second ∈ ArrayRule.reasons rules values →
      IsLeast { later | ∃ earlier, RepeatAt values earlier later } second ∧
      (∀ earlier, RepeatAt values earlier second ↔ earlier = first) ∧
      ∃ v, values[second]? = some v ∧
        Node.enumOf values = .error (.duplicateEnumValue v) := by
  have told (first second : Nat) :
      ReasonOver.duplicateItems first second ∈ ArrayRule.reasons rules values ↔
        FirstRepeat values first second := by
    rw [ArrayRule.duplicateItems_mem_reasons_iff]
    exact and_iff_right asked
  have valueAt {first second : Nat} (found : FirstRepeat values first second) :
      ∃ v, values[second]? = some v ∧
        Node.enumOf values = .error (.duplicateEnumValue v) := by
    obtain ⟨-, v, w, -, there, -⟩ := found.repeats
    exact ⟨w, there, Node.enumOf_eq_duplicate_iff.mpr ⟨first, second, found, there⟩⟩
  simp only [told]
  refine ⟨⟨?_, ?_⟩, Json.exists_firstRepeat_iff, ?_⟩
  · rintro ⟨v, refused⟩
    obtain ⟨first, second, found, -⟩ := Node.enumOf_eq_duplicate_iff.mp refused
    exact ⟨first, second, found⟩
  · rintro ⟨first, second, found⟩
    obtain ⟨v, -, refused⟩ := valueAt found
    exact ⟨v, refused⟩
  · intro first second found
    refine ⟨⟨⟨first, found.repeats⟩, ?_⟩, ?_, valueAt found⟩
    · rintro later ⟨earlier, repeats⟩
      exact found.least earlier later repeats
    · intro earlier
      constructor
      · exact found.eq_of_repeatAt
      · rintro rfl
        exact found.repeats

/-- An object comes twice, its members in another order and a number written another way. -/
def twins : List Json :=
  [.object [("x", .number (.int 1)), ("y", .array [.null])], .string "x",
    .object [("y", .array [.null]), ("x", .number (.float (.ofInt 1)))], .string "x"]

theorem twins_repeat :
    .uniqueItems ∈ [ArrayRule.minItems 1, .uniqueItems] ∧
    IsLeast { later | ∃ earlier, RepeatAt twins earlier later } 2 ∧
    ∃ v, twins[2]? = some v ∧ Node.enumOf twins = .error (.duplicateEnumValue v) := by
  have asked : .uniqueItems ∈ [ArrayRule.minItems 1, .uniqueItems] := by decide
  have told : ReasonOver.duplicateItems 0 2 ∈
      ArrayRule.reasons [.minItems 1, .uniqueItems] twins := by
    rw [ArrayRule.duplicateItems_mem_reasons_iff, ← Json.firstRepeat_eq_some_iff]
    decide +kernel
  obtain ⟨least, -, value⟩ := (repeats_are_found_alike twins _ asked).2.2 0 2 told
  exact ⟨asked, least, value⟩

end DataSchema
