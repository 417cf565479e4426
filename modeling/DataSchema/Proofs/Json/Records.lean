import DataSchema.Proofs.Json.Members
import DataSchema.Proofs.Json.Readers

/-!
Texts that are read as something else than values. Every such reader takes from a text what the
reader of values takes, so what it reads can be told of the value that stands there: a string, a
list of such things, or a record, whose members are those of an object or the items of an array.
-/
namespace DataSchema.Json
namespace Reader

open Scan (skipBlank)

variable {α : Type} {place place' : Place} {rest after : List Char} {first : Bool}

/-! ## Values that are told of -/

/-- What the reader takes from a text is a value, and this is what it makes of it. -/
def Decodes (P : Json → α → Prop) (reader : Reader α) : Prop :=
  ∀ place rest x after, reader place rest = .ok (x, after) →
    ∃ v, value place rest = .ok (v, after) ∧ P v x

theorem Decodes.imp {P Q : Json → α → Prop} {reader : Reader α} (decodes : Decodes P reader)
    (weaker : ∀ v x, P v x → Q v x) : Decodes Q reader := by
  intro place rest x after read
  obtain ⟨v, taken, holds⟩ := decodes place rest x after read
  exact ⟨v, taken, weaker v x holds⟩

theorem decodes_value : Decodes (fun v x => x = v) value :=
  fun _ _ x _ read => ⟨x, read, rfl⟩

theorem decodes_scalar {decide : Found → Except Mismatch α} (noList : ∀ x, decide .list ≠ .ok x)
    (noMap : ∀ x, decide .map ≠ .ok x) :
    Decodes (fun v x => decide (Found.ofJson v) = .ok x) (scalar decide) := by
  intro place rest x after read
  obtain ⟨found, scanned, chosen⟩ := scalar_eq_ok_iff.mp read
  have list : found ≠ .list := fun same => noList x (same ▸ chosen)
  have map : found ≠ .map := fun same => noMap x (same ▸ chosen)
  obtain ⟨v, rfl⟩ : ∃ v, Found.ofJson v = found := by
    cases found with
    | null => exact ⟨.null, rfl⟩
    | bool value => exact ⟨.bool value, rfl⟩
    | integer value => exact ⟨.number (.int value), rfl⟩
    | float value => exact ⟨.number (.float value), rfl⟩
    | string value => exact ⟨.string value, rfl⟩
    | list => exact absurd rfl list
    | map => exact absurd rfl map
  exact ⟨v, valueWithin_of_found scanned list map rfl _ place, chosen⟩

theorem decodes_text : Decodes (fun v s => v = .string s) text := by
  refine (decodes_scalar nofun nofun).imp fun v s chosen => ?_
  cases v with
  | string value => cases chosen; rfl
  | number n => cases n <;> cases chosen
  | _ => cases chosen

theorem decodes_flag : Decodes (fun v b => v = .bool b) flag := by
  refine (decodes_scalar nofun nofun).imp fun v b chosen => ?_
  cases v with
  | bool value => cases chosen; rfl
  | number n => cases n <;> cases chosen
  | _ => cases chosen

theorem valueWithin_skipBlank (levels : Nat) (place : Place) (rest : List Char) :
    valueWithin levels place (skipBlank rest) = valueWithin levels place rest := by
  cases levels <;> simp only [valueWithin, skipBlank_skipBlank]

/-- Null is read as nothing, and nothing else is. -/
theorem decodes_optional {P : Json → α → Prop} {reader : Reader α} (decodes : Decodes P reader) :
    Decodes (fun v x => (v = .null ∧ x = none) ∨ (v ≠ .null ∧ ∃ y, x = some y ∧ P v y))
      (optional reader) := by
  intro place rest x after read
  unfold optional at read
  split at read
  · next more eq =>
    obtain ⟨⟨⟨⟩, left⟩, word, made⟩ := ok_of_map read
    cases made
    rw [Place.scanned_eq_ok_iff] at word
    have scanned : Scan.found (skipBlank rest) = .ok (.null, left) := by
      simp [eq, Scan.found, word, Except.map]
    exact ⟨.null, valueWithin_of_found scanned nofun nofun rfl _ place, .inl ⟨rfl, rfl⟩⟩
  · next plain =>
    obtain ⟨⟨y, left⟩, own, made⟩ := ok_of_map read
    cases made
    obtain ⟨v, taken, holds⟩ := decodes _ _ _ _ own
    rw [value, valueWithin_skipBlank] at taken
    refine ⟨v, taken, .inr ⟨?_, y, rfl, holds⟩⟩
    rintro rfl
    obtain ⟨found, scanned, -, -, rfl⟩ | ⟨_, _, _, _, _, _, other⟩ | ⟨_, _, _, _, _, _, other⟩ :=
      cases_of_valueWithin taken
    · obtain ⟨more, eq⟩ := Scan.mark_of_found scanned
      exact plain more eq
    · cases other
    · cases other

/-- An opened array or object has one level less. -/
theorem opened_eq_ok {mark : Char} {inner : Place → List Char → Except ReadError α} {r : α}
    (read : opened place (mark :: rest) inner = .ok r) :
    ∃ room, place.room = room + 1 ∧ inner ⟨place.path, room⟩ rest = .ok r := by
  unfold opened at read
  split at read
  · cases read
  · next room eq => exact ⟨room, eq, read⟩

/-- What is no value of its own is not read as one. -/
theorem scalar_refuses {refuse : Found → Mismatch} {r : α × List Char} :
    scalar (fun found => .error (refuse found)) place rest ≠ .ok r := by
  obtain ⟨x, after⟩ := r
  intro read
  obtain ⟨_, _, made⟩ := scalar_eq_ok_iff.mp read
  cases made

theorem itemsFrom_decodes {P : Json → α → Prop} {item : Reader α} (decodes : Decodes P item)
    {fuel index : Nat} {xs : List α} (place' : Place)
    (read : itemsFrom item fuel place index rest = .ok (xs, after)) :
    ∃ values, itemsFrom (valueWithin place.room) fuel place' index rest = .ok (values, after) ∧
      List.Forall₂ P values xs := by
  induction fuel generalizing index rest xs with
  | zero =>
    cases read
    exact ⟨[], rfl, .nil⟩
  | succ fuel ih =>
    obtain ⟨next, next_eq, read⟩ := steps_of_ok read
    rw [itemsFrom, nextItem?_placeless next_eq]
    cases next with
    | none =>
      cases read
      exact ⟨[], rfl, .nil⟩
    | some next =>
      obtain ⟨⟨x, left⟩, own, read⟩ := steps_of_ok read
      obtain ⟨⟨others, left'⟩, later, read⟩ := steps_of_ok read
      cases read
      obtain ⟨v, taken, holds⟩ := decodes _ _ _ _ own
      obtain ⟨values, more, each⟩ := ih later
      have taken := valueWithin_placeless _ _ (place'.within (.index index)) _ _ taken
      refine ⟨v :: values, ?_, .cons holds each⟩
      simp only [Place.within] at taken ⊢
      simp [bind, Except.bind, taken, more]

theorem decodes_list {P : Json → α → Prop} {item : Reader α} (decodes : Decodes P item) :
    Decodes (fun v xs => ∃ values, v = .array values ∧ List.Forall₂ P values xs) (list item) := by
  intro place rest xs after read
  unfold list at read
  split at read
  · next more eq =>
    obtain ⟨room, room_eq, read⟩ := opened_eq_ok read
    obtain ⟨⟨own, left⟩, list, read⟩ := steps_of_ok read
    obtain ⟨left', close, read⟩ := steps_of_ok read
    cases read
    obtain ⟨values, taken, each⟩ := itemsFrom_decodes decodes place list
    refine ⟨.array values, ?_, values, rfl, each⟩
    have close : closeList place left = .ok after := closeList_placeless close
    simp [value, room_eq, valueWithin, eq, items, taken, close, bind, Except.bind, Except.map]
  · exact absurd read scalar_refuses

theorem decodes_count (name : String) : Decodes (fun _ _ => True) (count name) :=
  (decodes_scalar nofun nofun).imp fun _ _ _ => trivial

theorem decodes_unit : Decodes (fun v _ => v = .null) unit := by
  refine (decodes_scalar nofun nofun).imp fun v _ chosen => ?_
  cases v with
  | null => rfl
  | number n => cases n <;> cases chosen
  | _ => cases chosen

theorem found_of_nameOf {cases : List (String × α)} {r : String × α}
    (read : nameOf cases place rest = .ok (r, after)) :
    ∃ name, Scan.found (skipBlank rest) = .ok (.string name, after) := by
  obtain ⟨found, scanned, chosen⟩ := scalar_eq_ok_iff.mp read
  cases found with
  | string name => exact ⟨name, scanned⟩
  | _ => cases chosen

/-- A choice is a string, or an object with one member. -/
theorem decodes_choice (cases : List (String × α)) : Decodes (fun _ _ => True) (choice cases) := by
  intro place rest x after read
  unfold choice at read
  split at read
  · cases read
  · next more eq =>
    obtain ⟨⟨own, left⟩, named, made⟩ := ok_of_map read
    cases made
    obtain ⟨name, scanned⟩ := found_of_nameOf named
    rw [← eq, skipBlank_skipBlank] at scanned
    exact ⟨.string name, valueWithin_of_found scanned nofun nofun rfl _ place, trivial⟩
  · next more eq =>
    obtain ⟨room, room_eq, read⟩ := opened_eq_ok read
    obtain ⟨⟨own, left⟩, named, read⟩ := steps_of_ok read
    obtain ⟨left', colon, read⟩ := steps_of_ok read
    obtain ⟨⟨⟨⟩, left''⟩, nothing, read⟩ := steps_of_ok read
    obtain ⟨name, scanned⟩ := found_of_nameOf named
    obtain ⟨body, quote, string⟩ := Scan.mark_of_found scanned
    obtain ⟨nothing', taken, rfl⟩ := decodes_unit _ _ _ _ nothing
    have close : skipBlank left'' = '\x7d' :: after := by
      dsimp only at read
      split at read
      · cases read
      · next eq => cases read; exact eq
      · cases read
    -- The object is read in two rounds: one for the member, and one that finds the end.
    obtain ⟨fuel, fuel_eq⟩ : ∃ fuel, more.length = fuel + 1 := by
      refine Nat.exists_eq_add_one_of_ne_zero fun none => ?_
      rw [List.length_eq_zero_iff.mp none] at quote
      cases quote
    have start : nextName? place true more = .ok (some (name, left)) := by
      simp [nextName?, quote, memberName, Place.scanned, string, Except.mapError, Except.map]
    have stop : nextName? place false left'' = .ok none := by simp [nextName?, close]
    have colon : Reader.colon place left = .ok left' := colon_placeless colon
    have taken : valueWithin room (place.within (.member name)) left' = .ok (.null, left'') :=
      valueWithin_placeless _ _ _ _ _ taken
    refine ⟨.object [(name, .null)], ?_, trivial⟩
    simp [value, room_eq, valueWithin, eq, membersFrom, fuel_eq, start, colon, taken, stop, close,
      put, bind, Except.bind, Except.map]
  · cases read

/-! ## Records -/

section Records

variable {σ : Type} {means : String → Json → (σ → σ) → Prop} {fields : List (Field σ)}
  {record record' : σ}

/-- A record is filled from members one after the other, each as its name means. -/
inductive Fills (means : String → Json → (σ → σ) → Prop) : Members → σ → σ → Prop
  | nil {record : σ} : Fills means [] record record
  | cons {name : String} {v : Json} {set : σ → σ} {members : Members} {record record' : σ}
      (own : means name v set) (others : Fills means members (set record) record') :
      Fills means ((name, v) :: members) record record'

theorem nextName?_none (read : nextName? place first rest = .ok none) :
    ∃ more, skipBlank rest = '\x7d' :: more := by
  have named (next : List Char) : memberName (place.within .unknown) next ≠ .ok none := by
    intro read
    unfold memberName at read
    split at read
    · obtain ⟨_, -, made⟩ := ok_of_map read
      cases made
    · cases read
  unfold nextName? at read
  split at read
  · cases read
  · next more eq => exact ⟨more, eq⟩
  · split at read
    · exact absurd read (named _)
    · split at read
      · cases read
      · cases read
      · exact absurd read (named _)
  · split at read
    · exact absurd read (named _)
    · cases read

theorem nextItem?_none (read : nextItem? place first rest = .ok none) :
    ∃ more, skipBlank rest = ']' :: more := by
  unfold nextItem? at read
  split at read
  · cases read
  · next more eq => exact ⟨more, eq⟩
  · split at read
    · cases read
    · split at read <;> cases read
  · split at read <;> cases read

/-- The members of a record are those of an object, each known and none there twice, and those that
are required are there. -/
theorem fieldsFrom_decodes
    (decodes : ∀ field ∈ fields, Decodes (means field.name) field.read)
    {fuel : Nat} (enough : rest.length < fuel) {seen : List String} (known : Members)
    (place' : Place) (same : ∀ name, name ∈ seen ↔ name ∈ known.map Prod.fst)
    (names : (known.map Prod.fst).Nodup)
    (read : fieldsFrom fields fuel place seen record rest = .ok (record', after)) :
    ∃ members, membersFrom (valueWithin place.room) fuel place' seen.isEmpty known rest =
        .ok (known ++ members, after) ∧
      Fills means members record record' ∧ ((known ++ members).map Prod.fst).Nodup ∧
      ∀ field ∈ fields, field.required = true →
        field.name ∈ (known ++ members).map Prod.fst := by
  induction fuel generalizing rest seen known record with
  | zero => exact absurd enough (Nat.not_lt_zero _)
  | succ fuel ih =>
    obtain ⟨next, next_eq, read⟩ := steps_of_ok read
    rw [membersFrom, nextName?_placeless next_eq]
    cases next with
    | none =>
      obtain ⟨more, eq⟩ := nextName?_none next_eq
      dsimp only at read
      split at read
      · cases read
      · next none =>
        cases read
        refine ⟨[], by simp [bind, Except.bind, pastObject, eq], .nil, by simpa using names, ?_⟩
        intro field inside required
        have seen := List.find?_eq_none.mp none field inside
        simpa [required, same] using seen
    | some next =>
      obtain ⟨name, left⟩ := next
      dsimp only at read
      split at read
      · cases read
      · next field found =>
        split at read
        · cases read
        · next fresh =>
          obtain ⟨left', colon, read⟩ := steps_of_ok read
          obtain ⟨⟨set, left''⟩, own, read⟩ := steps_of_ok read
          have name_eq : field.name = name := by simpa using List.find?_some found
          have new : name ∉ known.map Prod.fst := by simpa [← same] using fresh
          obtain ⟨v, taken, holds⟩ := decodes field (List.mem_of_find?_eq_some found) _ _ _ _ own
          have shorter : left''.length < left'.length := shortens_valueWithin _ _ _ _ _ taken
          have start := length_nextName?_le next_eq
          have middle := length_colon_le colon
          have nodup : ((known ++ [(name, v)]).map Prod.fst).Nodup := by
            rw [List.map_append]
            exact (List.perm_append_singleton name _).nodup_iff.mpr
              (List.nodup_cons.mpr ⟨new, names⟩)
          obtain ⟨members, more, fills, nodup, required⟩ :=
            ih (show left''.length < fuel by omega) _ (by simp [same, or_comm]) nodup read
          have colon : Reader.colon place' left = .ok left' := colon_placeless colon
          have taken : valueWithin place.room (place'.within (.member name)) left' =
              .ok (v, left'') := valueWithin_placeless _ _ _ _ _ taken
          have put_eq := put_of_absent
            (by simpa using mt hasMember_iff.mp new : hasMember known name = false) v
          rw [List.append_assoc, List.singleton_append] at more nodup required
          refine ⟨(name, v) :: members, ?_, .cons (name_eq ▸ holds) fills, nodup, required⟩
          simpa [bind, Except.bind, colon, taken, put_eq] using more

/-- Where a list ends there is no next item. -/
theorem nextItem?_of_bracket {more : List Char} (eq : skipBlank rest = ']' :: more) :
    nextItem? place first rest = .ok none := by
  simp [nextItem?, eq]

theorem bracket_of_closeList (close : closeList place rest = .ok after) :
    skipBlank rest = ']' :: after := by
  unfold closeList at close
  split at close
  · cases close
  · next eq => cases close; exact eq
  · split at close <;> cases close
  · cases close

/-- There are no items where a list ends. -/
theorem itemsFrom_of_bracket {item : Reader α} {more : List Char}
    (eq : skipBlank rest = ']' :: more) (fuel index : Nat) :
    itemsFrom item fuel place index rest = .ok ([], rest) := by
  cases fuel with
  | zero => rfl
  | succ fuel => rw [itemsFrom, nextItem?_of_bracket eq]; rfl

/-- The items of a record are its first fields, and those after them are not required. -/
theorem positionsFrom_decodes {expected : String}
    (decodes : ∀ field ∈ fields, Decodes (means field.name) field.read) {fuel index : Nat}
    (enough : rest.length ≤ fuel) {end' : List Char} (place' : Place)
    (read : positionsFrom expected fields place index record rest = .ok (record', after))
    (close : closeList place after = .ok end') :
    ∃ items, itemsFrom (valueWithin place.room) fuel place' index rest = .ok (items, after) ∧
      Fills means ((fields.map Field.name).zip items) record record' ∧
      ∀ field ∈ fields.drop items.length, field.required = false := by
  induction fields generalizing fuel index rest record with
  | nil =>
    cases read
    exact ⟨[], itemsFrom_of_bracket (bracket_of_closeList close) fuel index, .nil, by simp⟩
  | cons field fields ih =>
    have others := fun field inside => decodes field (List.mem_cons_of_mem _ inside)
    obtain ⟨next, next_eq, read⟩ := steps_of_ok read
    cases next with
    | none =>
      obtain ⟨more, eq⟩ := nextItem?_none next_eq
      dsimp only at read
      split at read
      · cases read
      · next free =>
        obtain ⟨items, none, fills, optional⟩ := ih others enough read
        rw [itemsFrom_of_bracket eq] at none
        cases none
        rw [List.zip_nil_right] at fills
        exact ⟨[], itemsFrom_of_bracket eq fuel index, fills, by simpa [free] using optional⟩
    | some next =>
      obtain ⟨⟨set, left⟩, own, read⟩ := steps_of_ok read
      obtain ⟨v, taken, holds⟩ := decodes field List.mem_cons_self _ _ _ _ own
      have shorter : left.length < next.length := shortens_valueWithin _ _ _ _ _ taken
      have start := length_nextItem?_le next_eq
      obtain ⟨fuel, rfl⟩ : ∃ more, fuel = more + 1 := Nat.exists_eq_add_one_of_ne_zero (by omega)
      obtain ⟨items, more, fills, optional⟩ := ih others (show left.length ≤ fuel by omega) read
      have taken : valueWithin place.room (place'.within (.index index)) next = .ok (v, left) :=
        valueWithin_placeless _ _ _ _ _ taken
      refine ⟨v :: items, ?_, .cons holds fills, by simpa using optional⟩
      rw [itemsFrom, nextItem?_placeless next_eq]
      simp [bind, Except.bind, taken, more]

end Records

end Reader

/-- What the fields of a record are told of by: the members of an object, or the items of an array
under the names of the fields in their order. -/
def membersBy (names : List String) : Json → Members
  | .object members => members
  | .array items => names.zip items
  | _ => []

theorem map_fst_zip {β : Type} (names : List String) (items : List β) :
    (names.zip items).map Prod.fst = names.take items.length := by
  induction names generalizing items with
  | nil => simp
  | cons name names ih => cases items <;> simp [ih]

namespace Reader

variable {σ : Type} {means : String → Json → (σ → σ) → Prop} {fields : List (Field σ)}

/-- A record that a value tells: its fields are filled by the members, of which there are no two of
a name and all that are required. -/
structure Recorded (means : String → Json → (σ → σ) → Prop) (fields : List (Field σ)) (initial : σ)
    (v : Json) (record : σ) : Prop where
  fills : Fills means (v.membersBy (fields.map Field.name)) initial record
  names : ((v.membersBy (fields.map Field.name)).map Prod.fst).Nodup
  required : ∀ field ∈ fields, field.required = true →
    field.name ∈ (v.membersBy (fields.map Field.name)).map Prod.fst

theorem decodes_record (means : String → Json → (σ → σ) → Prop) (name : String) {initial : σ}
    (apart : (fields.map Field.name).Nodup)
    (decodes : ∀ field ∈ fields, Decodes (means field.name) field.read) :
    Decodes (Recorded means fields initial) (record name fields initial) := by
  intro place rest x after read
  unfold record at read
  dsimp only at read
  split at read
  · next more eq =>
    obtain ⟨room, room_eq, read⟩ := opened_eq_ok read
    obtain ⟨members, taken, fills, names, required⟩ :=
      fieldsFrom_decodes decodes (Nat.lt_succ_self _) [] place (by simp) (by simp) read
    have taken : membersFrom (valueWithin room) (more.length + 1) place true [] more =
        .ok (members, after) := taken
    refine ⟨.object members, ?_, fills, names, required⟩
    simp [value, room_eq, valueWithin, eq, taken, Except.map]
  · next more eq =>
    obtain ⟨room, room_eq, read⟩ := opened_eq_ok read
    obtain ⟨⟨x', left⟩, positions, read⟩ := steps_of_ok read
    obtain ⟨left', close, read⟩ := steps_of_ok read
    cases read
    obtain ⟨items, taken, fills, optional⟩ :=
      positionsFrom_decodes decodes (Nat.le_refl _) place positions close
    have close' : closeList place left = .ok after := closeList_placeless close
    have names := map_fst_zip (fields.map Field.name) items
    refine ⟨.array items, ?_, fills, ?_, fun field inside required => ?_⟩
    · simp [value, room_eq, valueWithin, eq, Reader.items, taken, close', bind, Except.bind,
        Except.map]
    · rw [membersBy, names]
      exact apart.sublist (List.take_sublist _ _)
    · rw [membersBy, names, ← List.map_take]
      rw [← List.take_append_drop items.length fields] at inside
      rcases List.mem_append.mp inside with early | late
      · exact List.mem_map_of_mem early
      · rw [optional field late] at required
        cases required
  · exact absurd read scalar_refuses

/-- A field is told of by what its reader makes of a value. -/
theorem decodes_field {P : Json → α → Prop} {Q : Json → (σ → σ) → Prop} {reader : Reader α}
    (decodes : Decodes P reader) {name : String} {required : Bool} {set : α → σ → σ}
    (sets : ∀ v x, P v x → Q v (set x)) : Decodes Q (Field.of name required reader set).read := by
  intro place rest f after read
  obtain ⟨⟨x, left⟩, own, made⟩ := ok_of_map read
  cases made
  obtain ⟨v, taken, holds⟩ := decodes _ _ _ _ own
  exact ⟨v, taken, sets v x holds⟩

/-- A part of a record that one field sets is told by the member of its name, and is as it was when
there is no such member. -/
theorem Fills.told {members : Members} {record record' : σ}
    (fills : Fills means members record record') (names : (members.map Prod.fst).Nodup)
    (name : String) {β : Type} (part : σ → β) (tells : Json → β → Prop)
    (sets : ∀ key v set r, means key v set →
      if key = name then tells v (part (set r)) else part (set r) = part r) :
    match member? members name with
    | some v => tells v (part record')
    | none => part record' = part record := by
  induction fills with
  | nil => rfl
  | @cons key v set members record record' own fills ih =>
    obtain ⟨fresh, names⟩ := List.nodup_cons.mp names
    have later := ih names
    have now := sets key v set record own
    rw [member?_cons]
    by_cases same : key = name
    · subst same
      have absent : member? members key = none := by
        simpa [hasMember] using mt hasMember_iff.mp fresh
      rw [absent] at later
      simpa [later] using now
    · rw [if_neg same] at now
      simpa [same, now] using later

/-- A part that a required field sets is told by a member. -/
theorem Recorded.told {initial record : σ} {v : Json}
    (recorded : Recorded means fields initial v record) (name : String)
    (needed : name ∈ (fields.filter Field.required).map Field.name) {β : Type} (part : σ → β)
    (tells : Json → β → Prop)
    (sets : ∀ key v set r, means key v set →
      if key = name then tells v (part (set r)) else part (set r) = part r) :
    ∃ w, member? (v.membersBy (fields.map Field.name)) name = some w ∧ tells w (part record) := by
  obtain ⟨field, inside, rfl⟩ := List.mem_map.mp needed
  obtain ⟨inside, required⟩ := List.mem_filter.mp inside
  have told := recorded.fills.told recorded.names _ part tells sets
  have present := hasMember_iff.mpr (recorded.required field inside required)
  obtain ⟨w, found⟩ := Option.isSome_iff_exists.mp present
  rw [found] at told
  exact ⟨w, found, told⟩

end Reader
end DataSchema.Json
