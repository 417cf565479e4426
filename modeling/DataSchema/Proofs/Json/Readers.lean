import DataSchema.Proofs.Json.Read
import Mathlib.Data.List.DropRight

/-!
What readers of JSON text leave, and what they depend on. A scanner leaves an end of the text that
it was given, and a reader of values leaves less than that. Where a reader stands shows in faults
only, so a value that is read at one place would be read at every other.
-/
namespace DataSchema.Json

/-! ## What scanners leave -/

namespace Scan

variable {rest after : List Char} {negative : Bool} {number : Scientific} {n : Number}

theorem word_suffix {expected : List Char} (read : word expected rest = .ok ((), after)) :
    after <:+ rest := by
  induction expected generalizing rest with
  | nil =>
    cases read
    exact List.suffix_rfl
  | cons e expected ih =>
    cases rest with
    | nil => cases read
    | cons c rest =>
      rw [word] at read
      split at read
      · exact (ih read).trans (List.suffix_cons c rest)
      · cases read

theorem fourHex_suffix {code : Nat} (read : fourHex rest = .ok (code, after)) : after <:+ rest := by
  unfold fourHex at read
  split at read
  · split at read
    · cases read
      exact ⟨[_, _, _, _], rfl⟩
    · cases read
  · split at read <;> cases read

theorem unicodeEscape_suffix {c : Char} (read : unicodeEscape rest = .ok (c, after)) :
    after <:+ rest := by
  obtain ⟨⟨lead, more⟩, first, read⟩ := steps_of_ok read
  refine List.IsSuffix.trans ?_ (fourHex_suffix first)
  dsimp only at read
  split at read
  · cases read
  · split at read
    · cases read
      exact List.suffix_rfl
    · split at read
      · cases read
      · cases read
      · obtain ⟨⟨trail, more⟩, second, read⟩ := steps_of_ok read
        dsimp only at read
        split at read
        · cases read
        · obtain ⟨-, rfl⟩ := Prod.mk.inj (Except.ok.inj read)
          exact (fourHex_suffix second).trans ⟨['\\', 'u'], rfl⟩
      · cases read
      · cases read

theorem stringBody_suffix {fuel : Nat} {known : List Char} {s : String}
    (read : stringBody fuel known rest = .ok (s, after)) : after <:+ rest := by
  induction fuel generalizing known rest with
  | zero => cases read
  | succ fuel ih =>
    unfold stringBody at read
    split at read
    · cases read
    · cases read
      exact List.suffix_cons _ _
    · cases read
    · obtain ⟨⟨c, more⟩, escape, read⟩ := steps_of_ok read
      exact ((ih read).trans (unicodeEscape_suffix escape)).trans ⟨['\\', 'u'], rfl⟩
    · split at read
      · exact (ih read).trans ⟨['\\', _], rfl⟩
      · cases read
    · split at read
      · cases read
      · exact (ih read).trans (List.suffix_cons _ _)

theorem exponentDigits_suffix (value : Nat) (rest : List Char) :
    (exponentDigits value rest).2.2 <:+ rest := by
  induction rest generalizing value with
  | nil => exact List.suffix_rfl
  | cons c rest ih =>
    rw [exponentDigits]
    split
    · dsimp only
      split
      · exact (List.dropWhile_suffix _).trans (List.suffix_cons c rest)
      · exact (ih _).trans (List.suffix_cons c rest)
    · exact List.suffix_rfl

theorem wholeDigits_suffix (number : Scientific) (rest : List Char) :
    (wholeDigits number rest).2 <:+ rest := by
  induction rest generalizing number with
  | nil => exact List.suffix_rfl
  | cons c rest ih =>
    rw [wholeDigits_cons]
    split
    · split
      · exact (ih _).trans (List.suffix_cons c rest)
      · exact (List.dropWhile_suffix _).trans (List.suffix_cons c rest)
    · exact List.suffix_rfl

theorem fractionDigits_suffix (number : Scientific) (rest : List Char) :
    (fractionDigits number rest).2 <:+ rest := by
  induction rest generalizing number with
  | nil => exact List.suffix_rfl
  | cons c rest ih =>
    rw [fractionDigits_cons]
    split
    · split
      · exact (ih _).trans (List.suffix_cons c rest)
      · exact (List.dropWhile_suffix _).trans (List.suffix_cons c rest)
    · exact List.suffix_rfl

theorem floatOf_suffix (read : floatOf negative number rest = .ok (n, after)) : after <:+ rest := by
  unfold floatOf at read
  split at read
  · cases read
    exact List.suffix_rfl
  · cases read

theorem exponentPart_suffix (read : exponentPart negative number rest = .ok (n, after)) :
    after <:+ rest := by
  unfold exponentPart at read
  split at read
  next minus unsigned sign =>
  have signed : unsigned <:+ rest := by
    split at sign <;> cases sign
    · exact List.suffix_cons _ _
    · exact List.suffix_cons _ _
    · exact List.suffix_rfl
  refine List.IsSuffix.trans ?_ signed
  split at read
  · cases read
  · split at read
    · cases read
    · next c more _ =>
      have digits := exponentDigits_suffix (Text.digitValue c) more
      split at read
      next value overflow left eq =>
      rw [eq] at digits
      have left_suffix : left <:+ c :: more := digits.trans (List.suffix_cons c more)
      split at read
      · exact (floatOf_suffix read).trans left_suffix
      · split at read
        · cases read
          exact left_suffix
        · cases read

theorem fractionPart_suffix (read : fractionPart negative number rest = .ok (n, after)) :
    after <:+ rest := by
  unfold fractionPart at read
  split at read
  · cases read
  · split at read
    · cases read
    · next c more _ =>
      have digits := fractionDigits_suffix number (c :: more)
      split at read
      next number' left eq =>
      rw [eq] at digits
      refine List.IsSuffix.trans ?_ digits
      split at read
      · exact (exponentPart_suffix read).trans (List.suffix_cons _ _)
      · exact (exponentPart_suffix read).trans (List.suffix_cons _ _)
      · exact floatOf_suffix read

/-- A number has a digit. -/
theorem number_suffix (read : Scan.number negative rest = .ok (n, after)) :
    after <:+ rest.tail := by
  unfold Scan.number at read
  split at read
  · cases read
  · split at read
    · cases read
    · split at read
      · cases read
      · next c more decimal _ =>
        have digits : (wholeDigits ⟨0, 0⟩ (c :: more)).2 <:+ more := by
          rw [wholeDigits_cons, if_pos (by simpa using decimal)]
          split
          · exact wholeDigits_suffix _ more
          · exact List.dropWhile_suffix _
        split at read
        next whole left eq =>
        rw [eq] at digits
        refine List.IsSuffix.trans ?_ digits
        split at read
        · exact (fractionPart_suffix read).trans (List.suffix_cons _ _)
        · exact (exponentPart_suffix read).trans (List.suffix_cons _ _)
        · exact (exponentPart_suffix read).trans (List.suffix_cons _ _)
        · split at read
          · cases read
            exact List.suffix_rfl
          · exact floatOf_suffix read

/-- A scalar has a character. -/
theorem found_shorter {found : Found} (read : Scan.found rest = .ok (found, after))
    (noList : found ≠ .list) (noMap : found ≠ .map) : after.length < rest.length := by
  have tail {left : List Char} (suffix : left <:+ rest.tail) (some : rest ≠ []) :
      left.length < rest.length := by
    have le := suffix.length_le
    have positive := List.length_pos_iff.mpr some
    rw [List.length_tail] at le
    omega
  unfold Scan.found at read
  split at read
  · obtain ⟨⟨⟩, scanned, eq⟩ := ok_of_map read
    cases eq
    exact tail (word_suffix scanned) (by simp)
  · obtain ⟨⟨⟩, scanned, eq⟩ := ok_of_map read
    cases eq
    exact tail (word_suffix scanned) (by simp)
  · obtain ⟨⟨⟩, scanned, eq⟩ := ok_of_map read
    cases eq
    exact tail (word_suffix scanned) (by simp)
  · obtain ⟨_, scanned, eq⟩ := ok_of_map read
    cases eq
    exact tail ((number_suffix scanned).trans (List.tail_suffix _)) (by simp)
  · obtain ⟨_, scanned, eq⟩ := ok_of_map read
    cases eq
    exact tail (stringBody_suffix scanned) (by simp)
  · cases read
    exact absurd rfl noList
  · cases read
    exact absurd rfl noMap
  · split at read
    · obtain ⟨_, scanned, eq⟩ := ok_of_map read
      cases eq
      exact tail (number_suffix scanned) (by simp)
    · cases read
  · cases read

/-- How null, a string, an array and an object begin. -/
theorem mark_of_found {found : Found} (read : Scan.found rest = .ok (found, after)) :
    match found with
    | .null => ∃ more, rest = 'n' :: more
    | .string s => ∃ more, rest = '"' :: more ∧ string more = .ok (s, after)
    | .list => ∃ more, rest = '[' :: more
    | .map => ∃ more, rest = '\x7b' :: more
    | _ => True := by
  unfold Scan.found at read
  split at read
  · obtain ⟨_, -, eq⟩ := ok_of_map read
    cases eq
    exact ⟨_, rfl⟩
  · obtain ⟨_, -, eq⟩ := ok_of_map read
    cases eq
    trivial
  · obtain ⟨_, -, eq⟩ := ok_of_map read
    cases eq
    trivial
  · obtain ⟨⟨n, _⟩, -, eq⟩ := ok_of_map read
    cases eq
    cases n <;> trivial
  · obtain ⟨_, scanned, eq⟩ := ok_of_map read
    cases eq
    exact ⟨_, rfl, scanned⟩
  · cases read
    exact ⟨_, rfl⟩
  · cases read
    exact ⟨_, rfl⟩
  · split at read
    · obtain ⟨⟨n, _⟩, -, eq⟩ := ok_of_map read
      cases eq
      cases n <;> trivial
    · cases read
  · cases read

end Scan

namespace Place

variable {α : Type} {place : Place} {rest : List Char}

@[simp] theorem fault_ne_ok (fault : Fault) (r : α) : place.fault fault rest ≠ .ok r := nofun

@[simp] theorem faultAtNext_ne_ok (fault : Fault) (r : α) :
    place.faultAtNext fault rest ≠ .ok r := nofun

@[simp] theorem mismatch_ne_ok (mismatch : Mismatch) (r : α) :
    place.mismatch mismatch rest ≠ .ok r := nofun

@[simp] theorem scanned_eq_ok_iff {result : Scan.Scanned α} {r : α × List Char} :
    place.scanned result = .ok r ↔ result = .ok r := by
  cases result <;> simp [scanned, Except.mapError]

end Place

namespace Reader

open Scan (skipBlank)

variable {α : Type} {place place' : Place} {rest after : List Char} {first : Bool}

/-! ## What readers leave -/

theorem length_skipBlank_le (rest : List Char) : (skipBlank rest).length ≤ rest.length :=
  (List.dropWhile_suffix _).length_le

theorem skipBlank_skipBlank (rest : List Char) : skipBlank (skipBlank rest) = skipBlank rest :=
  List.dropWhile_idempotent _ _

/-- A reader that reads leaves less text than there was. -/
def Shortens (reader : Reader α) : Prop :=
  ∀ place rest x after, reader place rest = .ok (x, after) → after.length < rest.length

theorem length_nextItem?_le (read : nextItem? place first rest = .ok (some after)) :
    after.length ≤ rest.length := by
  have blank := length_skipBlank_le rest
  unfold nextItem? at read
  split at read
  · cases read
  · cases read
  · next next eq =>
    rw [eq] at blank
    have blank' := length_skipBlank_le next
    rw [List.length_cons] at blank
    split at read
    · cases read
      rw [List.length_cons]
      omega
    · split at read <;> cases read
      omega
  · split at read <;> cases read
    exact blank

theorem length_closeList_lt (read : closeList place rest = .ok after) :
    after.length < rest.length := by
  have blank := length_skipBlank_le rest
  unfold closeList at read
  split at read
  · cases read
  · next eq =>
    cases read
    rwa [eq] at blank
  · split at read <;> cases read
  · cases read

theorem length_memberName_le {name : String}
    (read : memberName place rest = .ok (some (name, after))) : after.length ≤ rest.length := by
  unfold memberName at read
  split at read
  · obtain ⟨named, scanned, eq⟩ := ok_of_map read
    cases eq
    rw [Place.scanned_eq_ok_iff] at scanned
    exact ((Scan.stringBody_suffix scanned).trans (List.suffix_cons _ _)).length_le
  · cases read

theorem length_nextName?_le {name : String}
    (read : nextName? place first rest = .ok (some (name, after))) :
    after.length ≤ rest.length := by
  have blank := length_skipBlank_le rest
  unfold nextName? at read
  split at read
  · cases read
  · cases read
  · next next eq =>
    rw [eq] at blank
    have blank' := length_skipBlank_le next
    rw [List.length_cons] at blank
    split at read
    · have name := length_memberName_le read
      rw [List.length_cons] at name
      omega
    · split at read
      · cases read
      · cases read
      · have name := length_memberName_le read
        omega
  · split at read
    · have name := length_memberName_le read
      omega
    · cases read

theorem length_colon_le (read : colon place rest = .ok after) : after.length ≤ rest.length := by
  have blank := length_skipBlank_le rest
  unfold colon at read
  split at read
  · cases read
  · next eq =>
    cases read
    rw [eq, List.length_cons] at blank
    omega
  · cases read

theorem length_itemsFrom_le {item : Reader α} (each : Shortens item) {fuel index : Nat}
    {values : List α} (read : itemsFrom item fuel place index rest = .ok (values, after)) :
    after.length ≤ rest.length := by
  induction fuel generalizing index rest values with
  | zero =>
    cases read
    exact Nat.le_refl _
  | succ fuel ih =>
    obtain ⟨next, next_eq, read⟩ := steps_of_ok read
    cases next with
    | none =>
      cases read
      exact Nat.le_refl _
    | some next =>
      obtain ⟨⟨value, left⟩, own, read⟩ := steps_of_ok read
      obtain ⟨⟨others, left'⟩, later, read⟩ := steps_of_ok read
      cases read
      have start := length_nextItem?_le next_eq
      have item := each _ _ _ _ own
      have others := ih later
      omega

theorem length_items_lt {item : Reader α} (each : Shortens item) {values : List α}
    (read : items item place rest = .ok (values, after)) : after.length < rest.length := by
  obtain ⟨⟨values, left⟩, list, read⟩ := steps_of_ok read
  obtain ⟨left', close, read⟩ := steps_of_ok read
  cases read
  exact Nat.lt_of_lt_of_le (length_closeList_lt close) (length_itemsFrom_le each list)

theorem length_membersFrom_le {value : Reader Json} (each : Shortens value) {fuel : Nat}
    {known members : Members}
    (read : membersFrom value fuel place first known rest = .ok (members, after)) :
    after.length ≤ rest.length := by
  induction fuel generalizing first known rest with
  | zero =>
    cases read
    exact Nat.le_refl _
  | succ fuel ih =>
    obtain ⟨next, next_eq, read⟩ := steps_of_ok read
    cases next with
    | none =>
      cases read
      have blank := length_skipBlank_le rest
      rw [List.length_tail]
      omega
    | some next =>
      obtain ⟨name, left⟩ := next
      obtain ⟨left', colon, read⟩ := steps_of_ok read
      obtain ⟨⟨member, left''⟩, own, read⟩ := steps_of_ok read
      have start := length_nextName?_le next_eq
      have middle := length_colon_le colon
      have value := each _ _ _ _ own
      have others := ih read
      omega

/-- What is neither array nor object is read as a scalar. -/
theorem valueWithin_eq_scalarValue (noList : ∀ more, skipBlank rest ≠ '[' :: more)
    (noMap : ∀ more, skipBlank rest ≠ '\x7b' :: more) (levels : Nat) (place : Place) :
    valueWithin levels place rest = scalarValue place rest := by
  have scalar : scalarValue place (skipBlank rest) = scalarValue place rest := by
    simp only [scalarValue, Reader.scalar, skipBlank_skipBlank]
  cases levels <;> simp only [valueWithin] <;> exact scalar

/-- A scalar that is read begins neither an array nor an object. -/
theorem no_bracket_of_found {found : Found}
    (read : Scan.found (skipBlank rest) = .ok (found, after)) (noList : found ≠ .list)
    (noMap : found ≠ .map) :
    (∀ more, skipBlank rest ≠ '[' :: more) ∧ ∀ more, skipBlank rest ≠ '\x7b' :: more := by
  constructor
  · intro more eq
    rw [eq] at read
    cases read
    exact noList rfl
  · intro more eq
    rw [eq] at read
    cases read
    exact noMap rfl

/-- What a value that is read is: a scalar, or an array or object if there is room for one. -/
theorem cases_of_valueWithin {levels : Nat} {v : Json}
    (read : valueWithin levels place rest = .ok (v, after)) :
    (∃ found, Scan.found (skipBlank rest) = .ok (found, after) ∧ found ≠ .list ∧ found ≠ .map ∧
      Found.ofJson v = found) ∨
    (∃ room more values, levels = room + 1 ∧ skipBlank rest = '[' :: more ∧
      items (valueWithin room) place more = .ok (values, after) ∧ v = .array values) ∨
    ∃ room more members, levels = room + 1 ∧ skipBlank rest = '\x7b' :: more ∧
      membersFrom (valueWithin room) (more.length + 1) place true [] more = .ok (members, after) ∧
      v = .object members := by
  by_cases list : ∃ more, skipBlank rest = '[' :: more
  · obtain ⟨more, eq⟩ := list
    cases levels with
    | zero => simp [valueWithin, eq] at read
    | succ room =>
      simp only [valueWithin, eq] at read
      obtain ⟨⟨values, left⟩, list, same⟩ := ok_of_map read
      cases same
      exact .inr (.inl ⟨room, more, values, rfl, eq, list, rfl⟩)
  by_cases map : ∃ more, skipBlank rest = '\x7b' :: more
  · obtain ⟨more, eq⟩ := map
    cases levels with
    | zero => simp [valueWithin, eq] at read
    | succ room =>
      simp only [valueWithin, eq] at read
      obtain ⟨⟨members, left⟩, list, same⟩ := ok_of_map read
      cases same
      exact .inr (.inr ⟨room, more, members, rfl, eq, list, rfl⟩)
  · refine .inl ?_
    rw [valueWithin_eq_scalarValue (fun more eq => list ⟨more, eq⟩) (fun more eq => map ⟨more, eq⟩)]
      at read
    obtain ⟨⟨found, left⟩, scanned, read⟩ := steps_of_ok read
    rw [Place.scanned_eq_ok_iff] at scanned
    have noList : found ≠ .list := by
      rintro rfl
      exact list (Scan.mark_of_found scanned)
    have noMap : found ≠ .map := by
      rintro rfl
      exact map (Scan.mark_of_found scanned)
    refine ⟨found, ?_, noList, noMap, ?_⟩
    · cases found <;> cases read <;> exact scanned
    · cases found <;> cases read <;> simp_all [Found.ofJson, Found.ofNumber]

theorem shortens_valueWithin (levels : Nat) : Shortens (valueWithin levels) := by
  induction levels with
  | zero =>
    intro place rest v after read
    have blank := length_skipBlank_le rest
    obtain ⟨found, scanned, noList, noMap, -⟩ | ⟨room, _, _, none, _⟩ | ⟨room, _, _, none, _⟩ :=
      cases_of_valueWithin read
    · exact Nat.lt_of_lt_of_le (Scan.found_shorter scanned noList noMap) blank
    · cases none
    · cases none
  | succ levels ih =>
    intro place rest v after read
    have blank := length_skipBlank_le rest
    obtain ⟨found, scanned, noList, noMap, -⟩ | ⟨room, more, values, one, eq, list, -⟩ |
      ⟨room, more, members, one, eq, list, -⟩ := cases_of_valueWithin read
    · exact Nat.lt_of_lt_of_le (Scan.found_shorter scanned noList noMap) blank
    · cases one
      have items := length_items_lt ih list
      rw [eq, List.length_cons] at blank
      omega
    · cases one
      have members := length_membersFrom_le ih list
      rw [eq, List.length_cons] at blank
      omega

/-! ## Places do not count -/

theorem scalar_eq_ok_iff {decide : Found → Except Mismatch α} {x : α} :
    scalar decide place rest = .ok (x, after) ↔
      ∃ found, Scan.found (skipBlank rest) = .ok (found, after) ∧ decide found = .ok x := by
  constructor
  · intro read
    obtain ⟨⟨found, left⟩, scanned, read⟩ := steps_of_ok read
    rw [Place.scanned_eq_ok_iff] at scanned
    dsimp only at read
    split at read
    · next value chosen =>
      cases read
      exact ⟨found, scanned, chosen⟩
    · cases read
  · rintro ⟨found, scanned, chosen⟩
    have placed : place.scanned (Scan.found (skipBlank rest)) = .ok (found, after) :=
      Place.scanned_eq_ok_iff.mpr scanned
    simp [scalar, placed, chosen, bind, Except.bind]

/-- A scalar is read as the value that it is. -/
theorem valueWithin_of_found {found : Found}
    (scanned : Scan.found (skipBlank rest) = .ok (found, after)) (noList : found ≠ .list)
    (noMap : found ≠ .map) {v : Json} (same : Found.ofJson v = found) (levels : Nat)
    (place : Place) : valueWithin levels place rest = .ok (v, after) := by
  obtain ⟨list, map⟩ := no_bracket_of_found scanned noList noMap
  rw [valueWithin_eq_scalarValue list map, scalarValue, scalar_eq_ok_iff]
  refine ⟨found, scanned, ?_⟩
  subst same
  cases v with
  | number n => cases n <;> rfl
  | array items => exact absurd rfl noList
  | object members => exact absurd rfl noMap
  | _ => rfl

/-- Where a reader stands does not count for what it reads. -/
def Placeless (reader : Reader α) : Prop :=
  ∀ place place' rest r, reader place rest = .ok r → reader place' rest = .ok r

theorem nextItem?_placeless {next : Option (List Char)}
    (read : nextItem? place first rest = .ok next) : nextItem? place' first rest = .ok next := by
  unfold nextItem? at *
  cases first <;> split at read <;> simp_all
  split at read <;> simp_all

theorem closeList_placeless (read : closeList place rest = .ok after) :
    closeList place' rest = .ok after := by
  unfold closeList at read ⊢
  split at read
  · cases read
  · next eq => simpa only [eq] using read
  · split at read <;> cases read
  · cases read

theorem memberName_placeless {next : Option (String × List Char)}
    (read : memberName place rest = .ok next) : memberName place' rest = .ok next := by
  unfold memberName at *
  split at read
  · obtain ⟨named, scanned, rfl⟩ := ok_of_map read
    rw [Place.scanned_eq_ok_iff] at scanned
    simp [Place.scanned, scanned, Except.mapError, Except.map]
  · simp at read

theorem nextName?_placeless {next : Option (String × List Char)}
    (read : nextName? place first rest = .ok next) : nextName? place' first rest = .ok next := by
  unfold nextName? at *
  cases first <;> split at read <;> simp_all
  · split at read <;> simp_all
    exact memberName_placeless read
  · exact memberName_placeless read
  · exact memberName_placeless read

theorem colon_placeless (read : colon place rest = .ok after) : colon place' rest = .ok after := by
  unfold colon at *
  split at read <;> simp_all

theorem itemsFrom_placeless {item : Reader α} (each : Placeless item) {fuel index : Nat}
    {r : List α × List Char} (read : itemsFrom item fuel place index rest = .ok r) :
    itemsFrom item fuel place' index rest = .ok r := by
  induction fuel generalizing index rest r with
  | zero => exact read
  | succ fuel ih =>
    obtain ⟨next, next_eq, read⟩ := steps_of_ok read
    rw [itemsFrom, nextItem?_placeless next_eq]
    cases next with
    | none => exact read
    | some next =>
      obtain ⟨⟨value, left⟩, own, read⟩ := steps_of_ok read
      obtain ⟨⟨others, left'⟩, later, read⟩ := steps_of_ok read
      simpa [bind, Except.bind, each _ _ _ _ own, ih later] using read

theorem items_placeless {item : Reader α} (each : Placeless item) : Placeless (items item) := by
  intro place place' rest r read
  obtain ⟨⟨values, left⟩, list, read⟩ := steps_of_ok read
  obtain ⟨left', close, read⟩ := steps_of_ok read
  simpa [items, bind, Except.bind, itemsFrom_placeless each list, closeList_placeless close] using
    read

theorem membersFrom_placeless {value : Reader Json} (each : Placeless value) {fuel : Nat}
    {known : Members} {r : Members × List Char}
    (read : membersFrom value fuel place first known rest = .ok r) :
    membersFrom value fuel place' first known rest = .ok r := by
  induction fuel generalizing first known rest r with
  | zero => exact read
  | succ fuel ih =>
    obtain ⟨next, next_eq, read⟩ := steps_of_ok read
    rw [membersFrom, nextName?_placeless next_eq]
    cases next with
    | none => exact read
    | some next =>
      obtain ⟨name, left⟩ := next
      obtain ⟨left', colon, read⟩ := steps_of_ok read
      obtain ⟨⟨member, left''⟩, own, read⟩ := steps_of_ok read
      simpa [bind, Except.bind, colon_placeless colon, each _ _ _ _ own] using ih read

theorem valueWithin_placeless (levels : Nat) : Placeless (valueWithin levels) := by
  induction levels with
  | zero =>
    rintro place place' rest ⟨v, after⟩ read
    obtain ⟨found, scanned, noList, noMap, same⟩ | ⟨room, _, _, none, _⟩ | ⟨room, _, _, none, _⟩ :=
      cases_of_valueWithin read
    · exact valueWithin_of_found scanned noList noMap same 0 place'
    · cases none
    · cases none
  | succ levels ih =>
    rintro place place' rest ⟨v, after⟩ read
    obtain ⟨found, scanned, noList, noMap, same⟩ | ⟨room, more, values, one, eq, list, rfl⟩ |
      ⟨room, more, members, one, eq, list, rfl⟩ := cases_of_valueWithin read
    · exact valueWithin_of_found scanned noList noMap same (levels + 1) place'
    · cases one
      simp [valueWithin, eq, items_placeless ih _ place' _ _ list, Except.map]
    · cases one
      simp [valueWithin, eq, membersFrom_placeless ih list, Except.map]

end Reader
end DataSchema.Json
