import DataSchema.Json.Reader
import DataSchema.Proofs.Compilation
import DataSchema.Proofs.Json.WellFormed

/-!
Texts hold values that JSON has. A number that is read fits 64 bits or is a finite float, since a
significand is bounded and powers of ten divide it or are checked after they multiply it; and a
member whose name was there before takes its place.
-/
namespace DataSchema

/-! ## Decimal numbers -/

namespace Scientific

open Binary64 (unitsPerOne overflowUnits roundUnits)

/-- The significand has 64 bits. -/
structure Fits (s : Scientific) : Prop where
  bound : s.significand ≤ largestSignificand

theorem Fits.shift {s : Scientific} (fits : s.Fits) (places : Int) : (s.shift places).Fits :=
  ⟨fits.bound⟩

theorem Fits.push {s longer : Scientific} {digit : Nat} (pushed : s.push? digit = some longer) :
    longer.Fits := by
  simp only [push?] at pushed
  split at pushed
  · next small =>
    cases pushed
    exact ⟨small⟩
  · cases pushed

/-- A power of ten is rounded to a finite number. -/
theorem roundUnits_power_lt {exponent : Nat} (small : exponent ≤ largestPower) :
    roundUnits (10 ^ exponent * unitsPerOne) 1 < overflowUnits := by
  rcases Nat.lt_or_ge exponent largestPower with less | equal
  · have power : 10 ^ exponent ≤ 10 ^ 307 :=
      Nat.pow_le_pow_right (by decide) (Nat.le_of_lt_succ less)
    refine Binary64.roundUnits_whole_lt_overflowUnits ?_
    calc 3 * 10 ^ exponent + 2
        ≤ 3 * 10 ^ 307 + 2 := Nat.add_le_add_right (Nat.mul_le_mul_left 3 power) 2
      _ ≤ 2 ^ 1024 := by decide +kernel
  · -- The largest power is too near to the limit for the bound on rounding.
    obtain rfl := Nat.le_antisymm small equal
    decide +kernel

/-- Powers of ten that divide are finite, and not less than one. -/
theorem power_eq_finite {exponent : Nat} (small : exponent ≤ largestPower) :
    ∃ units, power exponent = .finite false units ∧ unitsPerOne ≤ units := by
  have bound : exponent ≤ 308 := small
  have ratio : power exponent = .ofRatio false (10 ^ exponent * unitsPerOne) 1 := by
    have notLarge : ¬ (400 : Int) < exponent := by omega
    have notTiny : ¬ (Nat.log2 1 : Int) / 3 + exponent < -400 := by omega
    simp [power, Binary64.ofDecimal, notLarge, notTiny]
  refine ⟨_, ratio.trans (Binary64.ofRatio_eq_finite (roundUnits_power_lt small)), ?_⟩
  refine Nat.le_of_dvd (Binary64.roundUnits_pos ?_) (Binary64.unitsPerOne_dvd_roundUnits _)
  rw [Nat.div_one]
  exact Nat.mul_pos (Nat.pow_pos (by decide)) Binary64.unitsPerOne_pos

/-- Division by a power of ten at most triples the units, but for the last one. -/
theorem div_power_eq_finite {exponent units : Nat} (negative : Bool)
    (power_small : exponent ≤ largestPower) (small : 3 * units + 1 < overflowUnits) :
    ∃ quotient, (Binary64.finite negative units).div (power exponent) = .finite negative quotient ∧
      quotient ≤ 3 * units + 1 := by
  obtain ⟨divisor, eq, large⟩ := power_eq_finite power_small
  have positive : 0 < unitsPerOne := Binary64.unitsPerOne_pos
  have bound : roundUnits (units * unitsPerOne) divisor ≤ 3 * units + 1 :=
    calc roundUnits (units * unitsPerOne) divisor
        ≤ 3 * (units * unitsPerOne / divisor) + 1 := Binary64.roundUnits_le _ _
      _ ≤ 3 * (units * unitsPerOne / unitsPerOne) + 1 :=
        Nat.add_le_add_right (Nat.mul_le_mul_left 3 (Nat.div_le_div_left large positive)) 1
      _ = 3 * units + 1 := by rw [Nat.mul_div_cancel units positive]
  refine ⟨roundUnits (units * unitsPerOne) divisor, ?_, bound⟩
  have nonzero : divisor ≠ 0 := by omega
  rw [eq, Binary64.div, if_pos nonzero, Binary64.ofRatio_eq_finite (Nat.lt_of_le_of_lt bound small)]
  simp

/-- Each step leaves room for those after it. -/
theorem isFinite_divided (fuel exponent : Nat) {units : Nat} {negative : Bool}
    (room : (units + 1) * 3 ^ fuel < overflowUnits) :
    (divided fuel (.finite negative units) exponent).isFinite = true := by
  induction fuel generalizing units exponent with
  | zero => rfl
  | succ fuel ih =>
    have step : (units + 1) * 3 ^ (fuel + 1) = (3 * units + 3) * 3 ^ fuel := by
      rw [Nat.pow_succ, Nat.mul_comm (3 ^ fuel) 3, ← Nat.mul_assoc]
      congr 1
      omega
    have small : 3 * units + 1 < overflowUnits :=
      calc 3 * units + 1 < 3 * units + 3 := by omega
        _ ≤ (3 * units + 3) * 3 ^ fuel := Nat.le_mul_of_pos_right _ (Nat.pow_pos (by decide))
        _ < overflowUnits := step ▸ room
    rw [divided]
    split
    · next last =>
      obtain ⟨quotient, eq, -⟩ := div_power_eq_finite negative last small
      rw [eq]
      rfl
    · split
      · rfl
      · obtain ⟨quotient, eq, bound⟩ :=
          div_power_eq_finite negative (Nat.le_refl largestPower) small
        rw [eq]
        refine ih _ (Nat.lt_of_le_of_lt ?_ (step ▸ room))
        exact Nat.mul_le_mul_right _ (by omega)

/-- A significand is a finite number with much room above it. -/
theorem Fits.ofNat_eq_finite {s : Scientific} (fits : s.Fits) :
    ∃ units, Binary64.ofNat s.significand = .finite false units ∧
      (units + 1) * 3 ^ 4 < overflowUnits := by
  have bound : s.significand ≤ 2 ^ 64 - 1 := fits.bound
  have room : (roundUnits (s.significand * unitsPerOne) 1 + 1) * 3 ^ 4 < overflowUnits :=
    calc (roundUnits (s.significand * unitsPerOne) 1 + 1) * 3 ^ 4
        ≤ (3 * s.significand + 2) * unitsPerOne * 3 ^ 4 :=
          Nat.mul_le_mul_right _ (Binary64.roundUnits_whole_lt s.significand)
      _ = (3 * s.significand + 2) * 3 ^ 4 * unitsPerOne := Nat.mul_right_comm _ _ _
      _ < 2 ^ 1024 * unitsPerOne :=
        Nat.mul_lt_mul_of_pos_right (by omega) Binary64.unitsPerOne_pos
      _ ≤ overflowUnits := Binary64.mul_unitsPerOne_le_overflowUnits
  refine ⟨_, Binary64.ofRatio_eq_finite ?_, room⟩
  omega

theorem Fits.isFinite {s : Scientific} (fits : s.Fits) {negative : Bool} {x : Binary64}
    (read : s.toBinary64? negative = some x) : x.isFinite = true := by
  obtain ⟨units, value, room⟩ := fits.ofNat_eq_finite
  have magnitude (y : Binary64) (h : s.magnitude? = some y) : y.isFinite = true := by
    simp only [magnitude?, value] at h
    split at h
    · cases h
      exact isFinite_divided 4 _ room
    · split at h
      · split at h
        · cases h
          assumption
        · cases h
      · split at h
        · cases h
          rfl
        · cases h
  obtain ⟨y, h, rfl⟩ := Option.map_eq_some_iff.mp read
  have finite := magnitude y h
  cases negative with
  | false => exact finite
  | true => cases y <;> exact finite

end Scientific

/-! ## Numbers -/

namespace Json.Scan

open Scientific (Fits)

variable {negative : Bool} {number : Scientific} {rest rest' : List Char} {n : Number}

theorem floatOf_wellFormed (fits : number.Fits)
    (read : floatOf negative number rest = .ok (n, rest')) : n.WellFormed := by
  unfold floatOf at read
  split at read
  · next value found =>
    cases read
    exact .float (fits.isFinite found)
  · cases read

theorem wholeDigits_cons (number : Scientific) (c : Char) (rest : List Char) :
    wholeDigits number (c :: rest) =
      if Text.isDecimal c then
        match number.push? (Text.digitValue c) with
        | some longer => wholeDigits longer rest
        | none =>
          (number.shift (1 + (rest.takeWhile Text.isDecimal).length),
            rest.dropWhile Text.isDecimal)
      else (number, c :: rest) := by rfl

theorem fits_wholeDigits (fits : number.Fits) (rest : List Char) :
    (wholeDigits number rest).1.Fits := by
  induction rest generalizing number with
  | nil => exact fits
  | cons c rest ih =>
    rw [wholeDigits_cons]
    split
    · split
      · next longer pushed => exact ih (.push pushed)
      · exact fits.shift _
    · exact fits

theorem fractionDigits_cons (number : Scientific) (c : Char) (rest : List Char) :
    fractionDigits number (c :: rest) =
      if Text.isDecimal c then
        match number.push? (Text.digitValue c) with
        | some longer => fractionDigits (longer.shift (-1)) rest
        | none => (number, rest.dropWhile Text.isDecimal)
      else (number, c :: rest) := by rfl

theorem fits_fractionDigits (fits : number.Fits) (rest : List Char) :
    (fractionDigits number rest).1.Fits := by
  induction rest generalizing number with
  | nil => exact fits
  | cons c rest ih =>
    rw [fractionDigits_cons]
    split
    · split
      · next longer pushed => exact ih (.shift (.push pushed) _)
      · exact fits
    · exact fits

theorem exponentPart_wellFormed (fits : number.Fits)
    (read : exponentPart negative number rest = .ok (n, rest')) : n.WellFormed := by
  unfold exponentPart at read
  split at read
  split at read
  · cases read
  · split at read
    · cases read
    · split at read
      split at read
      · exact floatOf_wellFormed (fits.shift _) read
      · split at read
        · cases read
          exact .float rfl
        · cases read

theorem fractionPart_wellFormed (fits : number.Fits)
    (read : fractionPart negative number rest = .ok (n, rest')) : n.WellFormed := by
  unfold fractionPart at read
  split at read
  · cases read
  · split at read
    · cases read
    · next c after _ =>
      have digits := fits_fractionDigits fits (c :: after)
      split at read
      next number' after' eq =>
      rw [eq] at digits
      split at read
      · exact exponentPart_wellFormed digits read
      · exact exponentPart_wellFormed digits read
      · exact floatOf_wellFormed digits read

/-- An integer that is read has 64 bits, its sign counted or not. -/
theorem integer?_wellFormed (fits : number.Fits) {value : Int}
    (read : integer? negative number = some value) : (Number.int value).WellFormed := by
  have bound : number.significand ≤ 2 ^ 64 - 1 := fits.bound
  unfold integer? at read
  split at read
  · cases read
  · split at read
    · cases read
      exact .int (by omega) (by omega)
    · split at read
      · cases read
      · next small =>
        cases read
        simp only [Bool.or_eq_true, decide_eq_true_eq, not_or] at small
        exact .int (by omega) (by omega)

theorem number_wellFormed (read : Scan.number negative rest = .ok (n, rest')) : n.WellFormed := by
  have none : Fits ⟨0, 0⟩ := ⟨Nat.zero_le _⟩
  unfold Scan.number at read
  split at read
  · cases read
  · split at read
    · cases read
    · split at read
      · cases read
      · next c after _ _ =>
        have digits := fits_wholeDigits none (c :: after)
        split at read
        next whole after' eq =>
        rw [eq] at digits
        split at read
        · exact fractionPart_wellFormed digits read
        · exact exponentPart_wellFormed digits read
        · exact exponentPart_wellFormed digits read
        · split at read
          · next value found =>
            cases read
            exact integer?_wellFormed digits found
          · exact floatOf_wellFormed digits read

end Json.Scan

/-! ## Values -/

/-- A number that is found in the place of a value is one that JSON has. -/
def Found.WellFormed : Found → Prop
  | .integer value => (Number.int value).WellFormed
  | .float value => (Number.float value).WellFormed
  | _ => True

theorem Found.WellFormed.ofNumber {n : Number} (wellFormed : n.WellFormed) :
    (Found.ofNumber n).WellFormed := by
  cases n with
  | int value => exact wellFormed
  | float value => exact wellFormed

namespace Json

/-- A member that is set is there, and all others are as they were. -/
theorem mem_put {members : Members} {name : String} {value : Json} {member : String × Json}
    (inside : member ∈ put members name value) : member = (name, value) ∨ member ∈ members := by
  induction members with
  | nil => exact .inl (List.mem_singleton.mp inside)
  | cons first rest ih =>
    rw [put] at inside
    split at inside
    · next same =>
      rcases List.mem_cons.mp inside with rfl | inside
      · exact .inl (by rw [beq_iff_eq.mp same])
      · exact .inr (List.mem_cons_of_mem _ inside)
    · rcases List.mem_cons.mp inside with rfl | inside
      · exact .inr List.mem_cons_self
      · exact (ih inside).imp_right (List.mem_cons_of_mem _)

/-- No name comes twice after a member is set. -/
theorem nodup_put {members : Members} (names : (members.map Prod.fst).Nodup) (name : String)
    (value : Json) : ((put members name value).map Prod.fst).Nodup := by
  induction members with
  | nil => exact List.pairwise_singleton _ name
  | cons first rest ih =>
    obtain ⟨fresh, names⟩ := List.nodup_cons.mp names
    rw [put]
    split
    · exact List.nodup_cons.mpr ⟨fresh, names⟩
    · next other =>
      refine List.nodup_cons.mpr ⟨fun inside => ?_, ih names⟩
      obtain ⟨member, inside, same⟩ := List.mem_map.mp inside
      rcases mem_put inside with rfl | inside
      · exact other (beq_iff_eq.mpr same.symm)
      · exact fresh (same ▸ List.mem_map_of_mem inside)

/-- What is made of a success was one. -/
theorem ok_of_map {ε α β : Type} {f : α → β} {result : Except ε α} {b : β}
    (mapped : result.map f = .ok b) : ∃ a, result = .ok a ∧ f a = b := by
  cases result with
  | error e => cases mapped
  | ok a => exact ⟨a, rfl, by cases mapped; rfl⟩

theorem ok_of_mapError {ε ε' α : Type} {f : ε → ε'} {result : Except ε α} {a : α}
    (mapped : result.mapError f = .ok a) : result = .ok a := by
  cases result with
  | error e => cases mapped
  | ok own => cases mapped; rfl

theorem Scan.wellFormed_of_found {rest rest' : List Char} {found : Found}
    (read : Scan.found rest = .ok (found, rest')) : found.WellFormed := by
  unfold Scan.found at read
  split at read
  · obtain ⟨_, -, eq⟩ := ok_of_map read
    cases eq
    trivial
  · obtain ⟨_, -, eq⟩ := ok_of_map read
    cases eq
    trivial
  · obtain ⟨_, -, eq⟩ := ok_of_map read
    cases eq
    trivial
  · obtain ⟨_, scanned, eq⟩ := ok_of_map read
    cases eq
    exact Found.WellFormed.ofNumber (number_wellFormed scanned)
  · obtain ⟨_, -, eq⟩ := ok_of_map read
    cases eq
    trivial
  · cases read
    trivial
  · cases read
    trivial
  · split at read
    · obtain ⟨_, scanned, eq⟩ := ok_of_map read
      cases eq
      exact Found.WellFormed.ofNumber (number_wellFormed scanned)
    · cases read
  · cases read

namespace Reader

/-- All that a reader reads is of a kind. -/
def Yields {α : Type} (P : α → Prop) (reader : Reader α) : Prop :=
  ∀ place rest x rest', reader place rest = .ok (x, rest') → P x

theorem yields_scalar {α : Type} {P : α → Prop} {decide : Found → Except Mismatch α}
    (each : ∀ found x, found.WellFormed → decide found = .ok x → P x) :
    Yields P (scalar decide) := by
  intro place rest x rest' read
  obtain ⟨⟨found, after⟩, scanned, read⟩ := steps_of_ok read
  have well : found.WellFormed := Scan.wellFormed_of_found (ok_of_mapError scanned)
  dsimp only at read
  cases chosen : decide found with
  | error mismatch => rw [chosen] at read; cases read
  | ok value =>
    rw [chosen] at read
    cases read
    exact each found x well chosen

theorem yields_scalarValue : Yields WellFormed scalarValue := by
  refine yields_scalar fun found x well read => ?_
  cases found with
  | integer value => cases read; exact .number well
  | float value => cases read; exact .number well
  | null => cases read; exact .null
  | bool value => cases read; exact .bool
  | string value => cases read; exact .string
  | list => cases read; exact .null
  | map => cases read; exact .null

theorem wellFormed_of_itemsFrom {item : Reader Json} (each : Yields WellFormed item)
    {fuel index : Nat} {place : Place} {rest rest' : List Char} {values : List Json}
    (read : itemsFrom item fuel place index rest = .ok (values, rest')) :
    ∀ v ∈ values, v.WellFormed := by
  induction fuel generalizing index rest values with
  | zero =>
    cases read
    simp
  | succ fuel ih =>
    obtain ⟨next, -, read⟩ := steps_of_ok read
    cases next with
    | none =>
      cases read
      simp
    | some rest =>
      obtain ⟨⟨value, after⟩, first, read⟩ := steps_of_ok read
      obtain ⟨⟨others, after'⟩, later, read⟩ := steps_of_ok read
      cases read
      exact List.forall_mem_cons.mpr ⟨each _ _ _ _ first, ih later⟩

/-- Members that have been read, no name twice and each value one that JSON has. -/
theorem wellFormed_of_membersFrom {value : Reader Json} (each : Yields WellFormed value)
    {fuel : Nat} {place : Place} {first : Bool} {known members : Members} {rest rest' : List Char}
    (wellFormed : (Json.object known).WellFormed)
    (read : membersFrom value fuel place first known rest = .ok (members, rest')) :
    (Json.object members).WellFormed := by
  induction fuel generalizing first known rest with
  | zero =>
    cases read
    exact wellFormed
  | succ fuel ih =>
    obtain ⟨next, -, read⟩ := steps_of_ok read
    cases next with
    | none =>
      cases read
      exact wellFormed
    | some named =>
      obtain ⟨name, rest⟩ := named
      obtain ⟨after, -, read⟩ := steps_of_ok read
      obtain ⟨⟨member, after'⟩, own, read⟩ := steps_of_ok read
      refine ih ?_ read
      cases wellFormed with
      | object names all =>
        refine .object (nodup_put names name member) fun entry inside => ?_
        rcases mem_put inside with rfl | inside
        · exact each _ _ _ _ own
        · exact all entry inside

/-- Whatever the depth that is allowed, a value that is read is one that JSON has. -/
theorem yields_valueWithin (levels : Nat) : Yields WellFormed (valueWithin levels) := by
  induction levels with
  | zero =>
    intro place rest v rest' read
    simp only [valueWithin] at read
    split at read
    · cases read
    · cases read
    · exact yields_scalarValue _ _ _ _ read
  | succ levels ih =>
    intro place rest v rest' read
    simp only [valueWithin] at read
    split at read
    · obtain ⟨⟨values, after⟩, list, eq⟩ := ok_of_map read
      cases eq
      obtain ⟨⟨values, after⟩, items, list⟩ := steps_of_ok list
      obtain ⟨after', -, list⟩ := steps_of_ok list
      cases list
      exact .array (wellFormed_of_itemsFrom ih items)
    · obtain ⟨⟨members, after⟩, list, eq⟩ := ok_of_map read
      cases eq
      exact wellFormed_of_membersFrom ih (.object (by simp) (by simp)) list
    · exact yields_scalarValue _ _ _ _ read

/-- A value at the beginning of a text is one that JSON has. -/
theorem wellFormed_of_atStart {source : String} {v : Json} (read : atStart value source = .ok v) :
    v.WellFormed := by
  obtain ⟨⟨own, rest⟩, begun, eq⟩ := ok_of_map (ok_of_mapError read)
  cases eq
  exact yields_valueWithin _ _ _ _ _ begun

/-- A text that holds a value and nothing else holds one that JSON has. -/
theorem wellFormed_of_whole {room : Nat} {source : String} {v : Json}
    (read : whole value room source = .ok v) : v.WellFormed := by
  obtain ⟨⟨own, rest⟩, read, last⟩ := steps_of_ok (ok_of_mapError read)
  dsimp only at last
  split at last
  · cases last
    exact yields_valueWithin _ _ _ _ _ read
  · cases last

end Reader
end Json
end DataSchema
