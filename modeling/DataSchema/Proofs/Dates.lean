import DataSchema.Text.Format
import Mathlib

/-!
Texts that are accepted as dates.

A date is read leniently and must have ten bytes. A full date is accepted, and so is what else the
reader takes in ten bytes: white space before a number and a sign before the year make up for
digits that are missing. Without white space and sign only full dates are left.

Days are those of the library's calendar, which is the proleptic Gregorian one.
-/
namespace DataSchema.Text

open Std.Time Unicode

/-! ## The calendar -/

/-- A day of the proleptic Gregorian calendar. -/
def RealDay (year : Int) (month day : Nat) : Prop :=
  ∃ date : PlainDate, date.year.toInt = year ∧ date.month.val = month ∧ date.day.val = day

theorem isLeapYear_eq (year : Year.Offset) : isLeapYear year.toInt = year.isLeap := by
  simp only [isLeapYear, Year.Offset.isLeap, ne_eq, ← Int.dvd_iff_emod_eq_zero,
    ← Int.dvd_iff_tmod_eq_zero]
  grind

theorem days_eq (year : Year.Offset) (month : Month.Ordinal) :
    (month.days year.isLeap).val = monthLength year.toInt month.val.toNat := by
  unfold monthLength
  rw [isLeapYear_eq]
  obtain ⟨month, least, most⟩ := month
  interval_cases month <;> cases year.isLeap <;> rfl

theorem valid_iff {year : Year.Offset} {month : Month.Ordinal} {day : Day.Ordinal} :
    year.Valid month day ↔ day.val ≤ monthLength year.toInt month.val.toNat := by
  rw [← days_eq]
  rfl

theorem monthLength_le (year : Int) (month : Nat) : monthLength year month ≤ 31 := by
  unfold monthLength
  split
  · split <;> omega
  all_goals omega

theorem isDay_iff {year : Int} {month day : Nat} :
    isDay year month day = true ↔ RealDay year month day := by
  simp only [isDay, Bool.and_eq_true, decide_eq_true_eq, and_assoc]
  constructor
  · rintro ⟨leastMonth, mostMonth, leastDay, fits⟩
    have mostDay := monthLength_le year month
    refine ⟨⟨.ofInt year, .ofInt month (by omega), .ofInt day (by omega), ?_⟩, rfl, rfl, rfl⟩
    exact valid_iff.mpr (Int.ofNat_le.mpr fits)
  · rintro ⟨⟨givenYear, ⟨givenMonth, ofYear⟩, ⟨givenDay, ofMonth⟩, valid⟩, rfl, rfl, rfl⟩
    have fits : day ≤ monthLength givenYear.toInt month := by
      simpa using valid_iff.mp valid
    exact ⟨by omega, by omega, by omega, fits⟩

/-! ## White space -/

theorem isDecimal_iff {c : Char} : isDecimal c = true ↔ 0x30 ≤ c.toNat ∧ c.toNat ≤ 0x39 := by
  simp only [isDecimal, Bool.and_eq_true, decide_eq_true_eq]
  rfl

/-- The row of white space in the table of properties. -/
theorem whiteSpace_eq : whiteSpace = ⟨[(0x9, 0xD), (0x20, 0x20), (0x85, 0x85), (0xA0, 0xA0),
    (0x1680, 0x1680), (0x2000, 0x200A), (0x2028, 0x2029), (0x202F, 0x202F), (0x205F, 0x205F),
    (0x3000, 0x3000)]⟩ := by
  decide +kernel

theorem isWhiteSpace_of_visible {c : Char} (above : 0x20 < c.toNat) (below : c.toNat < 0x85) :
    isWhiteSpace c = false := by
  rw [isWhiteSpace, whiteSpace_eq]
  simp only [CodeSet.holds, CodeSet.inRanges]
  grind

theorem isWhiteSpace_of_isDecimal {c : Char} (decimal : isDecimal c = true) :
    isWhiteSpace c = false := by
  rw [isDecimal_iff] at decimal
  exact isWhiteSpace_of_visible (by omega) (by omega)

theorem skipWhite_append {blank rest : List Char} (white : ∀ c ∈ blank, isWhiteSpace c = true)
    (ends : ∀ c ∈ rest.head?, isWhiteSpace c = false) : skipWhite (blank ++ rest) = rest := by
  rw [skipWhite, List.dropWhile_append_of_pos white]
  cases rest with
  | nil => rfl
  | cons c rest => exact List.dropWhile_cons_of_neg (by simp [ends c rfl])

theorem exists_skipWhite (cs : List Char) :
    ∃ blank, (∀ c ∈ blank, isWhiteSpace c = true) ∧ cs = blank ++ skipWhite cs :=
  ⟨cs.takeWhile isWhiteSpace, List.all_eq_true.mp List.all_takeWhile,
    List.takeWhile_append_dropWhile.symm⟩

/-! ## Numbers -/

/-- From `least` to `most` digits. -/
structure Numeral (least most : Nat) (digits : List Char) : Prop where
  decimal : ∀ c ∈ digits, isDecimal c = true
  least_le : least ≤ digits.length
  le_most : digits.length ≤ most

theorem Numeral.exact {least most : Nat} {digits : List Char}
    (numeral : Numeral least most digits) : Numeral least digits.length digits :=
  ⟨numeral.decimal, numeral.least_le, Nat.le_refl _⟩

theorem Numeral.mono {least most more : Nat} {digits : List Char}
    (numeral : Numeral least most digits) (le : most ≤ more) : Numeral least more digits :=
  ⟨numeral.decimal, numeral.least_le, numeral.le_most.trans le⟩

/-- A number ends where no digit follows. -/
theorem number?_append {least most : Nat} {digits rest : List Char}
    (numeral : Numeral least most digits) (ends : ∀ c ∈ rest.head?, isDecimal c = false) :
    number? least most (digits ++ rest) = some (ofDecimalDigits digits, rest) := by
  have stops : (rest.take (most - digits.length)).takeWhile isDecimal = [] := by
    cases rest with
    | nil => simp
    | cons c rest =>
      cases most - digits.length with
      | zero => rfl
      | succ room => simp [ends c rfl]
  have taken : ((digits ++ rest).take most).takeWhile isDecimal = digits := by
    rw [List.take_append, List.take_of_length_le numeral.le_most,
      List.takeWhile_append_of_pos numeral.decimal, stops, List.append_nil]
  simp only [number?, taken, Nat.not_lt.mpr numeral.least_le, if_false, List.drop_left]

theorem exists_of_number? {least most n : Nat} {cs rest : List Char}
    (read : number? least most cs = some (n, rest)) :
    ∃ digits, Numeral least most digits ∧ cs = digits ++ rest ∧ n = ofDecimalDigits digits := by
  simp only [number?, Option.ite_none_left_eq_some, Nat.not_lt, Option.some.injEq,
    Prod.mk.injEq] at read
  obtain ⟨enough, rfl, rfl⟩ := read
  have begins : (cs.take most).takeWhile isDecimal <+: cs :=
    (List.takeWhile_prefix _).trans (List.take_prefix _ _)
  refine ⟨(cs.take most).takeWhile isDecimal, ⟨?_, enough, ?_⟩, ?_, rfl⟩
  · exact List.all_eq_true.mp List.all_takeWhile
  · exact (List.takeWhile_prefix _).length_le.trans (List.length_take_le _ _)
  · exact (List.prefix_iff_eq_append.mp begins).symm

/-- What begins with a digit. -/
theorem Numeral.isDecimal_head {least most : Nat} {digits rest : List Char}
    (numeral : Numeral least most digits) (positive : 0 < least) :
    ∀ c ∈ (digits ++ rest).head?, isDecimal c = true := by
  cases digits with
  | nil => exact absurd numeral.least_le (Nat.not_le.mpr positive)
  | cons d digits =>
    rintro c ⟨⟩
    exact numeral.decimal _ List.mem_cons_self

theorem Numeral.isWhiteSpace_head {least most : Nat} {digits rest : List Char}
    (numeral : Numeral least most digits) (positive : 0 < least) :
    ∀ c ∈ (digits ++ rest).head?, isWhiteSpace c = false := fun c here =>
  isWhiteSpace_of_isDecimal (numeral.isDecimal_head positive c here)

/-- White space before a number is passed over. -/
theorem number?_skipWhite {least most : Nat} {blank digits rest : List Char}
    (white : ∀ c ∈ blank, isWhiteSpace c = true) (numeral : Numeral least most digits)
    (positive : 0 < least) (ends : ∀ c ∈ rest.head?, isDecimal c = false) :
    number? least most (skipWhite (blank ++ (digits ++ rest))) =
      some (ofDecimalDigits digits, rest) := by
  rw [skipWhite_append white (numeral.isWhiteSpace_head positive), number?_append numeral ends]

/-! ## Years -/

/-- A year as the reader takes it: up to four digits, or a sign and digits without limit. -/
inductive YearText : List Char → Int → Prop where
  | plain {digits : List Char} (numeral : Numeral 1 4 digits) :
      YearText digits (ofDecimalDigits digits)
  | plus {digits : List Char} (numeral : Numeral 1 digits.length digits) :
      YearText ('+' :: digits) (ofDecimalDigits digits)
  | minus {digits : List Char} (numeral : Numeral 1 digits.length digits) :
      YearText ('-' :: digits) (-ofDecimalDigits digits)

theorem YearText.isWhiteSpace_head {text rest : List Char} {year : Int}
    (ofYear : YearText text year) : ∀ c ∈ (text ++ rest).head?, isWhiteSpace c = false := by
  cases ofYear with
  | plain numeral => exact numeral.isWhiteSpace_head Nat.one_pos
  | plus | minus =>
    rintro c ⟨⟩
    exact isWhiteSpace_of_visible (by decide) (by decide)

theorem year?_append {blank text rest : List Char} {year : Int}
    (white : ∀ c ∈ blank, isWhiteSpace c = true) (ofYear : YearText text year)
    (ends : ∀ c ∈ rest.head?, isDecimal c = false) :
    year? (blank ++ (text ++ rest)) = some (year, rest) := by
  rw [year?, skipWhite_append white ofYear.isWhiteSpace_head]
  cases ofYear with
  | plain numeral =>
    have first : ∀ c ∈ (text ++ rest).head?, isDecimal c = true :=
      numeral.isDecimal_head Nat.one_pos
    have read := number?_append numeral ends
    split
    case h_1 signed => simp [signed, isDecimal_iff] at first
    case h_2 signed => simp [signed, isDecimal_iff] at first
    case h_3 => rw [read]; rfl
  | @plus digits numeral | @minus digits numeral =>
    have fits : digits.length ≤ (digits ++ rest).length := by simp
    have read := number?_append (numeral.mono fits) ends
    simp only [List.cons_append, read]
    rfl

theorem exists_of_map_number? {least most : Nat} {cs rest : List Char} {year : Int}
    (signed : Nat → Int)
    (read : ((number? least most cs).map fun (n, rest) => (signed n, rest)) = some (year, rest)) :
    ∃ digits, Numeral least most digits ∧ cs = digits ++ rest ∧
      year = signed (ofDecimalDigits digits) := by
  obtain ⟨⟨n, after⟩, readNumber, found⟩ := Option.map_eq_some_iff.mp read
  obtain ⟨rfl, rfl⟩ := Prod.mk.inj found
  obtain ⟨digits, numeral, split, rfl⟩ := exists_of_number? readNumber
  exact ⟨digits, numeral, split, rfl⟩

theorem exists_of_year? {cs rest : List Char} {year : Int} (read : year? cs = some (year, rest)) :
    ∃ blank text, (∀ c ∈ blank, isWhiteSpace c = true) ∧ YearText text year ∧
      cs = blank ++ (text ++ rest) := by
  obtain ⟨blank, white, split⟩ := exists_skipWhite cs
  rw [split]
  rw [year?] at read
  split at read
  case h_1 afterSign skipped =>
    obtain ⟨digits, numeral, rfl, rfl⟩ := exists_of_map_number? (fun n => -(n : Int)) read
    exact ⟨blank, '-' :: digits, white, .minus numeral.exact, by rw [skipped]; rfl⟩
  case h_2 afterSign skipped =>
    obtain ⟨digits, numeral, rfl, rfl⟩ := exists_of_map_number? Nat.cast read
    exact ⟨blank, '+' :: digits, white, .plus numeral.exact, by rw [skipped]; rfl⟩
  case h_3 =>
    obtain ⟨digits, numeral, skipped, rfl⟩ := exists_of_map_number? Nat.cast read
    exact ⟨blank, digits, white, .plain numeral, by rw [skipped]⟩

/-! ## Dates -/

/-- Year, month and day with hyphens between them, which name a day of the calendar, and white
space before each. -/
inductive LenientDate : List Char → Prop where
  | intro {blank₁ blank₂ blank₃ yearText month day : List Char} {year : Int}
      (white : ∀ c ∈ blank₁ ++ (blank₂ ++ blank₃), isWhiteSpace c = true)
      (ofYear : YearText yearText year) (ofMonth : Numeral 1 2 month) (ofDay : Numeral 1 2 day)
      (real : RealDay year (ofDecimalDigits month) (ofDecimalDigits day)) :
      LenientDate (blank₁ ++ (yearText ++ '-' :: (blank₂ ++ (month ++
        '-' :: (blank₃ ++ day)))))

theorem mark?_eq_some_iff {c : Char} {cs rest : List Char} :
    mark? c cs = some rest ↔ cs = c :: rest := by
  cases cs with
  | nil => simp [mark?]
  | cons d cs => simp [mark?]

/-- The reader goes on from what each part leaves. -/
theorem lenientDate_eq_true_iff {cs : List Char} :
    lenientDate cs = true ↔ ∃ year afterYear atMonth month afterMonth atDay day,
      year? cs = some (year, afterYear) ∧ mark? '-' afterYear = some atMonth ∧
        number? 1 2 (skipWhite atMonth) = some (month, afterMonth) ∧
        mark? '-' afterMonth = some atDay ∧ number? 1 2 (skipWhite atDay) = some (day, []) ∧
        isDay year month day = true := by
  simp only [lenientDate, Option.getD_eq_iff, Option.bind_eq_bind, Option.bind_eq_some_iff,
    Option.pure_def, Option.some.injEq, Bool.and_eq_true, List.isEmpty_iff, Prod.exists,
    reduceCtorEq, and_false, or_false]
  grind

theorem lenientDate_iff {cs : List Char} : lenientDate cs = true ↔ LenientDate cs := by
  rw [lenientDate_eq_true_iff]
  constructor
  · rintro ⟨year, afterYear, atMonth, month, afterMonth, atDay, day, readYear, markYear, readMonth,
      markMonth, readDay, real⟩
    rw [mark?_eq_some_iff] at markYear markMonth
    obtain ⟨blank₁, yearText, white₁, ofYear, rfl⟩ := exists_of_year? readYear
    obtain ⟨blank₂, white₂, split₂⟩ := exists_skipWhite atMonth
    obtain ⟨monthText, ofMonth, skipped₂, rfl⟩ := exists_of_number? readMonth
    obtain ⟨blank₃, white₃, split₃⟩ := exists_skipWhite atDay
    obtain ⟨dayText, ofDay, skipped₃, rfl⟩ := exists_of_number? readDay
    rw [List.append_nil] at skipped₃
    rw [markYear, split₂, skipped₂, markMonth, split₃, skipped₃]
    refine .intro ?_ ofYear ofMonth ofDay (isDay_iff.mp real)
    simp only [List.forall_mem_append]
    exact ⟨white₁, white₂, white₃⟩
  · rintro @⟨blank₁, blank₂, blank₃, yearText, monthText, dayText, year, white, ofYear, ofMonth,
      ofDay, real⟩
    simp only [List.forall_mem_append] at white
    obtain ⟨white₁, white₂, white₃⟩ := white
    have hyphen (rest : List Char) : ∀ c ∈ ('-' :: rest).head?, isDecimal c = false := by
      rintro c ⟨⟩
      decide
    have readYear := year?_append white₁ ofYear
      (hyphen (blank₂ ++ (monthText ++ '-' :: (blank₃ ++ dayText))))
    have readMonth := number?_skipWhite white₂ ofMonth Nat.one_pos (hyphen (blank₃ ++ dayText))
    have readDay : number? 1 2 (skipWhite (blank₃ ++ (dayText ++ []))) =
        some (ofDecimalDigits dayText, []) :=
      number?_skipWhite white₃ ofDay Nat.one_pos (by simp)
    rw [List.append_nil] at readDay
    exact ⟨_, _, _, _, _, _, _, readYear, mark?_eq_some_iff.mpr rfl, readMonth,
      mark?_eq_some_iff.mpr rfl, readDay, isDay_iff.mpr real⟩

theorem isDate_iff {s : String} :
    isDate s = true ↔ s.utf8ByteSize = 10 ∧ LenientDate s.toList := by
  rw [isDate, Bool.and_eq_true, beq_iff_eq, lenientDate_iff]

/-! ## Full dates -/

/-- Four digits, two and two with hyphens between them, which name a day of the calendar. -/
inductive FullDate : List Char → Prop where
  | intro {year month day : List Char} (ofYear : Numeral 4 4 year) (ofMonth : Numeral 2 2 month)
      (ofDay : Numeral 2 2 day)
      (real : RealDay (ofDecimalDigits year) (ofDecimalDigits month) (ofDecimalDigits day)) :
      FullDate (year ++ '-' :: (month ++ '-' :: day))

theorem FullDate.lenient {cs : List Char} (full : FullDate cs) : LenientDate cs := by
  obtain @⟨year, month, day, ofYear, ofMonth, ofDay, real⟩ := full
  have less {least digits} (numeral : Numeral least least digits) (positive : 1 ≤ least) :
      Numeral 1 least digits :=
    ⟨numeral.decimal, positive.trans numeral.least_le, numeral.le_most⟩
  have white : ∀ c ∈ ([] ++ ([] ++ []) : List Char), isWhiteSpace c = true := by simp
  exact .intro white (.plain (less ofYear (by decide))) (less ofMonth (by decide))
    (less ofDay (by decide)) real

theorem utf8Size_of_isDecimal {c : Char} (decimal : isDecimal c = true) : c.utf8Size = 1 := by
  rw [isDecimal_iff] at decimal
  exact Char.utf8Size_eq_one_iff.mpr (UInt32.le_iff_toNat_le.mpr (decimal.2.trans (by decide)))

theorem Numeral.utf8Len_eq {least most : Nat} {digits : List Char}
    (numeral : Numeral least most digits) : String.utf8Len digits = digits.length := by
  have decimal := numeral.decimal
  clear numeral
  induction digits with
  | nil => rfl
  | cons c digits ih =>
    rw [List.forall_mem_cons] at decimal
    rw [String.utf8Len_cons, ih decimal.2, utf8Size_of_isDecimal decimal.1, List.length_cons]

theorem utf8ByteSize_eq (s : String) : s.utf8ByteSize = String.utf8Len s.toList := by
  rw [← String.utf8ByteSize_ofList, String.ofList_toList]

theorem Numeral.length_eq {length : Nat} {digits : List Char}
    (numeral : Numeral length length digits) : digits.length = length :=
  Nat.le_antisymm numeral.le_most numeral.least_le

/-- Without white space and sign there is a byte for each digit and hyphen. -/
theorem utf8Len_parts {a b c d e f : Nat} {year month day : List Char} (ofYear : Numeral a b year)
    (ofMonth : Numeral c d month) (ofDay : Numeral e f day) :
    String.utf8Len (year ++ '-' :: (month ++ '-' :: day)) =
      year.length + month.length + day.length + 2 := by
  have hyphen : ('-').utf8Size = 1 := by decide
  simp only [String.utf8Len_append, String.utf8Len_cons, ofYear.utf8Len_eq, ofMonth.utf8Len_eq,
    ofDay.utf8Len_eq, hyphen]
  omega

theorem FullDate.utf8Len_eq {cs : List Char} (full : FullDate cs) : String.utf8Len cs = 10 := by
  obtain ⟨ofYear, ofMonth, ofDay, real⟩ := full
  rw [utf8Len_parts ofYear ofMonth ofDay, ofYear.length_eq, ofMonth.length_eq, ofDay.length_eq]

/-- Ten bytes leave no room for a shorter number. -/
theorem LenientDate.full {cs : List Char} (lenient : LenientDate cs)
    (size : String.utf8Len cs = 10) (dense : ∀ c ∈ cs, isWhiteSpace c = false)
    (unsigned : ∀ c ∈ cs.head?, c ≠ '+' ∧ c ≠ '-') : FullDate cs := by
  obtain @⟨blank₁, blank₂, blank₃, yearText, month, day, year, white, ofYear, ofMonth, ofDay,
    real⟩ := lenient
  have noBlank {blank : List Char} (white : ∀ c ∈ blank, isWhiteSpace c = true)
      (dense : ∀ c ∈ blank, isWhiteSpace c = false) : blank = [] := by
    refine List.eq_nil_iff_forall_not_mem.mpr fun c here => ?_
    have := (white c here).symm.trans (dense c here)
    contradiction
  simp only [List.forall_mem_append, List.forall_mem_cons] at white dense
  obtain ⟨white₁, white₂, white₃⟩ := white
  obtain ⟨dense₁, -, -, dense₂, -, -, dense₃, -⟩ := dense
  obtain rfl := noBlank white₁ dense₁
  obtain rfl := noBlank white₂ dense₂
  obtain rfl := noBlank white₃ dense₃
  simp only [List.nil_append] at size unsigned ⊢
  cases ofYear with
  | plus | minus => simp at unsigned
  | plain ofYear =>
    rw [utf8Len_parts ofYear ofMonth ofDay] at size
    have atYear := ofYear.le_most
    have atMonth := ofMonth.le_most
    have atDay := ofDay.le_most
    exact .intro ⟨ofYear.decimal, by omega, atYear⟩ ⟨ofMonth.decimal, by omega, atMonth⟩
      ⟨ofDay.decimal, by omega, atDay⟩ real

theorem FullDate.head {cs : List Char} (full : FullDate cs) :
    ∀ c ∈ cs.head?, isDecimal c = true := by
  obtain ⟨ofYear, ofMonth, ofDay, real⟩ := full
  exact ofYear.isDecimal_head (by decide)

theorem FullDate.dense {cs : List Char} (full : FullDate cs) :
    ∀ c ∈ cs, isWhiteSpace c = false := by
  obtain ⟨ofYear, ofMonth, ofDay, real⟩ := full
  have hyphen : isWhiteSpace '-' = false := isWhiteSpace_of_visible (by decide) (by decide)
  simp only [List.forall_mem_append, List.forall_mem_cons]
  exact ⟨fun c here => isWhiteSpace_of_isDecimal (ofYear.decimal c here), hyphen,
    fun c here => isWhiteSpace_of_isDecimal (ofMonth.decimal c here), hyphen,
    fun c here => isWhiteSpace_of_isDecimal (ofDay.decimal c here)⟩

end DataSchema.Text

namespace DataSchema.TextFormat

open Text

/-- **A date is accepted if it is read leniently and has ten bytes.** Among the accepted texts the
full dates are those without white space and without a sign. -/
theorem accepted_dates (s : String) :
    (TextFormat.date.accepts s = true ↔ s.utf8ByteSize = 10 ∧ LenientDate s.toList) ∧
      (FullDate s.toList ↔ TextFormat.date.accepts s = true ∧
        (∀ c ∈ s.toList, Unicode.isWhiteSpace c = false) ∧
        (∀ c ∈ s.toList.head?, c ≠ '+' ∧ c ≠ '-')) := by
  refine ⟨isDate_iff, ?_, ?_⟩
  · intro full
    refine ⟨isDate_iff.mpr ⟨(utf8ByteSize_eq s).trans full.utf8Len_eq, full.lenient⟩, full.dense,
      fun c first => ?_⟩
    have decimal := isDecimal_iff.mp (full.head c first)
    constructor <;> rintro rfl <;> simp at decimal
  · rintro ⟨accepted, dense, unsigned⟩
    obtain ⟨size, lenient⟩ := isDate_iff.mp accepted
    exact lenient.full ((utf8ByteSize_eq s).symm.trans size) dense unsigned

/-- The sign of a year stands for the missing digit of the month. -/
theorem signed_year_is_accepted :
    TextFormat.date.accepts "+2024-1-01" = true ∧ ¬FullDate "+2024-1-01".toList := by
  have text : "+2024-1-01".toList =
      [] ++ (['+', '2', '0', '2', '4'] ++ '-' :: ([] ++ (['1'] ++ '-' :: ([] ++ ['0', '1'])))) := by
    decide +kernel
  have year : Numeral 1 4 ['2', '0', '2', '4'] := ⟨by simp [isDecimal], by decide, by decide⟩
  have month : Numeral 1 2 ['1'] := ⟨by simp [isDecimal], by decide, by decide⟩
  have day : Numeral 1 2 ['0', '1'] := ⟨by simp [isDecimal], by decide, by decide⟩
  have real : RealDay (ofDecimalDigits ['2', '0', '2', '4']) (ofDecimalDigits ['1'])
      (ofDecimalDigits ['0', '1']) := isDay_iff.mp (by decide +kernel)
  have lenient : LenientDate "+2024-1-01".toList := by
    rw [text]
    exact .intro (by simp) (.plus year) month day real
  refine ⟨isDate_iff.mpr ⟨by decide +kernel, lenient⟩, fun full => ?_⟩
  have decimal := full.head '+' (by rw [text]; rfl)
  exact absurd decimal (by decide)

end DataSchema.TextFormat
