import DataSchema.CommandLine.Validate
import DataSchema.Proofs.Identifiers
import DataSchema.Proofs.Json.Pointers
import DataSchema.Proofs.Json.Read
import Mathlib.Data.List.Forall2

/-!
The instances of inputs. Every input stands for paths, and the file of a path has one value or a
value on each line that is not blank. What is loaded in a file tree are these values, or what a
pointer selects in them, in the order of the paths and lines.
-/
namespace DataSchema

theorem bind_eq_ok_iff {ε α β : Type} {first : Except ε α} {next : α → Except ε β} {result : β} :
    first.bind next = .ok result ↔ ∃ x, first = .ok x ∧ next x = .ok result :=
  ⟨steps_of_ok, fun ⟨_, done, rest⟩ => done ▸ rest⟩

theorem mapM_eq_ok_iff {ε α β : Type} {f : α → Except ε β} {xs : List α} {ys : List β} :
    xs.mapM f = .ok ys ↔ List.Forall₂ (fun x y => f x = .ok y) xs ys := by
  induction xs generalizing ys with
  | nil => simp [pure, Except.pure, eq_comm]
  | cons x xs ih =>
    have steps : (x :: xs).mapM f =
        (f x).bind fun y => (xs.mapM f).bind fun ys => .ok (y :: ys) := List.mapM_cons
    simp only [steps, bind_eq_ok_iff, ih, List.forall₂_cons_left_iff, Except.ok.injEq]
    constructor
    · rintro ⟨y, first, rest, each, rfl⟩
      exact ⟨y, rest, first, each, rfl⟩
    · rintro ⟨y, rest, first, each, rfl⟩
      exact ⟨y, first, rest, each, rfl⟩

namespace CommandLine

/-! ## Work that reads files -/

section Work

variable {α β : Type} {tree : FileTree}

/-- What work gives in a file tree. -/
def resultIn (tree : FileTree) (work : Attempt (ReaderM FileTree) α) : Except String α :=
  work.run.run tree

@[simp] theorem resultIn_pure (x : α) : resultIn tree (pure x) = .ok x := rfl

@[simp] theorem resultIn_throw (reason : String) :
    resultIn tree (throw reason : Attempt (ReaderM FileTree) α) = .error reason := rfl

@[simp] theorem resultIn_liftExcept (result : Except String α) :
    resultIn tree (liftExcept result) = result := by
  cases result <;> rfl

@[simp] theorem resultIn_liftM (read : ReaderM FileTree α) :
    resultIn tree (liftM read) = .ok (read.run tree) := rfl

@[simp] theorem resultIn_bind (work : Attempt (ReaderM FileTree) α)
    (next : α → Attempt (ReaderM FileTree) β) :
    resultIn tree (work >>= next) = (resultIn tree work).bind fun x => resultIn tree (next x) := by
  have steps : resultIn tree (work >>= next) =
    (ExceptT.bindCont next (work.run.run tree) : ReaderM FileTree (Except String β)).run tree := rfl
  rw [steps, resultIn]
  cases work.run.run tree <;> rfl

@[simp] theorem resultIn_mapM (work : α → Attempt (ReaderM FileTree) β) (xs : List α) :
    resultIn tree (xs.mapM work) = xs.mapM fun x => resultIn tree (work x) := by
  induction xs with
  | nil => rfl
  | cons x xs ih =>
    simp only [List.mapM_cons, resultIn_bind, resultIn_pure, ih]
    rfl

@[simp] theorem explain_eq_ok_iff {ε : Type} {tried : String} {reason : ε → String}
    {result : Except ε α} {x : α} : explain tried reason result = .ok x ↔ result = .ok x := by
  cases result <;> simp [explain, Except.mapError]

theorem readSource_eq_ok_iff {path text : String} :
    resultIn tree (readSource path) = .ok text ↔ tree.read path = .ok text := by
  simp only [readSource, resultIn_bind, resultIn_liftM, resultIn_liftExcept]
  exact explain_eq_ok_iff

end Work

/-! ## Lines -/

/-- The lines of a text. A line feed ends a line, with a carriage return before it or without, and
what follows the last one is a line unless nothing follows. -/
inductive Lines : List Char → List (List Char) → Prop
  | none : Lines [] []
  | last {line} (some : line ≠ []) (whole : '\n' ∉ line) : Lines line [line]
  | fed {line rest lines} (whole : '\n' ∉ line) (plain : line.getLast? ≠ some '\r')
      (more : Lines rest lines) : Lines (line ++ '\n' :: rest) (line :: lines)
  | returned {line rest lines} (whole : '\n' ∉ line) (more : Lines rest lines) :
      Lines (line ++ '\r' :: '\n' :: rest) (line :: lines)

section Lines

variable {text line : List Char}

theorem linesOf_whole (whole : '\n' ∉ line) : linesOf line = if line = [] then [] else [line] := by
  have plain : ∀ c ∈ line, (c == '\n') = false := fun c inside =>
    beq_eq_false_iff_ne.mpr fun same => whole (same ▸ inside)
  rw [linesOf, Text.parts_eq_singleton plain]
  cases line <;> rfl

theorem linesOf_append (whole : '\n' ∉ line) (rest : List Char) :
    linesOf (line ++ '\n' :: rest) = withoutReturn line :: linesOf rest := by
  have plain : ∀ c ∈ line, (c == '\n') = false := fun c inside =>
    beq_eq_false_iff_ne.mpr fun same => whole (same ▸ inside)
  rw [linesOf, linesOf, Text.parts_append_cons plain (by rfl)]
  cases parts : Text.parts (· == '\n') rest with
  | nil => exact absurd (Text.parts_eq_splitOn '\n' rest ▸ parts) (List.splitOn_ne_nil '\n' rest)
  | cons part more => simp

theorem withoutReturn_append (line : List Char) : withoutReturn (line ++ ['\r']) = line := by
  simp [withoutReturn]

theorem withoutReturn_of_ne (plain : line.getLast? ≠ some '\r') : withoutReturn line = line := by
  simp [withoutReturn, plain]

theorem lines_linesOf (text : List Char) : Lines text (linesOf text) := by
  -- What follows the first line feed is a shorter text.
  by_cases fed : '\n' ∈ text
  · obtain ⟨line, rest, rfl, whole⟩ := List.eq_append_cons_of_mem fed
    have more := lines_linesOf rest
    rw [linesOf_append whole]
    by_cases plain : line.getLast? = some '\r'
    · obtain ⟨line, rfl⟩ := List.getLast?_eq_some_iff.mp plain
      rw [withoutReturn_append, List.append_assoc]
      exact .returned (fun inside => whole (List.mem_append_left _ inside)) more
    · rw [withoutReturn_of_ne plain]
      exact .fed whole plain more
  · rw [linesOf_whole fed]
    split
    · next none => exact none ▸ .none
    · next some => exact .last some fed
termination_by text.length
decreasing_by
  subst_vars
  simp only [List.length_append, List.length_cons]
  omega

/-- A text has these lines and no others. -/
theorem lines_iff {lines : List (List Char)} : Lines text lines ↔ lines = linesOf text := by
  constructor
  · intro splits
    induction splits with
    | none => rfl
    | last some whole => rw [linesOf_whole whole, if_neg some]
    | fed whole plain _ ih => rw [linesOf_append whole, withoutReturn_of_ne plain, ih]
    | @returned line rest lines whole _ ih =>
      have split : line ++ '\r' :: '\n' :: rest = (line ++ ['\r']) ++ '\n' :: rest := by simp
      rw [split, linesOf_append (by simpa using whole), withoutReturn_append, ih]
  · rintro rfl
    exact lines_linesOf text

end Lines

/-! ## Instances -/

namespace InputSource

/-- What becomes of a value: the part that the pointer selects, or the value without a pointer. -/
def Narrows (s : InputSource) (value part : Json) : Prop :=
  match s.pointer with
  | none => part = value
  | some pointer => Json.Pointer.select? value pointer = some part

/-- The text is one value, which is narrowed and has the label. -/
def Gives (s : InputSource) (label text : String) (one : Instance) : Prop :=
  one.source = label ∧ ∃ value, readValue text = .ok value ∧ s.Narrows value one.value

/-- The instances of lines, the first of which has a number. Blank lines are counted, and have no
instance. -/
inductive OfLines (s : InputSource) (path : String) : Nat → List (List Char) → List Instance → Prop
  | none {number} : OfLines s path number [] []
  | blank {number line rest instances} (blank : ∀ c ∈ line, Unicode.isWhiteSpace c = true)
      (more : OfLines s path (number + 1) rest instances) :
      OfLines s path number (line :: rest) instances
  | value {number line rest one instances} (some : ∃ c ∈ line, Unicode.isWhiteSpace c = false)
      (gives : s.Gives (path ++ ":" ++ toString number) (String.ofList line) one)
      (more : OfLines s path (number + 1) rest instances) :
      OfLines s path number (line :: rest) (one :: instances)

/-- The instances of a file: one, which has the path as its label, or those of its lines, which are
counted from one. -/
def OfFile (s : InputSource) (path text : String) (instances : List Instance) : Prop :=
  if s.lines then ∃ lines, Lines text.toList lines ∧ s.OfLines path 1 lines instances
  else ∃ one, s.Gives path text one ∧ instances = [one]

variable {s : InputSource} {tree : FileTree} {path text label : String} {value : Json}
  {one : Instance} {instances : List Instance}

theorem select_eq_ok_iff :
    s.select label value = .ok one ↔ one.source = label ∧ s.Narrows value one.value := by
  obtain ⟨source, part⟩ := one
  unfold select Narrows
  cases s.pointer with
  | none => simp [eq_comm]
  | some pointer =>
    dsimp only
    cases Json.Pointer.select? value pointer <;> simp [eq_comm]

/-- A value is read, whatever is said if there is none, and then a part of it is selected. -/
theorem select_explain_eq_ok_iff {tried : String} :
    ((explain tried TextError.message (readValue text)).bind (s.select label)) = .ok one ↔
      s.Gives label text one := by
  simp only [bind_eq_ok_iff, explain_eq_ok_iff, select_eq_ok_iff, Gives]
  constructor
  · rintro ⟨value, reads, label, narrows⟩
    exact ⟨label, value, reads, narrows⟩
  · rintro ⟨label, value, reads, narrows⟩
    exact ⟨value, reads, label, narrows⟩

theorem lineInstance_eq_ok_iff {line : String} {number : Nat} :
    s.lineInstance path (line, number) = .ok one ↔
      s.Gives (path ++ ":" ++ toString number) line one := select_explain_eq_ok_iff

theorem fileInstance_eq_ok_iff : s.fileInstance path text = .ok one ↔ s.Gives path text one :=
  select_explain_eq_ok_iff

theorem isBlank_iff {line : List Char} :
    isBlank line = true ↔ ∀ c ∈ line, Unicode.isWhiteSpace c = true := List.all_eq_true

/-- A line is blank or has something that is seen. -/
theorem visible_iff {line : List Char} : (∃ c ∈ line, Unicode.isWhiteSpace c = false) ↔
    ¬ ∀ c ∈ line, Unicode.isWhiteSpace c = true := by
  simp

/-- Lines are read one after the other, with their numbers. -/
theorem ofLines_iff {lines : List (List Char)} {number : Nat} :
    ((lines.zipIdx number).filterMap fun (line, number) =>
      if isBlank line then none else some (String.ofList line, number)).mapM (s.lineInstance path) =
        .ok instances ↔ s.OfLines path number lines instances := by
  -- The numbers go on over blank lines, so the first of them is any number here.
  induction lines generalizing number instances with
  | nil =>
    constructor
    · rintro ⟨⟩
      exact .none
    · rintro ⟨⟩
      rfl
  | cons line rest ih =>
    rw [List.zipIdx_cons]
    cases blank : isBlank line with
    | true =>
      have all := isBlank_iff.mp blank
      rw [List.filterMap_cons_none (by simp [blank]), ih]
      constructor
      · exact .blank all
      · intro rest
        cases rest with
        | blank _ more => exact more
        | value some _ _ => exact absurd all (visible_iff.mp some)
    | false =>
      have some : ∃ c ∈ line, Unicode.isWhiteSpace c = false :=
        visible_iff.mpr (isBlank_iff.not.mp (ne_true_of_eq_false blank))
      rw [List.filterMap_cons_some (b := (String.ofList line, number)) (by simp [blank]),
        mapM_eq_ok_iff, List.forall₂_cons_left_iff]
      simp only [lineInstance_eq_ok_iff, ← mapM_eq_ok_iff, ih]
      constructor
      · rintro ⟨one, instances, gives, more, rfl⟩
        exact .value some gives more
      · intro rest
        cases rest with
        | blank all _ => exact absurd all (visible_iff.mp some)
        | value _ gives more => exact ⟨_, _, gives, more, rfl⟩

/-- One line that is not blank and has no value is enough for there to be no instances. -/
theorem OfLines.reads {lines : List (List Char)} {number : Nat}
    (made : s.OfLines path number lines instances) {line : List Char} (member : line ∈ lines)
    (some : ∃ c ∈ line, Unicode.isWhiteSpace c = false) :
    ∃ value, readValue (String.ofList line) = .ok value := by
  induction made with
  | none => cases member
  | blank all _ ih =>
    rcases List.mem_cons.mp member with rfl | later
    · exact absurd all (visible_iff.mp some)
    · exact ih later
  | value _ gives _ ih =>
    rcases List.mem_cons.mp member with rfl | later
    · obtain ⟨-, value, reads, -⟩ := gives
      exact ⟨value, reads⟩
    · exact ih later

theorem instances_eq_ok_iff :
    s.instances path text = .ok instances ↔ s.OfFile path text instances := by
  unfold InputSource.instances OfFile
  cases s.lines with
  | true =>
    simp only [if_pos, numberedLines, ofLines_iff, lines_iff, exists_eq_left]
  | false =>
    simp only [Bool.false_eq_true, if_false]
    constructor
    · intro mapped
      obtain ⟨one, made, rfl⟩ := Json.ok_of_map mapped
      exact ⟨one, fileInstance_eq_ok_iff.mp made, rfl⟩
    · rintro ⟨one, gives, rfl⟩
      rw [fileInstance_eq_ok_iff.mpr gives]
      rfl

end InputSource

/-! ## Loading -/

/-- What an input stands for: the paths that it is a pattern of, of which there is one at least, or
the one path that it is. -/
def Expands (tree : FileTree) (input : String) (paths : List String) : Prop :=
  if Glob.hasWildcards input then
    paths ≠ [] ∧ ∃ glob, Glob.ofText input = .ok glob ∧
      (glob.paths : ReaderM FileTree (List String)).run tree = paths
  else paths = [input]

/-- The instances of all inputs, in the order of their paths. -/
def InputSource.Loads (tree : FileTree) (s : InputSource) (instances : List Instance) : Prop :=
  ∃ paths, List.Forall₂ (Expands tree) s.inputs paths ∧
    ∃ parts, instances = parts.flatten ∧
      List.Forall₂ (fun path part => ∃ text, tree.read path = .ok text ∧ s.OfFile path text part)
        paths.flatten parts

variable {tree : FileTree} {input : String} {paths : List String}

theorem resolveInput_eq_ok_iff :
    resultIn tree (resolveInput input) = .ok paths ↔ Expands tree input paths := by
  unfold resolveInput Expands
  cases Glob.hasWildcards input with
  | false => simp [eq_comm]
  | true =>
    simp only [Bool.not_true, Bool.false_eq_true, if_false, if_true, resultIn_bind,
      resultIn_liftExcept, resultIn_liftM, bind_eq_ok_iff, explain_eq_ok_iff, Except.ok.injEq,
      exists_eq_left']
    constructor
    · rintro ⟨glob, read, found⟩
      split at found
      · cases found
      · next some =>
        cases found
        exact ⟨some, glob, read, rfl⟩
    · rintro ⟨some, glob, read, rfl⟩
      refine ⟨glob, read, ?_⟩
      split
      · next none => exact absurd none some
      · rfl

/-- Inputs are resolved one after the other, and then the files are read. -/
theorem InputSource.load_eq_ok_iff {s : InputSource} {instances : List Instance} :
    resultIn tree s.load = .ok instances ↔ s.Loads tree instances := by
  have file (path : String) (part : List Instance) : resultIn tree (s.loadFile path) = .ok part ↔
      ∃ text, tree.read path = .ok text ∧ s.OfFile path text part := by
    simp only [loadFile, resultIn_bind, resultIn_liftExcept, bind_eq_ok_iff,
      readSource_eq_ok_iff, instances_eq_ok_iff]
  simp only [load, resolveInputs, resultIn_bind, resultIn_mapM, resultIn_pure, bind_eq_ok_iff,
    mapM_eq_ok_iff, resolveInput_eq_ok_iff, file, Except.ok.injEq, Loads]
  constructor
  · rintro ⟨_, ⟨paths, expand, rfl⟩, parts, each, rfl⟩
    exact ⟨paths, expand, parts, rfl, each⟩
  · rintro ⟨paths, expand, parts, rfl, each⟩
    exact ⟨_, ⟨paths, expand, rfl⟩, parts, each, rfl⟩

end CommandLine
end DataSchema
