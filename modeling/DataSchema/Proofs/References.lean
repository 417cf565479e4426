import DataSchema.Proofs.Reading.Again

/-!
References and the names in them. Every name but the empty one can be written as a reference, under
any of the roots, and is read from it again, whatever slashes and tildes it has. What is escaped in
one pass is what replacing one character after the other gives, and so is what is unescaped.
-/
namespace DataSchema

/-! ## Replacing texts -/

namespace Text

/-- Replaces a text wherever it stands, from left to right, after a number of characters that have
been replaced already. -/
def replacedFrom (old new : List Char) : Nat → List Char → List Char
  | _, [] => []
  | done + 1, _ :: rest => replacedFrom old new done rest
  | 0, c :: rest =>
    if old.isPrefixOf (c :: rest) then new ++ replacedFrom old new (old.length - 1) rest
    else c :: replacedFrom old new 0 rest

/-- Replaces a text, which is not empty, wherever it stands. -/
def replaced (old new cs : List Char) : List Char := replacedFrom old new 0 cs

variable {old : Char} {new rest : List Char}

theorem replaced_of_prefix {c : Char} (more : List Char) :
    replaced [c, old] new (c :: old :: more) = new ++ replaced [c, old] new more := by
  simp [replaced, replacedFrom]

theorem replaced_of_ne {c d : Char} {olds : List Char} (other : d ≠ c) :
    replaced (c :: olds) new (d :: rest) = d :: replaced (c :: olds) new rest := by
  simp [replaced, replacedFrom, Ne.symm other]

theorem replaced_singleton (c : Char) (new cs : List Char) :
    replaced [c] new cs = cs.flatMap fun d => if d = c then new else [d] := by
  induction cs with
  | nil => rfl
  | cons d rest ih =>
    rw [List.flatMap_cons]
    split
    · next same => simp [same, replaced, replacedFrom, ← ih]
    · next other => rw [replaced_of_ne other, ih]; rfl

/-- A mark stays that is not followed by the second character of what is replaced. -/
theorem replaced_of_head?_ne {c : Char} (other : rest.head? ≠ some old) :
    replaced [c, old] new (c :: rest) = c :: replaced [c, old] new rest := by
  cases rest with
  | nil => simp [replaced, replacedFrom]
  | cons d rest =>
    have differs : old ≠ d := fun same => other (by simp [same])
    simp [replaced, replacedFrom, differs]

end Text

/-! ## Escaping by replacements -/

namespace Json.Pointer

open Text (replaced)

/-- Tildes are escaped first, and slashes then. -/
theorem escapeChars_eq_replaced (cs : List Char) :
    escapeChars cs = replaced ['/'] ['~', '1'] (replaced ['~'] ['~', '0'] cs) := by
  simp only [Text.replaced_singleton, escapeChars, List.flatMap_assoc]
  congr 1
  funext c
  unfold escapedChar
  split
  · rfl
  · simp

/-- The second character of an escaped tilde is not brought in by slashes. -/
theorem head?_replaced_ne {cs : List Char} (other : cs.head? ≠ some '0') :
    (replaced ['~', '1'] ['/'] cs).head? ≠ some '0' := by
  cases cs with
  | nil => simp [replaced, Text.replacedFrom]
  | cons c rest =>
    rw [replaced, Text.replacedFrom]
    split
    · simp
    · simpa using other

/-- Slashes are unescaped first, and tildes then, so that `~01` stands for a tilde and a one. -/
theorem unescapeChars_eq_replaced (cs : List Char) :
    unescapeChars cs = replaced ['~', '0'] ['~'] (replaced ['~', '1'] ['/'] cs) := by
  induction cs using unescapeChars.induct with
  | case1 => rfl
  | case2 rest ih =>
    rw [Text.replaced_of_prefix, List.singleton_append, Text.replaced_of_ne (by decide),
      unescapeChars, ih]
  | case3 rest ih =>
    have digit : replaced ['~', '1'] ['/'] ('0' :: rest) = '0' :: replaced ['~', '1'] ['/'] rest :=
      Text.replaced_of_ne (by decide)
    rw [Text.replaced_of_head?_ne (by simp), digit, Text.replaced_of_prefix, unescapeChars, ih]
    rfl
  | case4 c rest noSlash noTilde ih =>
    rw [unescapeChars.eq_4 _ _ noSlash noTilde, ih]
    by_cases tilde : c = '~'
    · subst tilde
      have one : rest.head? ≠ some '1' := by
        intro first
        obtain ⟨more, rfl⟩ := List.head?_eq_some_iff.mp first
        exact noSlash more rfl rfl
      have zero : rest.head? ≠ some '0' := by
        intro first
        obtain ⟨more, rfl⟩ := List.head?_eq_some_iff.mp first
        exact noTilde more rfl rfl
      rw [Text.replaced_of_head?_ne one, Text.replaced_of_head?_ne (head?_replaced_ne zero)]
    · rw [Text.replaced_of_ne tilde, Text.replaced_of_ne tilde]

theorem escape_injective : Function.Injective escape := by
  intro name other same
  have read := congrArg (fun s => unescapeChars s.toList) same
  simpa only [escape, String.toList_ofList, unescapeChars_escapeChars, String.toList_inj] using read

end Json.Pointer

/-! ## References -/

namespace Reference

open Json.Pointer
open Text (replaced)

/-- Under whichever root a text stands, that root is found. -/
theorem findSome?_after?_of_mem {root : List Char} (inside : root ∈ roots) (rest : List Char) :
    roots.findSome? (fun start => after? start (root ++ rest)) = some rest := by
  simp only [roots, List.mem_cons, List.not_mem_nil, or_false] at inside
  rcases inside with rfl | rfl | rfl <;> simp [roots, after?]

/-- A name is read from its escaped form under any of the roots. -/
theorem name?_root {root : String} (inside : root.toList ∈ roots) {name : String}
    (some : name ≠ "") : name? (root ++ escape name) = Option.some name := by
  have chars : (root ++ escape name).toList = root.toList ++ escapeChars name.toList := by
    rw [String.toList_append, escape, String.toList_ofList]
  have found := findSome?_after?_of_mem inside (escapeChars name.toList)
  have nonempty : escapeChars name.toList ≠ [] := escapeChars_ne_nil (by simpa using some)
  have plain := slash_notMem_escapeChars name.toList
  unfold name?
  simp only [chars, found]
  simp [nonempty, plain, unescapeChars_escapeChars]

/-- What a reference is written as is read as that reference, with nothing to remark. -/
theorem ofJson_toJson {name : String} (some : name ≠ "") (here : Locus) :
    Node.ofJson here (Node.reference name).toJson = .ok (.reference name, []) := by
  have reads : (Node.reference name).toJson.Reads (.reference name) [] := by
    rw [Node.toJson]
    refine reads_of_single rfl rfl (.reference ?_ (name?_text some))
    simp [Keywords.form, Keywords.text?, Keywords.value?]
  obtain ⟨findings, read, none⟩ := (gives_ofJson_iff here _ _ _).mpr reads
  rw [read, List.map_eq_nil_iff.mp none]

/-- Names and references do not get confused. Every name but the empty one survives being written
as a reference and read again, and is found under each root; what a reference names is written as
a reference to the same name. Escaping, which is two replacements one after the other, keeps names
apart and leaves no slash in them, and unescaping is two replacements in the other order. -/
theorem names_survive :
    (∀ name, name ≠ "" →
      (∀ here, Node.ofJson here (Node.reference name).toJson = .ok (.reference name, [])) ∧
      ∀ root ∈ ["#/components/schemas/", "#/$defs/", "#/definitions/"],
        name? (root ++ escape name) = some name) ∧
    (∀ reference name, name? reference = some name →
      name? (text name) = some name ∧
      ∀ here, Node.ofJson here (Node.reference name).toJson = .ok (.reference name, [])) ∧
    Function.Injective escape ∧ (∀ name, '/' ∉ (escape name).toList) ∧
    (∀ name : String, (escape name).toList =
      replaced ['/'] ['~', '1'] (replaced ['~'] ['~', '0'] name.toList)) ∧
    ∀ name : String, (unescape name).toList =
      replaced ['~', '0'] ['~'] (replaced ['~', '1'] ['/'] name.toList) := by
  refine ⟨fun name some => ⟨ofJson_toJson some, fun root inside => name?_root ?_ some⟩,
    fun reference name named => ?_, escape_injective,
    fun name => ?_, fun name => ?_, fun name => ?_⟩
  · simp only [List.mem_cons, List.not_mem_nil, or_false] at inside
    rcases inside with rfl | rfl | rfl <;> simp [roots]
  · have some := ne_empty_of_name? named
    exact ⟨name?_text some, ofJson_toJson some⟩
  · rw [escape, String.toList_ofList]
    exact slash_notMem_escapeChars name.toList
  · rw [escape, String.toList_ofList]
    exact escapeChars_eq_replaced name.toList
  · rw [unescape, String.toList_ofList]
    exact unescapeChars_eq_replaced name.toList

/-- A name with all that has to be escaped, and with what looks escaped. -/
theorem escaped_name_survives :
    name? ("#/definitions/" ++ escape "a/~1#~01") = some "a/~1#~01" :=
  (names_survive.1 "a/~1#~01" (by decide)).2 "#/definitions/" (by simp)

end Reference
end DataSchema
