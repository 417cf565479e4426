import DataSchema.Proofs.Forms.Relation
import DataSchema.Proofs.Meaning.Rules

/-!
Accepted forms are accepted again. Where members are stripped, and no schema combines others or
compares items, the form of a value is its own form: what was left out counted for nothing, was not
required, and had no check.
-/
namespace DataSchema

/-- A node that is no combination of others, and no array of items that have to be unique. -/
def Node.isSimple : Node → Bool
  | .union _ _ | .intersection _ | .negation _ => false
  | .array _ _ unique => !unique
  | _ => true

/-- All nodes at any depth of all entries are simple. -/
def Document.Simple (d : Document) : Prop :=
  ∀ entry ∈ d.entries, ∀ part : Node, part.Within entry.2 → part.isSimple = true

/-- Rules do not see more of an array than its length, unless its items have to be unique. -/
theorem ArrayRule.reasons_eq_of_length {rules : List ArrayRule} (free : .uniqueItems ∉ rules)
    {items items' : List Json} (length : items.length = items'.length) :
    reasons rules items = reasons rules items' := by
  refine List.filterMap_congr fun rule member => ?_
  cases rule with
  | minItems min => simp only [reason?, length]
  | maxItems max => simp only [reason?, length]
  | uniqueItems => exact absurd member free

namespace Check

/-- A check that is no combination of others, does not compare items, and has a check for each
member that it requires. -/
def isSimple : Check → Bool
  | .union _ _ | .intersection _ | .negation _ => false
  | .array _ rules => !rules.contains .uniqueItems
  | .object properties required extra _ =>
    required.all fun name => (memberCheck? properties extra name).isSome
  | _ => true

/-- So is every part of a check, at any depth. -/
def Simple (check : Check) : Prop := ∀ part : Check, part.Within check → part.isSimple = true

theorem Simple.within {part check : Check} (simple : check.Simple) (within : part.Within check) :
    part.Simple :=
  fun inner inside => simple inner (inside.trans within)

/-- A step down accepts the forms that it has accepted as they are, and a rejection has an issue. -/
structure Stable (down : Descent) : Prop where
  again (check : Check) (simple : check.Simple) (value : Json) (path : Path) (form : Json)
    (accepts : down check value path = .ok form) : down check form path = .ok form
  rejected (check : Check) (value : Json) (path : Path) : down check value path ≠ .error []

section Steps

variable {setting : Setting} {down : Descent} {value form : Json} {path : Path}

/-! ## Items and members -/

/-- Where items have no issue, their forms have none, and are their own forms. -/
theorem itemsWith_again (stable : Stable down) {items : Check} (simple : items.Simple)
    {index : Nat} {list forms : List Json}
    (accepts : itemsWith down items path index list = (forms, [])) :
    itemsWith down items path index forms = (forms, []) := by
  induction list generalizing index forms with
  | nil =>
    cases accepts
    rfl
  | cons item rest ih =>
    rw [itemsWith] at accepts
    generalize later : itemsWith down items path (index + 1) rest = others at accepts
    obtain ⟨made, issues⟩ := others
    cases result : down items item (path ++ [.index index]) with
    | ok form =>
      simp only [result, Prod.mk.injEq] at accepts
      obtain ⟨rfl, rfl⟩ := accepts
      simp only [itemsWith, ih later, stable.again items simple item _ form result]
    | error found =>
      simp only [result, Prod.mk.injEq, List.append_eq_nil_iff] at accepts
      exact absurd (accepts.2.1 ▸ result) (stable.rejected _ _ _)

/-- The form of a member is kept as it is. -/
theorem memberWith_again (stable : Stable down) {properties : List (String × Check)}
    {extra : Extra Check} {name : String}
    (simple : ∀ check, memberCheck? properties extra name = some check → check.Simple)
    (made : (memberWith true down properties extra path name value).form = some form) :
    memberWith true down properties extra path name form = ⟨some form, true, []⟩ := by
  cases given : memberCheck? properties extra name with
  | some check =>
    rw [memberWith_of_check given] at made ⊢
    cases result : down check value (path ++ [.key name]) with
    | ok own =>
      rw [result] at made
      cases made
      rw [stable.again check (simple check given) value _ form result]
      rfl
    | error issues => simp [result, MemberResult.of] at made
  | none =>
    rw [memberWith_of_none given] at made
    cases extra <;> cases made

/-- A member without an issue counts if it has a form. It has one if there is a check for it. -/
theorem memberWith_kept (stable : Stable down) {properties : List (String × Check)}
    {extra : Extra Check} {name : String}
    (clean : (memberWith true down properties extra path name value).issues = []) :
    (memberWith true down properties extra path name value).counts =
        (memberWith true down properties extra path name value).form.isSome ∧
      (memberWith true down properties extra path name value).form.isSome =
        (memberCheck? properties extra name).isSome := by
  cases given : memberCheck? properties extra name with
  | some check =>
    rw [memberWith_of_check given] at clean ⊢
    obtain ⟨form, result⟩ :=
      exists_ok_of_issuesOf_eq_nil (stable.rejected check _ _) (MemberResult.of_issues _ ▸ clean)
    rw [result]
    exact ⟨rfl, rfl⟩
  | none =>
    rw [memberWith_of_none given] at clean ⊢
    cases extra with
    | allow => exact ⟨rfl, rfl⟩
    | _ => cases clean

/-- Where forms of members are kept as they are, and only members with a form count, forms of
members are their own forms, and as many. -/
theorem membersWith_again (member : String → Json → MemberResult) {members : Members}
    (again : ∀ name value form, (member name value).form = some form →
      member name form = ⟨some form, true, []⟩)
    (counts : ∀ m ∈ members, (member m.1 m.2).counts = (member m.1 m.2).form.isSome) :
    membersWith member (membersWith member members).1 =
      ((membersWith member members).1, (membersWith member members).2.1, []) := by
  induction members with
  | nil => rfl
  | cons head rest ih =>
    obtain ⟨first, others⟩ := List.forall_mem_cons.mp counts
    have later := ih others
    simp only [membersWith]
    cases made : (member head.1 head.2).form with
    | none =>
      rw [made] at first
      simp [first, later]
    | some form =>
      rw [made] at first
      simp [membersWith, first, later, again head.1 head.2 form made]

/-- There is a check for each member that is declared. -/
theorem memberCheck?_isSome {properties : List (String × Check)} {name : String}
    (declared : name ∈ properties.map Prod.fst) (extra : Extra Check) :
    (memberCheck? properties extra name).isSome = true := by
  obtain ⟨property, inside, rfl⟩ := List.mem_map.mp declared
  obtain ⟨check, found⟩ := Option.isSome_iff_exists.mp
    (List.lookup_isSome_iff.mpr ⟨property, inside, beq_self_eq_true property.1⟩)
  simp [memberCheck?, found]

/-- Members that are required are not left out. -/
theorem missing_again (stable : Stable down) {properties : List (String × Check)}
    {required : List String} {extra : Extra Check} {members : Members}
    (known : ∀ name ∈ required, (memberCheck? properties extra name).isSome = true)
    (clean : ∀ m ∈ members, (memberWith true down properties extra path m.1 m.2).issues = [])
    (present : missing required members path = []) :
    missing required
      (membersWith (memberWith true down properties extra path) members).1 path = [] := by
  rw [missing_eq_nil_iff] at present ⊢
  intro name wanted
  obtain ⟨m, inside, rfl⟩ := List.mem_map.mp (present name wanted)
  have kept := (memberWith_kept stable (clean m inside)).2.trans (known m.1 wanted)
  have names := map_eq_map_iff_forall₂.mpr ((membersWith_picked
    (memberWith true down properties extra path) members).imp fun _ _ made => made.1)
  exact names ▸ List.mem_map_of_mem (List.mem_filter.mpr ⟨inside, kept⟩)

/-! ## Checks -/

/-- One level accepts its forms again if the steps down do. -/
theorem evalWith_stable (strips : setting.stripUnknown = true)
    (slots : ∀ slot, (setting.slots.getD slot .any).Simple) (stable : Stable down) :
    Stable (evalWith setting down) := by
  have settled {value form : Json} {issues : List Issue}
      (accepts : settle value issues = .ok form) : value = form := (settle_eq_ok_iff.mp accepts).2
  refine ⟨fun check simple value path form accepts => ?_, fun check value path =>
    evalWith_ne_error_nil (fun slot => stable.rejected _ value path) check⟩
  have own : check.isSimple = true := simple check .self
  cases check with
  | any =>
    cases accepts
    rfl
  | string rules =>
    cases value with
    | string s => exact settled accepts ▸ accepts
    | _ => cases accepts
  | number integer rules =>
    cases value with
    | number n =>
      have same : .number n = form := by
        simp only [evalWith] at accepts
        split at accepts
        · cases accepts
        · exact settled accepts
      exact same ▸ accepts
    | _ => cases accepts
  | boolean =>
    cases value with
    | bool b =>
      cases accepts
      rfl
    | _ => cases accepts
  | null =>
    cases value with
    | null =>
      cases accepts
      rfl
    | _ => cases accepts
  | enum values =>
    have same : value = form := by
      simp only [evalWith] at accepts
      split at accepts
      · cases accepts
        rfl
      · cases accepts
    exact same ▸ accepts
  | array items rules =>
    cases value with
    | array list =>
      have free : .uniqueItems ∉ rules := by simpa [isSimple] using own
      obtain ⟨clean, rfl⟩ := settle_eq_ok_iff.mp accepts
      obtain ⟨each, counted⟩ := List.append_eq_nil_iff.mp clean
      have again := itemsWith_again stable (simple.within (.array .self)) (Prod.ext rfl each)
      have length := (itemsWith_forms (stable.rejected items) each).length_eq
      rw [ArrayRule.reasons_eq_of_length free length] at counted
      exact settle_eq_ok_iff.mpr ⟨by rw [again]; exact counted, by rw [again]⟩
    | _ => cases accepts
  | object properties required extra rules =>
    cases value with
    | object members =>
      have known : ∀ name ∈ required, (memberCheck? properties extra name).isSome = true :=
        List.all_eq_true.mp own
      simp only [evalWith, strips] at accepts ⊢
      obtain ⟨clean, rfl⟩ := settle_eq_ok_iff.mp accepts
      simp only [List.append_eq_nil_iff, membersWith_issues, List.flatMap_eq_nil_iff] at clean
      obtain ⟨⟨each, present⟩, counted⟩ := clean
      have again := membersWith_again (memberWith true down properties extra path)
        (fun name value form => memberWith_again stable fun check given =>
          simple.within (.of_memberCheck? given .self required rules))
        fun m inside => (memberWith_kept stable (each m inside)).1
      have present := missing_again stable known each present
      exact settle_eq_ok_iff.mpr ⟨by rw [again, present]; exact counted, by rw [again]⟩
    | _ => cases accepts
  | union mode branches => cases own
  | intersection branches => cases own
  | negation inner => cases own
  | ref slot =>
    simp only [evalWith] at accepts ⊢
    exact stable.again _ (slots slot) value path form accepts

/-- Within any budget, accepted forms are accepted again. -/
theorem run_stable (strips : setting.stripUnknown = true)
    (slots : ∀ slot, (setting.slots.getD slot .any).Simple) (levels : Nat) :
    Stable (run setting levels) := by
  induction levels with
  | zero => exact ⟨fun _ _ _ _ _ accepts => (by cases accepts), run_ne_error_nil setting 0⟩
  | succ levels ih => exact evalWith_stable strips slots ih

end Steps
end Check

namespace Registry

/-- Checks of a document that is well made and has only simple nodes are simple. -/
theorem BuiltFrom.simple {d : Document} {r : Registry} {compiled : List (Compiled Check)}
    (built : BuiltFrom d r compiled) (made : d.WellMade) (simple : d.Simple) (slot : Nat) :
    (r.checks.getD slot .any).Simple := by
  intro part within
  rcases built.exists_within within with rfl | ⟨entry, member, node, inside, has⟩
  · rfl
  · have own := simple entry member node inside
    cases has.form with
    | @array items check count unique inner =>
      cases unique with
      | false => simp [Check.isSimple, ArrayRule.draft]
      | true => cases own
    | @object properties declared required count additional extra each others =>
      cases (made entry member).within inside with
      | object _ _ made =>
        -- What is required is declared, so that it has a schema, and with it a check.
        refine List.all_eq_true.mpr fun name wanted => ?_
        have known := (Node.objectOf_eq_ok_iff.mp made).1 name wanted
        rw [map_eq_map_iff_forall₂.mpr (each.imp fun _ _ property => property.1)] at known
        exact Check.memberCheck?_isSome known extra
    | union each => cases own
    | intersection each => cases own
    | negation part => cases own
    | _ => rfl

/-- What an entry accepts while members are stripped, it accepts again as it is, if the document is
well made, or read from a source, and has only simple nodes. -/
theorem accepted_again (d : Document)
    (made : d.WellMade ∨ ∃ source, Document.ofJson source = .ok d) (simple : d.Simple)
    (maxDepth : Nat) (r : Registry) (built : build ⟨maxDepth, .strip⟩ d = .ok r) (name : String)
    (value form : Json) (accepted : r.validate? name value = some (.accepted form)) :
    r.validate? name form = some (.accepted form) := by
  have made : d.WellMade := made.elim id fun ⟨_, read⟩ => Document.wellMade_of_ofJson read
  obtain ⟨compiled, from'⟩ := builtFrom_of_build built
  obtain ⟨slot, found, accepts⟩ := validate?_eq_accepted_iff.mp accepted
  have strips : r.setting.stripUnknown = true := by simp [setting, options_of_build built]
  have simple := from'.simple made simple
  have stable := Check.run_stable strips simple (r.setting.maxDepth + 1)
  exact validate?_eq_accepted_iff.mpr
    ⟨slot, found, stable.again _ (simple slot) value [] form accepts⟩

-- Items that differ only in what is stripped of them are no longer unique.
example :
    (build ⟨2, .strip⟩ ⟨[("Two", .array (.object [] [] {} .allow) {} true)], []⟩).toOption.bind
      (validate? · "Two" (.array [.object [("a", .null)], .object []])) =
        some (.accepted (.array [.object [], .object []])) ∧
    ((build ⟨2, .strip⟩ ⟨[("Two", .array (.object [] [] {} .allow) {} true)], []⟩).toOption.bind
      (validate? · "Two" (.array [.object [], .object []]))).any Outcome.isAccepted = false :=
  ⟨rfl, rfl⟩

/-- Boxes with a label, in which there may be other boxes. -/
def boxes : Document :=
  ⟨[("Box", .object [("label", .plain .string), ("holds", .array (.reference "Box") {} false)]
      ["label"] ⟨some 1, none⟩ .allow)], []⟩

/-- A box in a box, both with more members than the declared ones. -/
def boxInBox (more : Members) : Json :=
  .object ([("holds", .array [.object (more ++ [("label", .string "b")])])] ++ more ++
    [("label", .string "a")])

/-- Boxes are accepted without their owners, and so once more. -/
theorem box_is_accepted_again :
    boxes.WellMade ∧ boxes.Simple ∧ ∃ r, build ⟨4, .strip⟩ boxes = .ok r ∧
      r.validate? "Box" (boxInBox [("owner", .null)]) = some (.accepted (boxInBox [])) ∧
      r.validate? "Box" (boxInBox []) = some (.accepted (boxInBox [])) := by
  have made : boxes.WellMade := by
    intro entry member
    obtain rfl := List.mem_singleton.mp member
    refine .object (fun property declared => ?_) nofun rfl
    rcases List.mem_pair.mp declared with rfl | rfl
    · exact .scalar
    · exact .array .reference
  have simple : boxes.Simple := by
    intro entry member part within
    obtain rfl := List.mem_singleton.mp member
    cases within with
    | self => rfl
    | property declared inside =>
      rcases List.mem_pair.mp declared with rfl | rfl
      · cases inside
        rfl
      · cases inside with
        | self => rfl
        | array inside =>
          cases inside
          rfl
  exact ⟨made, simple, _, rfl, rfl,
    accepted_again boxes (.inl made) simple 4 _ rfl "Box" (boxInBox [("owner", .null)]) _ rfl⟩

end Registry
end DataSchema
