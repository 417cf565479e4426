import DataSchema.Proofs.Budget.Refinement
import DataSchema.Proofs.Inlining.Basic

/-!
Inlining is not seen. A copy is checked one level higher than the entry that it is a copy of, so the
budget reaches further; a result that keeps within the budget stays as it is, issue by issue, also
where the copy leads back to the entry that it stands in.
-/
namespace DataSchema
namespace Check

variable {d : Document} {setting setting' : Setting} {down down' : Descent}

/-- A step down from any node is refined by one from the node with references replaced. -/
def Follows (d : Document) (down down' : Descent) : Prop :=
  ∀ node node' own own', node.Unfolded d node' → HasCheck d.names node own →
    HasCheck d.names node' own' → ∀ value path,
      Refines (down own value path) (down' own' value path)

/-- The slot of each entry holds the check of its node, and in the second table that of the node
with references replaced. -/
def SlotsFollow (d : Document) (setting setting' : Setting) : Prop :=
  ∀ name slot, d.names.idxOf? name = some slot →
    ∃ node node', d.node? name = some node ∧ node.Unfolded d node' ∧
      HasCheck d.names node (setting.slots.getD slot .any) ∧
      HasCheck d.names node' (setting'.slots.getD slot .any)

/-- Branches are refined place by place if each branch is. -/
theorem branches_follow {value : Json} {path : Path} {branches branches' : List Node}
    {checks checks' : List Check} (each : List.Forall₂ (Node.Unfolded d) branches branches')
    (has : List.Forall₂ (HasCheck d.names) branches checks)
    (has' : List.Forall₂ (HasCheck d.names) branches' checks')
    (follows : ∀ branch ∈ branches, ∀ branch' own own', branch.Unfolded d branch' →
      HasCheck d.names branch own → HasCheck d.names branch' own' →
      Refines (down own value path) (down' own' value path)) :
    List.Forall₂ (fun own own' => Refines (down own value path) (down' own' value path))
      checks checks' := by
  induction each generalizing checks checks' with
  | nil =>
    cases has
    cases has'
    exact .nil
  | cons related _ ih =>
    cases has with
    | cons first others =>
      cases has' with
      | cons first' others' =>
        refine .cons (follows _ (by simp) _ _ _ related first first') (ih others others' ?_)
        exact fun branch member => follows branch (by simp [member])

/-- One level follows if the steps down do. Where a reference has been replaced, its copy takes the
level that the step into the entry took. -/
theorem evalWith_follows (strip : setting.stripUnknown = setting'.stripUnknown)
    (slots : SlotsFollow d setting setting') (parts : Follows d down down')
    (copies : Follows d down (evalWith setting' down')) :
    Follows d (evalWith setting down) (evalWith setting' down') := by
  intro node
  induction node with
  | scalar kind format constraints =>
    intro node' own own' unfolded has has' value path
    cases unfolded
    have form := has.form
    have form' := has'.form
    cases form <;> cases form' <;> simp only [evalWith] <;> exact .refl _
  | enum values =>
    intro node' own own' unfolded has has' value path
    cases unfolded
    cases has.form
    cases has'.form
    simp only [evalWith]
    exact .refl _
  | unknown token raw =>
    intro node' own own' unfolded has has' value path
    cases unfolded
    cases has.form
    cases has'.form
    simp only [evalWith]
    exact .refl _
  | reference name =>
    intro node' own own' unfolded has has' value path
    cases has.form with
    | @reference _ slot found =>
      obtain ⟨node, target, entry, related, stored, stored'⟩ := slots name slot found
      simp only [evalWith]
      cases unfolded with
      | reference =>
        cases has'.form with
        | reference found' =>
          cases found.symm.trans found'
          simp only [evalWith]
          exact parts node target _ _ related stored stored' value path
      | copy found' =>
        -- The entry is checked one level down, and its copy on this level.
        rw [entry, Option.some.injEq] at found'
        subst found'
        exact copies node node _ _ (.refl node) stored has' value path
  | array items count unique ih =>
    intro node' own own' unfolded has has' value path
    cases unfolded with
    | array inner =>
      cases has.form with
      | array part =>
        cases has'.form with
        | array part' =>
          refine .of_within fun within => ?_
          simp only [overrun_array_iff, not_exists, not_and] at within
          cases value with
          | array list =>
            have same := itemsWith_congr fun entry member =>
              (parts _ _ _ _ inner part part' entry.1 (path ++ [.index entry.2])).eq_of_within
                (within list rfl entry member)
            simp only [evalWith, same]
          | _ => rfl
  | object properties required count additional ih ihAdd =>
    intro node' own own' unfolded has has' value path
    cases unfolded with
    | object declared each others =>
      cases has.form with
      | object checked extra =>
        cases has'.form with
        | object checked' extra' =>
          refine .of_within fun within => ?_
          simp only [overrun_object_iff, not_exists, not_and] at within
          cases value with
          | object members =>
            have same := membersWith_congr fun m member =>
              memberWith_rel declared each others checked extra checked' extra'
                (fun part part' own own' _ given related hasOwn hasOwn' =>
                  (parts part part' own own' related hasOwn hasOwn' m.2
                    (path ++ [.key m.1])).eq_of_within (within members rfl m member own given))
                setting.stripUnknown
            simp only [evalWith, ← strip, same]
          | _ => rfl
  | union mode branches ih =>
    intro node' own own' unfolded has has' value path
    cases unfolded with
    | union each =>
      cases has.form with
      | union checked =>
        cases has'.form with
        | union checked' =>
          have follow := branches_follow each checked checked'
            fun branch member branch' own own' related hasOwn hasOwn' =>
              ih branch member branch' own own' related hasOwn hasOwn' value path
          cases mode with
          | anyOf =>
            simp only [evalWith]
            exact anyOfWith_refines follow []
          | oneOf =>
            simp only [evalWith]
            exact oneOfWith_refines follow
  | intersection branches ih =>
    intro node' own own' unfolded has has' value path
    cases unfolded with
    | intersection each =>
      cases has.form with
      | intersection checked =>
        cases has'.form with
        | intersection checked' =>
          have follow := branches_follow each checked checked'
            fun branch member branch' own own' related hasOwn hasOwn' =>
              ih branch member branch' own own' related hasOwn hasOwn' value path
          simp only [evalWith]
          exact allOfWith_refines follow
  | negation inner ih =>
    intro node' own own' unfolded has has' value path
    cases unfolded with
    | negation part =>
      cases has.form with
      | negation checked =>
        cases has'.form with
        | negation checked' =>
          refine .of_within fun within => ?_
          have same := (ih _ _ _ part checked checked' value path).eq_of_within
            (mt overrun_negation_iff.mpr within)
          simp only [evalWith, same]

/-- Runs follow, also with more levels than before. -/
theorem run_follows (strip : setting.stripUnknown = setting'.stripUnknown)
    (slots : SlotsFollow d setting setting') {levels levels' : Nat} (more : levels ≤ levels') :
    Follows d (run setting levels) (run setting' levels') := by
  induction levels generalizing levels' with
  | zero => exact fun _ _ _ _ _ _ _ _ _ => .inl rfl
  | succ levels ih =>
    obtain ⟨below, rfl⟩ : ∃ below, levels' = below + 1 := ⟨levels' - 1, by omega⟩
    -- A copy is checked with one level more than is left for the entry.
    have copies : Follows d (run setting levels) (run setting' (below + 1)) := ih (by omega)
    exact evalWith_follows strip slots (ih (by omega)) copies

end Check

namespace Registry

variable {options : Options} {d d' : Document} {r r' : Registry}

theorem slotsFollow_of_unfolded (unfolded : d.Unfolded d') (built : build options d = .ok r)
    (built' : build options d' = .ok r') : Check.SlotsFollow d r.setting r'.setting := by
  obtain ⟨compiled, from'⟩ := builtFrom_of_build built
  obtain ⟨compiled', from''⟩ := builtFrom_of_build built'
  intro name slot found
  obtain ⟨node, entry, place⟩ := Document.node?_of_slot found
  obtain ⟨⟨name', node'⟩, place', same, related⟩ := forall₂_getElem? unfolded place
  cases same
  have has := from''.hasCheck place'
  rw [← unfolded.names] at has
  exact ⟨node, node', entry, related, from'.hasCheck place, has⟩

/-- Outcomes that keep within the budget stay as they are when references are replaced by copies. -/
theorem validate?_of_unfolded (unfolded : d.Unfolded d') (built : build options d = .ok r)
    (built' : build options d' = .ok r') (name : String) (value : Json) :
    Option.Rel (fun outcome outcome' => outcome.depthExceeded = false → outcome' = outcome)
      (r.validate? name value) (r'.validate? name value) := by
  have same := (options_of_build built).trans (options_of_build built').symm
  have slots := slotsFollow_of_unfolded unfolded built built'
  obtain ⟨compiled, from'⟩ := builtFrom_of_build built
  obtain ⟨compiled', from''⟩ := builtFrom_of_build built'
  have slot : r.slot? name = d.names.idxOf? name := by rw [slot?, from'.names]
  have slot' : r'.slot? name = d.names.idxOf? name := by
    rw [slot?, from''.names, unfolded.names]
  unfold validate?
  rw [slot, slot']
  cases found : d.names.idxOf? name with
  | none => exact .none
  | some slot =>
    obtain ⟨node, node', -, related, has, has'⟩ := slots name slot found
    have limit : r'.setting.maxDepth = r.setting.maxDepth := by simp [setting, same]
    have follows := Check.run_follows (by simp [setting, same]) slots
      (Nat.le_of_eq (congrArg (· + 1) limit.symm))
    exact .some fun within =>
      Check.outcome_of_refines (follows node node' _ _ related has has' value []) within

/-- References are transparent: a document that builds still does when a reference at any place is
replaced by a copy of the node that it leads to, and each outcome of an entry that keeps within the
budget stays as it is, with the same form or the same issues. -/
theorem outcome_of_inlined (options : Options) (d d' : Document) (r : Registry)
    (built : build options d = .ok r) (inlines : d.Inlines d') :
    ∃ r', build options d' = .ok r' ∧ ∀ name value,
      Option.Rel (fun outcome outcome' => outcome.depthExceeded = false → outcome' = outcome)
        (r.validate? name value) (r'.validate? name value) := by
  obtain ⟨r', built'⟩ := inlines.unfolded.exists_build built
  exact ⟨r', built', validate?_of_unfolded inlines.unfolded built built'⟩

/-- A strand ends, or goes on with another strand. -/
def strandNode : Node :=
  .object [("next", .union .oneOf [.reference "Strand", .plain .null])] ["next"] {} .deny

/-- Strands, and the values that are none. -/
def strands : Document := ⟨[("Strand", strandNode), ("Other", .negation (.reference "Strand"))], []⟩

/-- Strands of which the first link is written out. The strand after it is a reference again, to an
entry that has two links now. -/
def unrolledStrands : Document :=
  ⟨[("Strand", .object [("next", .union .oneOf [strandNode, .plain .null])] ["next"] {} .deny),
    ("Other", .negation (.reference "Strand"))], []⟩

/-- Three links and no end. -/
def openStrand : Json :=
  .object [("next", .object [("next", .object [("next", .bool true)])])]

/-- A strand that does not end is refused for the same reasons whether strands are unrolled or not,
and is another value. -/
theorem open_strand_is_refused_alike :
    strands.Inlines unrolledStrands ∧ ∃ r, build ⟨7, .strip⟩ strands = .ok r ∧
      ∃ r', build ⟨7, .strip⟩ unrolledStrands = .ok r' ∧
        (∃ issues, r.validate? "Strand" openStrand = some (.rejected issues) ∧
          r'.validate? "Strand" openStrand = some (.rejected issues)) ∧
        r'.validate? "Other" openStrand = some (.accepted openStrand) := by
  have next : (Node.union .oneOf [.reference "Strand", .plain .null]).Inlines strands
      (.union .oneOf [strandNode, .plain .null]) :=
    @Node.Inlines.union strands .oneOf [] [.plain .null] _ _ (.reference rfl)
  have inlines : strands.Inlines unrolledStrands :=
    ⟨[], "Strand", _, _, [("Other", .negation (.reference "Strand"))], rfl, rfl,
      @Node.Inlines.property strands [] [] "next" _ _ ["next"] {} .deny next⟩
  obtain ⟨r', built', same⟩ := outcome_of_inlined ⟨7, .strip⟩ strands unrolledStrands _ rfl inlines
  refine ⟨inlines, _, rfl, r', built', ⟨_, rfl, ?_⟩, ?_⟩
  · obtain ⟨outcome, given, alike⟩ := exists_of_rel (same "Strand" openStrand)
    rw [given, alike rfl]
    rfl
  · obtain ⟨outcome, given, alike⟩ := exists_of_rel (same "Other" openStrand)
    rw [given, alike rfl]
    rfl

end Registry
end DataSchema
