import DataSchema.Proofs.Issues.Rules
import DataSchema.Proofs.Meaning.Soundness
import DataSchema.Proofs.Parts
import DataSchema.Proofs.Places

/-!
What an issue says. An issue names a place, and its reason tells why some node of the document
refuses the value at the place. Where no branch of a union matched, its failures are the issues of
the branches, one list for each, with the value at the same place.
-/
namespace DataSchema

/-- The first issue is the second, or is one of the failures in it, at any depth. -/
inductive Issue.Within (part : Issue) : Issue → Prop
  | self : Within part part
  | failure {path mode failures found issue} (among : found ∈ failures) (member : issue ∈ found)
      (inside : Within part issue) : Within part ⟨path, .noBranchMatched mode failures⟩

/-- The node is an entry of the document, or stands at any place of one. -/
def Document.Contains (d : Document) (node : Node) : Prop :=
  ∃ entry ∈ d.entries, node.Within entry.2

theorem Document.Contains.part {d : Document} {part node : Node} (contained : d.Contains node)
    (within : part.Within node) : d.Contains part := by
  obtain ⟨entry, member, inside⟩ := contained
  exact ⟨entry, member, within.trans inside⟩

/-- The value is of the type that a scalar node asks for, whatever its refinements. -/
def ScalarKind.admits : ScalarKind → Json → Bool
  | .string, .string _ => true
  | .number, .number _ => true
  | .integer, .number n => n.isIntegral
  | .boolean, .bool _ => true
  | .null, .null => true
  | _, _ => false

/-- Why a node of the document refuses the value at a path. A member that is unknown is refused
at its own path by the object that it is in, and a budget that is used up tells nothing of the
value. Ranges have the limits here that checks compare with, as in the other reasons on numbers. -/
inductive Refuses (d : Document) (setting : Setting) (path : Path) : Node → Json → Reason → Prop
  | depth {node value} : Refuses d setting path node value (.depthExceeded setting.maxDepth)
  | scalarType {kind format c value} (other : kind.admits value = false) :
      Refuses d setting path (.scalar kind format c) value (.type kind.name value.kind)
  | string {format c s reason} (broken : StringBreaks format c s reason) :
      Refuses d setting path (.scalar .string format c) (.string s) reason
  | number {kind format c n reason} (admitted : kind.admits (.number n) = true)
      (broken : NumberBreaks format c n.toBinary64 reason) :
      Refuses d setting path (.scalar kind format c) (.number n) reason
  | enum {values value} (unlisted : ∀ allowed ∈ values, allowed.deepEqual value = false) :
      Refuses d setting path (.enum values) value (.notInEnum values)
  | arrayType {items count unique value} (other : value.kind ≠ .array) :
      Refuses d setting path (.array items count unique) value (.type "array" value.kind)
  | array {items count unique list reason} (broken : ArrayBreaks count unique list reason) :
      Refuses d setting path (.array items count unique) (.array list) reason
  | objectType {properties required count additional value} (other : value.kind ≠ .object) :
      Refuses d setting path (.object properties required count additional) value
        (.type "object" value.kind)
  | missing {properties required count additional members name} (wanted : name ∈ required)
      (absent : name ∉ members.map Prod.fst) :
      Refuses d setting path (.object properties required count additional) (.object members)
        (.missingProperty name)
  | unknown {properties required count additional member outer name}
      (place : path = outer ++ [.key name]) (closed : additional.isClosed count = true)
      (free : memberNode? properties additional name = none) :
      Refuses d setting path (.object properties required count additional) member
        (.unknownProperty name)
  | count {properties required count additional members reason}
      (broken : CountBreaks count (members.countP fun m =>
        memberCounts setting.stripUnknown properties count additional m.1) reason) :
      Refuses d setting path (.object properties required count additional) (.object members) reason
  | noBranch {mode branches value failures}
      (each : List.Forall₂ (fun branch found =>
          Violates .rounded d setting.stripUnknown branch value ∧
          found ≠ [] ∧ (∀ issue ∈ found, path <+: issue.path) ∧
          ∃ levels check, HasCheck d.names branch check ∧
            Check.run setting levels check value path = .error found) branches failures) :
      Refuses d setting path (.union mode branches) value (.noBranchMatched mode failures)
  | severalBranches {branches value matched} (several : 2 ≤ matched.length)
      (ascending : matched.Pairwise (· < ·))
      (each : ∀ place ∈ matched, ∃ branch, branches[place]? = some branch ∧
        Satisfies .rounded d setting.stripUnknown branch value) :
      Refuses d setting path (.union .oneOf branches) value (.multipleBranchesMatched matched)
  | negation {inner value} (satisfied : Satisfies .rounded d setting.stripUnknown inner value) :
      Refuses d setting path (.negation inner) value .negatedSchemaMatched

/-- The place of the issue is one in the value, and its reason is true of what stands there. -/
def Issue.Told (d : Document) (setting : Setting) (root : Json) (issue : Issue) : Prop :=
  ∃ value, root.at? issue.path = some value ∧
    ∃ node, d.Contains node ∧ Refuses d setting issue.path node value issue.reason

namespace Check

variable {α : Type} {results : List Checked} {index : Nat}

/-! ## Branches that accept and that refuse -/

/-- Where no branch is said to accept, all refuse. -/
theorem refused_of_acceptedFrom_eq_nil (none : acceptedFrom index results = []) :
    ∀ result ∈ results, ∃ issues, result = .error issues := by
  induction results generalizing index with
  | nil => nofun
  | cons result rest ih =>
    cases result with
    | ok form => cases none
    | error issues => exact List.forall_mem_cons.mpr ⟨⟨issues, rfl⟩, ih none⟩

/-- There is a list of issues for each of the branches if all refuse. -/
theorem refusals_eq_map (refused : ∀ result ∈ results, ∃ issues, result = .error issues) :
    refusals results = results.map issuesOf := by
  induction results with
  | nil => rfl
  | cons result rest ih =>
    obtain ⟨⟨issues, rfl⟩, later⟩ := List.forall_mem_cons.mp refused
    rw [refusals, ih later, List.map_cons, issuesOf_error]

/-- Branches that accept are named by their places, in ascending order. -/
theorem acceptedFrom_places :
    ((acceptedFrom index results).map Prod.fst).Pairwise (· < ·) ∧
      ∀ place ∈ (acceptedFrom index results).map Prod.fst, index ≤ place ∧
        ∃ form, results[place - index]? = some (.ok form) := by
  induction results generalizing index with
  | nil => exact ⟨.nil, nofun⟩
  | cons result rest ih =>
    obtain ⟨ascending, each⟩ := @ih (index + 1)
    have later (place : Nat) (member : place ∈ (acceptedFrom (index + 1) rest).map Prod.fst) :
        index < place ∧ ∃ form, (result :: rest)[place - index]? = some (.ok form) := by
      obtain ⟨after, form, found⟩ := each place member
      have shift : place - index = place - (index + 1) + 1 := by omega
      exact ⟨after, form, by rw [shift, List.getElem?_cons_succ, found]⟩
    cases result with
    | ok form =>
      refine ⟨List.pairwise_cons.mpr ⟨fun place member => (later place member).1, ascending⟩, ?_⟩
      refine List.forall_mem_cons.mpr ⟨⟨le_refl _, form, by simp⟩, fun place member => ?_⟩
      exact ⟨(later place member).1.le, (later place member).2⟩
    | error issues =>
      exact ⟨ascending, fun place member =>
        ⟨(later place member).1.le, (later place member).2⟩⟩

end Check
end DataSchema
