import DataSchema.Proofs.Respelling.Basic

/-!
Respellings are evaluated alike. Slots may differ between two documents, but checks of a node in one
and of its respelling in the other give the same result on every value as long as the entries that
the node leads to are respellings of each other.
-/
namespace DataSchema

open Relation

namespace Check

variable {names names' : List String} {setting setting' : Setting} {down down' : Descent}
  {value : Json} {path : Path}

/-! ## Branches -/

/-- The result is a rejection that keeps within the budget, so that a disjunction goes on. -/
def Refused (result : Checked) : Prop :=
  ∃ issues, result = .error issues ∧ anyDepthExceeded issues = false

/-- Behind branches that reject, an unknown branch accepts. -/
theorem anyOfWith_of_refused {before after : List Node} {token : Option String} {raw : Json}
    {checks : List Check}
    (has : List.Forall₂ (HasCheck names) (before ++ .unknown token raw :: after) checks)
    (refused : ∀ branch ∈ before, ∀ check, HasCheck names branch check →
      Refused (evalWith setting down check value path))
    (failures : List (List Issue)) :
    anyOfWith setting down checks value path failures = .ok value := by
  induction before generalizing checks failures with
  | nil =>
    cases has with
    | cons first _ =>
      obtain ⟨c, compiles, rfl⟩ := first
      simp [anyOfWith, compiles.unknown.1, evalWith]
  | cons branch rest ih =>
    cases has with
    | cons first others =>
      obtain ⟨issues, failed, within⟩ := refused branch (by simp) _ first
      have later := ih others fun other member => refused other (by simp [member])
      simp [anyOfWith, failed, within, later]

section Disjunction

variable {branches : List Node}
  (same : ∀ branch ∈ branches, ∀ branch' check check', Respelled [] branch branch' →
    HasCheck names branch check → HasCheck names' branch' check' →
    evalWith setting down check value path = evalWith setting' down' check' value path)

/-- What an unknown branch may have become accepts, once the branches before it have rejected. -/
theorem whole_accepts {before after : List Node} {token : Option String} {raw : Json}
    (split : branches = before ++ .unknown token raw :: after)
    (refused : ∀ branch ∈ before, ∀ check, HasCheck names' branch check →
      Refused (evalWith setting' down' check value path))
    {node : Node} (member : node ∈ Node.wholes branches) {check : Check}
    (has : HasCheck names' node check) :
    evalWith setting' down' check value path = .ok value := by
  have whole {check : Check} (has : HasCheck names' (.union .anyOf branches) check) :
      evalWith setting' down' check value path = .ok value := by
    obtain ⟨c, compiles, rfl⟩ := has
    obtain ⟨parts, each, eq, -⟩ := compiles.union
    rw [eq]
    simp only [evalWith]
    exact anyOfWith_of_refused (split ▸ HasCheck.of_parts each) refused []
  rcases List.mem_pair.mp member with rfl | rfl
  · exact whole has
  · obtain ⟨c, compiles, rfl⟩ := has
    have orNull : CompilesTo names' (.union .anyOf [.union .anyOf branches, .plain .null]) c :=
      compiles
    obtain ⟨parts, each, eq, -⟩ := orNull.union
    cases each with
    | cons first others =>
      have accepted := whole ⟨_, first, rfl⟩
      rw [eq]
      simp [evalWith, anyOfWith, accepted]

include same in
/-- A disjunction and its respelling go through their branches side by side. Branches before have
rejected in both. -/
theorem anyOfWith_respelled {before rest rest' : List Node} {checks checks' : List Check}
    (split : branches = before ++ rest)
    (each : List.Forall₂ (Respelled (Node.wholes branches)) rest rest')
    (has : List.Forall₂ (HasCheck names) rest checks)
    (has' : List.Forall₂ (HasCheck names') rest' checks')
    (refused : ∀ branch ∈ before, ∀ check, HasCheck names' branch check →
      Refused (evalWith setting' down' check value path))
    (failures : List (List Issue)) :
    anyOfWith setting down checks value path failures =
      anyOfWith setting' down' checks' value path failures := by
  induction each generalizing before checks checks' failures with
  | nil =>
    cases has
    cases has'
    rfl
  | @cons branch branch' rest rest' related _ ih =>
    cases has with
    | @cons _ check _ checks first others =>
      cases has' with
      | @cons _ check' _ checks' first' others' =>
        have member : branch ∈ branches := by simp [split]
        rcases related.own_or_whole with own | ⟨token, raw, rfl, whole⟩
        · have equal := same branch member branch' check check' own first first'
          cases result : evalWith setting down check value path with
          | ok form => simp only [anyOfWith, ← equal, result]
          | error issues =>
            cases deep : anyDepthExceeded issues with
            | true => simp only [anyOfWith, ← equal, result, deep, if_true]
            | false =>
              simp only [anyOfWith, ← equal, result, deep, Bool.false_eq_true, if_false]
              have split' : branches = (before ++ [branch]) ++ rest := by simp [split]
              refine ih split' others others' ?_ _
              intro other inside own' has
              rcases List.mem_append.mp inside with earlier | last
              · exact refused other earlier own' has
              · cases List.mem_singleton.mp last
                refine ⟨issues, ?_, deep⟩
                rw [← same branch member branch check own' (.refl branch) first has, result]
        · -- Both accept: an unknown branch does, and so does the whole that it is part of.
          have accepts : evalWith setting down check value path = .ok value := by
            obtain ⟨c, compiles, rfl⟩ := first
            rw [compiles.unknown.1, evalWith]
          have accepts' : evalWith setting' down' check' value path = .ok value :=
            whole_accepts split refused whole first'
          simp only [anyOfWith, accepts, accepts']

include same in
/-- Branches that are respellings of each other give the same results. -/
theorem branches_alike {rest rest' : List Node} {checks checks' : List Check}
    (subset : rest ⊆ branches) (each : List.Forall₂ (Respelled []) rest rest')
    (has : List.Forall₂ (HasCheck names) rest checks)
    (has' : List.Forall₂ (HasCheck names') rest' checks') :
    List.Forall₂ (fun check check' => evalWith setting down check value path =
      evalWith setting' down' check' value path) checks checks' := by
  induction each generalizing checks checks' with
  | nil =>
    cases has
    cases has'
    exact .nil
  | cons related _ ih =>
    obtain ⟨inside, subset⟩ := List.cons_subset.mp subset
    cases has with
    | cons first others =>
      cases has' with
      | cons first' others' =>
        exact .cons (same _ inside _ _ _ related first first') (ih subset others others')

end Disjunction

/-! ## Nodes -/

variable {good : String → Prop}

variable (names names' good) in
/-- Two ways of checking agree on a node and its respelling that refer to good names only. -/
def Alike (check check' : Descent) : Prop :=
  ∀ node node' own own', Respelled [] node node' → (∀ name ∈ node.targets, good name) →
    HasCheck names node own → HasCheck names' node' own' →
    ∀ value path, check own value path = check' own' value path

/-- One level agrees if the steps down do, and those into the entries of good names. -/
theorem evalWith_alike (strip : setting.stripUnknown = setting'.stripUnknown)
    (parts : Alike names names' good down down')
    (slots : ∀ name, good name → ∀ slot slot', names.idxOf? name = some slot →
      names'.idxOf? name = some slot' → ∀ value path,
        down (setting.slots.getD slot .any) value path =
          down' (setting'.slots.getD slot' .any) value path) :
    Alike names names' good (evalWith setting down) (evalWith setting' down') := by
  intro node
  induction node with
  | scalar kind format constraints =>
    rintro _ own own' respelled refers ⟨c, compiles, rfl⟩ ⟨c', compiles', rfl⟩ value path
    cases respelled with
    | scalar =>
      rw [compiles.scalar.1, compiles'.scalar.1]
      cases kind <;> simp only [scalarCheck, evalWith]
  | enum values =>
    rintro _ own own' respelled refers ⟨c, compiles, rfl⟩ ⟨c', compiles', rfl⟩ value path
    cases respelled with
    | enum => simp only [compiles.enum.1, compiles'.enum.1, evalWith]
  | unknown token raw =>
    rintro _ own own' respelled refers ⟨c, compiles, rfl⟩ ⟨c', compiles', rfl⟩ value path
    cases respelled with
    | unknown => simp only [compiles.unknown.1, compiles'.unknown.1, evalWith]
    | whole member => cases member
  | reference name =>
    rintro _ own own' respelled refers ⟨c, compiles, rfl⟩ ⟨c', compiles', rfl⟩ value path
    cases respelled with
    | reference =>
      obtain ⟨slot, found, eq, -⟩ := compiles.reference
      obtain ⟨slot', found', eq', -⟩ := compiles'.reference
      rw [eq, eq']
      simp only [evalWith]
      exact slots name (refers name (by simp)) slot slot' found found' value path
  | negation inner ih =>
    rintro _ own own' respelled refers ⟨c, compiles, rfl⟩ ⟨c', compiles', rfl⟩ value path
    cases respelled with
    | negation part =>
      obtain ⟨p, has, eq, -⟩ := compiles.negation
      obtain ⟨p', has', eq', -⟩ := compiles'.negation
      have same := ih _ _ _ part (by simpa using refers) ⟨p, has, rfl⟩ ⟨p', has', rfl⟩ value path
      simp only [eq, eq', evalWith, same]
  | array items count unique ih =>
    rintro _ own own' respelled refers ⟨c, compiles, rfl⟩ ⟨c', compiles', rfl⟩ value path
    cases respelled with
    | array inner =>
      obtain ⟨check, has, eq, -⟩ := compiles.array
      obtain ⟨check', has', eq', -⟩ := compiles'.array
      have same := parts _ _ _ _ inner (by simpa using refers) has has'
      rw [eq, eq']
      cases value with
      | array list =>
        have equal : itemsWith down check path 0 list = itemsWith down' check' path 0 list :=
          itemsWith_congr fun entry _ => same entry.1 _
        simp only [evalWith, equal]
      | _ => rfl
  | object properties required count additional =>
    rintro _ own own' respelled refers ⟨c, compiles, rfl⟩ ⟨c', compiles', rfl⟩ value path
    cases respelled with
    | object declared each others =>
      obtain ⟨checks, extra, has, hasExtra, eq, -⟩ := compiles.object
      obtain ⟨checks', extra', has', hasExtra', eq', -⟩ := compiles'.object
      rw [eq, eq']
      cases value with
      | object members =>
        have equal : membersWith (memberWith setting.stripUnknown down checks extra path) members =
            membersWith (memberWith setting'.stripUnknown down' checks' extra' path) members := by
          refine membersWith_congr fun m _ => ?_
          rw [← strip]
          refine memberWith_rel declared each others has hasExtra has' hasExtra' ?_ _
          intro part part' own own' schema _ related hasOwn hasOwn'
          have good := fun name inside =>
            refers name (Node.targets_of_memberNode? schema required count name inside)
          exact parts part part' own own' related good hasOwn hasOwn' _ _
        simp only [evalWith, equal]
      | _ => rfl
  | union mode branches ih =>
    rintro _ own own' respelled refers ⟨c, compiles, rfl⟩ ⟨c', compiles', rfl⟩ value path
    obtain ⟨checks, has, eq, -⟩ := compiles.union
    have same (branch : Node) (member : branch ∈ branches) (branch' : Node) (check check' : Check)
        (related : Respelled [] branch branch') (has : HasCheck names branch check)
        (has' : HasCheck names' branch' check') :=
      ih branch member branch' check check' related
        (fun name inside => refers name (by simpa using ⟨branch, member, inside⟩)) has has' value
        path
    cases respelled with
    | anyOf length each =>
      obtain ⟨checks', has', eq', -⟩ := compiles'.union
      simp only [eq, eq', evalWith]
      exact anyOfWith_respelled same (List.nil_append branches).symm
        (List.forall₂_iff_zip.mpr ⟨length, each⟩) (HasCheck.of_parts has) (HasCheck.of_parts has')
        (by simp) []
    | oneOf each =>
      obtain ⟨checks', has', eq', -⟩ := compiles'.union
      simp only [eq, eq', evalWith]
      have alike := branches_alike same (List.Subset.refl _) each (HasCheck.of_parts has)
        (HasCheck.of_parts has')
      exact oneOfWith_congr alike 0 [] []
  | intersection branches ih =>
    rintro _ own own' respelled refers ⟨c, compiles, rfl⟩ ⟨c', compiles', rfl⟩ value path
    obtain ⟨checks, has, eq, -⟩ := compiles.intersection
    have same (branch : Node) (member : branch ∈ branches) (branch' : Node) (check check' : Check)
        (related : Respelled [] branch branch') (has : HasCheck names branch check)
        (has' : HasCheck names' branch' check') :=
      ih branch member branch' check check' related
        (fun name inside => refers name (by simpa using ⟨branch, member, inside⟩)) has has' value
        path
    cases respelled with
    | intersection each =>
      obtain ⟨checks', has', eq', -⟩ := compiles'.intersection
      simp only [eq, eq', evalWith]
      have alike := branches_alike same (List.Subset.refl _) each (HasCheck.of_parts has)
        (HasCheck.of_parts has')
      exact allOfWith_congr alike [] []

/-- Runs agree if the entries of good names agree in either table of slots. -/
theorem run_alike (strip : setting.stripUnknown = setting'.stripUnknown)
    (limit : setting.maxDepth = setting'.maxDepth)
    (slots : ∀ name, good name → ∀ slot slot', names.idxOf? name = some slot →
      names'.idxOf? name = some slot' → ∃ node node', Respelled [] node node' ∧
        (∀ target ∈ node.targets, good target) ∧
        HasCheck names node (setting.slots.getD slot .any) ∧
        HasCheck names' node' (setting'.slots.getD slot' .any)) (levels : Nat) :
    Alike names names' good (run setting levels) (run setting' levels) := by
  induction levels with
  | zero =>
    intro node node' own own' respelled refers has has' value path
    simp only [run, limit]
  | succ levels ih =>
    refine evalWith_alike strip ih fun name inside slot slot' found found' value path => ?_
    obtain ⟨node, node', respelled, refers, has, has'⟩ := slots name inside slot slot' found found'
    exact ih node node' _ _ respelled refers has has' value path

end Check

/-! ## Registries -/

/-- Entries of good names are respelled in the other document, and refer to good names. -/
def Document.RespelledIn (d d' : Document) (good : String → Prop) : Prop :=
  ∀ name, good name → ∀ node, d.node? name = some node →
    ∃ node', d'.node? name = some node' ∧ Respelled [] node node' ∧
      ∀ target ∈ node.targets, good target

namespace Registry

/-- Registries of two documents give the same outcomes for entries that are respelled in the second
document, with all that they lead to. -/
theorem validate?_of_respelled {options : Options} {d d' : Document} {r r' : Registry}
    (built : build options d = .ok r) (built' : build options d' = .ok r') {good : String → Prop}
    (respelled : d.RespelledIn d' good) {name : String} (inside : good name)
    (known : name ∈ d.names) (value : Json) :
    ∃ outcome, r.validate? name value = some outcome ∧ r'.validate? name value = some outcome := by
  have options := (options_of_build built).trans (options_of_build built').symm
  obtain ⟨compiled, from'⟩ := builtFrom_of_build built
  obtain ⟨compiled', from''⟩ := builtFrom_of_build built'
  have slots (name : String) (inside : good name) (slot slot' : Nat)
      (found : d.names.idxOf? name = some slot) (found' : d'.names.idxOf? name = some slot') :
      ∃ node node', Respelled [] node node' ∧ (∀ target ∈ node.targets, good target) ∧
        HasCheck d.names node (r.setting.slots.getD slot .any) ∧
        HasCheck d'.names node' (r'.setting.slots.getD slot' .any) := by
    obtain ⟨node, entry, place⟩ := Document.node?_of_slot found
    obtain ⟨node', entry', related, refers⟩ := respelled name inside node entry
    obtain ⟨other, same, place'⟩ := Document.node?_of_slot found'
    cases entry'.symm.trans same
    exact ⟨node, node', related, refers, from'.hasCheck place, from''.hasCheck place'⟩
  obtain ⟨slot, found⟩ := Option.isSome_iff_exists.mp (List.isSome_idxOf?.mpr known)
  obtain ⟨node, entry, -⟩ := Document.node?_of_slot found
  obtain ⟨node', entry', -⟩ := respelled name inside node entry
  obtain ⟨slot', found', -⟩ := Document.slot_iff_node?.mp entry'
  obtain ⟨node, node', related, refers, has, has'⟩ := slots name inside slot slot' found found'
  have alike : Check.Alike d.names d'.names good
      (Check.run r.setting (r.options.maxDepth + 1))
      (Check.run r'.setting (r.options.maxDepth + 1)) :=
    Check.run_alike (by simp [setting, options]) (by simp [setting, options]) slots _
  have same := alike node node' _ _ related refers has has' value []
  refine ⟨r.validateSlot slot value, ?_, ?_⟩
  · simp [validate?, slot?, from'.names, found]
  · have equal : r'.validateSlot slot' value = r.validateSlot slot value := by
      have limit : r'.setting.maxDepth = r.options.maxDepth := by simp [setting, options]
      have checks : r'.checks.getD slot' .any = r'.setting.slots.getD slot' .any := rfl
      rw [validateSlot, Check.outcome, limit, checks, ← same]
      rfl
    simp [validate?, slot?, from''.names, found', equal]

end Registry
end DataSchema
