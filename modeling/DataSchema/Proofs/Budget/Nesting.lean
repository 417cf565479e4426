import Mathlib.Data.Nat.Find
import DataSchema.Proofs.Parts

/-!
How deep the calls of an evaluation nest. Here a call is made only while there is fuel for it, and a
depth is counted up from zero in a machine word. A call at the same depth goes to a part of the
check, and any other call is one deeper, so that what is left of the budget and the height of the
check bound the calls inside each other, whatever the references of a registry lead to.
-/
namespace DataSchema

/-! ## Answers -/

/-- An answer that is given before is given after. -/
def Keeps {α : Type} (before after : Option α) : Prop :=
  ∀ answer, before = some answer → after = some answer

namespace Keeps

variable {α β : Type}

theorem refl (answer : Option α) : Keeps answer answer := fun _ given => given

theorem trans {first second third : Option α} (before : Keeps first second)
    (after : Keeps second third) : Keeps first third :=
  fun answer given => after answer (before answer given)

theorem bind {before after : Option α} {next next' : α → Option β} (first : Keeps before after)
    (rest : ∀ answer, Keeps (next answer) (next' answer)) :
    Keeps (before >>= next) (after >>= next') := by
  intro answer given
  obtain ⟨own, found, given⟩ := Option.bind_eq_some_iff.mp given
  exact Option.bind_eq_some_iff.mpr ⟨own, first own found, rest own answer given⟩

theorem of_le {f : Nat → Option α} (step : ∀ n, Keeps (f n) (f (n + 1))) {n m : Nat}
    (more : n ≤ m) : Keeps (f n) (f m) := by
  induction more with
  | refl => exact .refl _
  | step _ ih => exact ih.trans (step _)

/-- Where answers are kept and there is one, it is given from some number on and not before. -/
theorem exists_least {f : Nat → Option α} (step : ∀ n, Keeps (f n) (f (n + 1))) {bound : Nat}
    {answer : α} (found : f bound = some answer) :
    ∃ least ≤ bound, ∀ n, f n = if least ≤ n then some answer else none := by
  classical
  have exists_answer : ∃ n, f n = some answer := ⟨bound, found⟩
  have least_le := Nat.find_min' exists_answer found
  refine ⟨Nat.find exists_answer, least_le, fun n => ?_⟩
  split
  · next more => exact of_le step more answer (Nat.find_spec exists_answer)
  · next fewer =>
    cases given : f n with
    | none => rfl
    | some other =>
      -- An earlier answer is still given at the bound, so it is this one.
      have same := of_le step (by omega : n ≤ bound) other given
      rw [found, Option.some.injEq] at same
      exact absurd (Nat.find_min' exists_answer (same ▸ given)) fewer

end Keeps

namespace Check

/-! ## Calls

The loops of an evaluation with the calls that they make. Where one of its calls gives no answer, a
loop gives none. -/

/-- A call that may give no answer. -/
abbrev Call := Check → Json → Path → Option Checked

def itemsCalls (call : Call) (items : Check) (path : Path) :
    Nat → List Json → Option (List Json × List Issue)
  | _, [] => some ([], [])
  | index, value :: rest => do
    let result ← call items value (path ++ [.index index])
    let (forms, issues) ← itemsCalls call items path (index + 1) rest
    match result with
    | .ok form => some (form :: forms, issues)
    | .error found => some (forms, found ++ issues)

def memberCall (strip : Bool) (call : Call) (properties : List (String × Check))
    (extra : Extra Check) (path : Path) (name : String) (value : Json) : Option MemberResult :=
  let here := path ++ [.key name]
  match properties.lookup name with
  | some check => do
    let result ← call check value here
    some (.of result)
  | none =>
    match extra with
    | .allow => some (if strip then {} else ⟨some value, true, []⟩)
    | .reject => some ⟨none, false, [⟨here, .unknownProperty name⟩]⟩
    | .check check => do
      let result ← call check value here
      some (.of result)

def membersCalls (member : String → Json → Option MemberResult) :
    Members → Option (Members × Nat × List Issue)
  | [] => some ([], 0, [])
  | (name, value) :: rest => do
    let result ← member name value
    let (forms, kept, issues) ← membersCalls member rest
    some (result.form.toList.map (fun form => (name, form)) ++ forms,
      kept + (if result.counts then 1 else 0), result.issues ++ issues)

/-- Goes on after a branch that accepts or refuses. One with an overrun is handed on. -/
def afterBranch (accepted : Json → Option Checked) (refused : List Issue → Option Checked) :
    Checked → Option Checked
  | .ok form => accepted form
  | .error issues => if anyDepthExceeded issues then some (.error issues) else refused issues

def anyOfCalls (call : Call) (value : Json) (path : Path) :
    List Check → List (List Issue) → Option Checked
  | [], failures => some (reject path (.noBranchMatched .anyOf failures))
  | branch :: rest, failures => do
    let result ← call branch value path
    afterBranch (fun form => some (.ok form))
      (fun issues => anyOfCalls call value path rest (failures ++ [issues])) result

def oneOfCalls (call : Call) (value : Json) (path : Path) :
    List Check → Nat → List (Nat × Json) → List (List Issue) → Option Checked
  | [], _, matched, failures => some (choose path matched failures)
  | branch :: rest, index, matched, failures => do
    let result ← call branch value path
    afterBranch
      (fun form =>
        oneOfCalls call value path rest (index + 1) (matched ++ [(index, form)]) failures)
      (fun issues => oneOfCalls call value path rest (index + 1) matched (failures ++ [issues]))
      result

def allOfCalls (call : Call) (value : Json) (path : Path) :
    List Check → List Json → List Issue → Option Checked
  | [], outputs, issues => some (settle (mergeOutputs outputs) issues)
  | branch :: rest, outputs, issues => do
    let result ← call branch value path
    afterBranch (fun form => allOfCalls call value path rest (outputs ++ [form]) issues)
      (fun found => allOfCalls call value path rest outputs (issues ++ found)) result

/-- What is done in one call, where `call` makes the calls at the same depth and `down` those one
deeper. Checks of scalars make none. -/
def body (setting : Setting) (call down : Call) (check : Check) (value : Json) (path : Path) :
    Option Checked :=
  match check with
  | .array items rules =>
    match value with
    | .array list => do
      let (forms, issues) ← itemsCalls down items path 0 list
      some (settle (.array forms) (issues ++ issuesAt path (ArrayRule.reasons rules list)))
    | other => some (reject path (.type "array" other.kind))
  | .object properties required extra rules =>
    match value with
    | .object members => do
      let member := memberCall setting.stripUnknown down properties extra path
      let (forms, kept, issues) ← membersCalls member members
      some (settle (.object forms)
        (issues ++ missing required members path
          ++ issuesAt path (ObjectRule.reasons rules kept)))
    | other => some (reject path (.type "object" other.kind))
  | .union .anyOf branches => anyOfCalls call value path branches []
  | .union .oneOf branches => oneOfCalls call value path branches 0 [] []
  | .intersection branches => allOfCalls call value path branches [] []
  | .negation inner => do
    let result ← call inner value path
    afterBranch (fun _ => some (reject path .negatedSchemaMatched)) (fun _ => some (.ok value))
      result
  | .ref slot => do
    let check ← setting.slots[slot]?
    down check value path
  | scalar => some (run setting 1 scalar value path)

/-- The next depth in machine words up to `largest`, where zero follows the largest. -/
def nextDepth (largest depth : Nat) : Nat := (depth + 1) % (largest + 1)

/-- Checks a value at a depth with at most `fuel` calls inside each other, this one among them. -/
def runNested (setting : Setting) (largest : Nat) : Nat → Nat → Call
  | 0, _, _, _, _ => none
  | fuel + 1, depth, check, value, path =>
    if setting.maxDepth < depth then some (reject path (.depthExceeded setting.maxDepth))
    else
      body setting (runNested setting largest fuel depth)
        (runNested setting largest fuel (nextDepth largest depth)) check value path

/-! ## Parts that are called -/

/-- The parts that a check calls at the same depth. -/
def branches : Check → List Check
  | .union _ branches | .intersection branches => branches
  | .negation inner => [inner]
  | _ => []

/-- What a check calls one deeper: the checks of items and members, or what stands in a slot. -/
def stepsDown (slots : List Check) : Check → List Check
  | .array items _ => [items]
  | .object properties _ extra _ =>
    properties.map (·.2) ++ match extra with
      | .check check => [check]
      | _ => []
  | .ref slot => slots[slot]?.toList
  | _ => []

mutual

/-- The largest number of checks inside each other. What stands in the slot of a reference does not
count. -/
def height : Check → Nat
  | .array items _ => items.height + 1
  | .object properties _ extra _ => max (propertiesHeight properties) (extraHeight extra) + 1
  | .union _ branches | .intersection branches => tallest branches + 1
  | .negation inner => inner.height + 1
  | _ => 1

def tallest : List Check → Nat
  | [] => 0
  | check :: rest => max check.height (tallest rest)

def propertiesHeight : List (String × Check) → Nat
  | [] => 0
  | (_, check) :: rest => max check.height (propertiesHeight rest)

def extraHeight : Extra Check → Nat
  | .check check => check.height
  | _ => 0

end

variable {slots : List Check} {check part : Check}

theorem height_pos (check : Check) : 0 < check.height := by
  unfold height
  split <;> omega

theorem height_le_tallest (member : part ∈ slots) : part.height ≤ tallest slots := by
  induction slots with
  | nil => cases member
  | cons head rest ih =>
    rw [tallest]
    rcases List.mem_cons.mp member with rfl | later
    · omega
    · exact Nat.le_trans (ih later) (Nat.le_max_right _ _)

theorem height_le_propertiesHeight {properties : List (String × Check)}
    {property : String × Check} (member : property ∈ properties) :
    property.2.height ≤ propertiesHeight properties := by
  induction properties with
  | nil => cases member
  | cons head rest ih =>
    rw [propertiesHeight]
    rcases List.mem_cons.mp member with rfl | later
    · omega
    · exact Nat.le_trans (ih later) (Nat.le_max_right _ _)

theorem height_lt_of_branch (branch : part ∈ check.branches) : part.height < check.height := by
  cases check with
  | union mode branches => exact Nat.lt_succ_of_le (height_le_tallest branch)
  | intersection branches => exact Nat.lt_succ_of_le (height_le_tallest branch)
  | negation inner =>
    cases List.mem_singleton.mp branch
    exact Nat.lt_succ_self _
  | _ => cases branch

/-- A step down goes to a lower check, or to one in a slot. -/
theorem height_of_stepDown (step : part ∈ check.stepsDown slots) :
    part.height < check.height + tallest slots := by
  cases check with
  | array items rules =>
    cases List.mem_singleton.mp step
    rw [height]
    omega
  | object properties required extra rules =>
    rw [height]
    rcases List.mem_append.mp step with declared | other
    · obtain ⟨property, member, rfl⟩ := List.mem_map.mp declared
      have := height_le_propertiesHeight member
      omega
    · cases extra with
      | check own =>
        cases List.mem_singleton.mp other
        rw [extraHeight]
        omega
      | _ => cases other
  | ref slot =>
    have own := height_pos (.ref slot)
    have target := height_le_tallest (List.mem_of_getElem? (Option.mem_toList.mp step))
    omega
  | _ => cases step

theorem mem_stepsDown_of_memberCheck? {properties : List (String × Check)} {extra : Extra Check}
    {name : String} (given : memberCheck? properties extra name = some check)
    (required : List String) (rules : List ObjectRule) :
    check ∈ (Check.object properties required extra rules).stepsDown slots := by
  rcases mem_of_memberCheck? given with declared | rfl
  · exact List.mem_append_left _ (List.mem_map_of_mem declared)
  · exact List.mem_append_right _ List.mem_cons_self

/-- The references of a check lead to slots that there are. -/
def InRange (count : Nat) (check : Check) : Prop :=
  ∀ slot, (Check.ref slot).Within check → slot < count

theorem InRange.branch {count : Nat} (inRange : check.InRange count)
    (branch : part ∈ check.branches) : part.InRange count := by
  intro slot inside
  apply inRange
  cases check with
  | union mode branches => exact .union branch inside
  | intersection branches => exact .intersection branch inside
  | negation inner =>
    cases List.mem_singleton.mp branch
    exact .negation inside
  | _ => cases branch

theorem InRange.stepDown {count : Nat} (inSlots : ∀ check ∈ slots, check.InRange count)
    (inRange : check.InRange count) (step : part ∈ check.stepsDown slots) :
    part.InRange count := by
  intro slot inside
  cases check with
  | array items rules =>
    cases List.mem_singleton.mp step
    exact inRange slot (.array inside)
  | object properties required extra rules =>
    rcases List.mem_append.mp step with declared | other
    · obtain ⟨property, member, rfl⟩ := List.mem_map.mp declared
      exact inRange slot (.property member inside)
    · cases extra with
      | check own =>
        cases List.mem_singleton.mp other
        exact inRange slot (.extra inside)
      | _ => cases other
  | ref own => exact inSlots part (List.mem_of_getElem? (Option.mem_toList.mp step)) slot inside
  | _ => cases step

/-! ## More answers of parts -/

section Keeps

variable {call call' down down' : Call} {value : Json} {path : Path}

theorem itemsCalls_keeps {items : Check}
    (each : ∀ value path, Keeps (call items value path) (call' items value path)) (index : Nat)
    (list : List Json) :
    Keeps (itemsCalls call items path index list) (itemsCalls call' items path index list) := by
  induction list generalizing index with
  | nil => exact .refl _
  | cons value rest ih => exact .bind (each _ _) fun _ => .bind (ih _) fun _ => .refl _

theorem memberCall_keeps {properties : List (String × Check)} {extra : Extra Check}
    (each : ∀ name check, memberCheck? properties extra name = some check →
      ∀ value path, Keeps (call check value path) (call' check value path))
    (strip : Bool) (name : String) (value : Json) :
    Keeps (memberCall strip call properties extra path name value)
      (memberCall strip call' properties extra path name value) := by
  unfold memberCall
  cases declared : properties.lookup name with
  | some check =>
    have given : memberCheck? properties extra name = some check := by simp [memberCheck?, declared]
    exact .bind (each name check given _ _) fun _ => .refl _
  | none =>
    cases extra with
    | check check =>
      have given : memberCheck? properties (.check check) name = some check := by
        simp [memberCheck?, declared]
      exact .bind (each name check given _ _) fun _ => .refl _
    | _ => exact .refl _

theorem membersCalls_keeps {member member' : String → Json → Option MemberResult}
    (each : ∀ name value, Keeps (member name value) (member' name value)) (members : Members) :
    Keeps (membersCalls member members) (membersCalls member' members) := by
  induction members with
  | nil => exact .refl _
  | cons head rest ih => exact .bind (each _ _) fun _ => .bind ih fun _ => .refl _

theorem afterBranch_keeps {accepted accepted' : Json → Option Checked}
    {refused refused' : List Issue → Option Checked}
    (accept : ∀ form, Keeps (accepted form) (accepted' form))
    (refuse : ∀ issues, Keeps (refused issues) (refused' issues)) (result : Checked) :
    Keeps (afterBranch accepted refused result) (afterBranch accepted' refused' result) := by
  cases result with
  | ok form => exact accept form
  | error issues =>
    rw [afterBranch, afterBranch]
    split
    · exact .refl _
    · exact refuse issues

section Branches

variable {parts : List Check}
  (each : ∀ branch ∈ parts, Keeps (call branch value path) (call' branch value path))
include each

theorem anyOfCalls_keeps (failures : List (List Issue)) :
    Keeps (anyOfCalls call value path parts failures)
      (anyOfCalls call' value path parts failures) := by
  induction parts generalizing failures with
  | nil => exact .refl _
  | cons branch rest ih =>
    obtain ⟨first, others⟩ := List.forall_mem_cons.mp each
    exact .bind first (afterBranch_keeps (fun _ => .refl _) fun _ => ih others _)

theorem oneOfCalls_keeps (index : Nat) (matched : List (Nat × Json))
    (failures : List (List Issue)) :
    Keeps (oneOfCalls call value path parts index matched failures)
      (oneOfCalls call' value path parts index matched failures) := by
  induction parts generalizing index matched failures with
  | nil => exact .refl _
  | cons branch rest ih =>
    obtain ⟨first, others⟩ := List.forall_mem_cons.mp each
    exact .bind first (afterBranch_keeps (fun _ => ih others _ _ _) fun _ => ih others _ _ _)

theorem allOfCalls_keeps (outputs : List Json) (issues : List Issue) :
    Keeps (allOfCalls call value path parts outputs issues)
      (allOfCalls call' value path parts outputs issues) := by
  induction parts generalizing outputs issues with
  | nil => exact .refl _
  | cons branch rest ih =>
    obtain ⟨first, others⟩ := List.forall_mem_cons.mp each
    exact .bind first (afterBranch_keeps (fun _ => ih others _ _) fun _ => ih others _ _)

end Branches

/-- The body of a call gives an answer again when what it calls does. -/
theorem body_keeps (setting : Setting)
    (branch : ∀ part ∈ check.branches, Keeps (call part value path) (call' part value path))
    (step : ∀ part ∈ check.stepsDown setting.slots,
      ∀ value path, Keeps (down part value path) (down' part value path)) :
    Keeps (body setting call down check value path)
      (body setting call' down' check value path) := by
  cases check with
  | array items rules =>
    cases value with
    | array list =>
      exact .bind (itemsCalls_keeps (step items List.mem_cons_self) 0 list) fun _ => .refl _
    | _ => exact .refl _
  | object properties required extra rules =>
    cases value with
    | object members =>
      refine .bind (membersCalls_keeps (memberCall_keeps (fun name check given => ?_) _) members)
        fun _ => .refl _
      exact step check (mem_stepsDown_of_memberCheck? given required rules)
    | _ => exact .refl _
  | union mode branches =>
    cases mode with
    | anyOf => exact anyOfCalls_keeps branch []
    | oneOf => exact oneOfCalls_keeps branch 0 [] []
  | intersection branches => exact allOfCalls_keeps branch [] []
  | negation inner => exact .bind (branch inner List.mem_cons_self) fun _ => .refl _
  | ref slot =>
    intro answer given
    obtain ⟨target, found, given⟩ := Option.bind_eq_some_iff.mp given
    have among : target ∈ (Check.ref slot).stepsDown setting.slots := by simp [stepsDown, found]
    exact Option.bind_eq_some_iff.mpr ⟨target, found, step target among value path answer given⟩
  | _ => exact .refl _

end Keeps

/-! ## Evaluation -/

section Evaluation

variable {setting : Setting} {down : Descent} {value : Json} {path : Path}

theorem itemsCalls_some (items : Check) (index : Nat) (list : List Json) :
    itemsCalls (fun check value path => some (down check value path)) items path index list =
      some (itemsWith down items path index list) := by
  induction list generalizing index with
  | nil => rfl
  | cons value rest ih =>
    rw [itemsCalls, itemsWith, ih]
    cases result : down items value (path ++ [.index index]) <;> simp

theorem memberCall_some (strip : Bool) (properties : List (String × Check))
    (extra : Extra Check) :
    memberCall strip (fun check value path => some (down check value path)) properties extra path =
      fun name value => some (memberWith strip down properties extra path name value) := by
  funext name value
  unfold memberCall memberWith
  cases properties.lookup name with
  | some check => rfl
  | none => cases extra <;> rfl

theorem membersCalls_some (member : String → Json → MemberResult) (members : Members) :
    membersCalls (fun name value => some (member name value)) members =
      some (membersWith member members) := by
  induction members with
  | nil => rfl
  | cons head rest ih =>
    simp only [membersCalls, membersWith, ih, Option.bind_eq_bind, Option.bind_some]

theorem anyOfCalls_some (parts : List Check) (failures : List (List Issue)) :
    anyOfCalls (fun check value path => some (evalWith setting down check value path)) value path
        parts failures =
      some (anyOfWith setting down parts value path failures) := by
  induction parts generalizing failures with
  | nil => rfl
  | cons branch rest ih =>
    rw [anyOfCalls, anyOfWith]
    cases result : evalWith setting down branch value path with
    | ok form => rfl
    | error issues => cases deep : anyDepthExceeded issues <;> simp [afterBranch, deep, ih]

theorem oneOfCalls_some (parts : List Check) (index : Nat) (matched : List (Nat × Json))
    (failures : List (List Issue)) :
    oneOfCalls (fun check value path => some (evalWith setting down check value path)) value path
        parts index matched failures =
      some (oneOfWith setting down parts value path index matched failures) := by
  induction parts generalizing index matched failures with
  | nil => rfl
  | cons branch rest ih =>
    rw [oneOfCalls, oneOfWith]
    cases result : evalWith setting down branch value path with
    | ok form => exact ih _ _ _
    | error issues => cases deep : anyDepthExceeded issues <;> simp [afterBranch, deep, ih]

theorem allOfCalls_some (parts : List Check) (outputs : List Json) (issues : List Issue) :
    allOfCalls (fun check value path => some (evalWith setting down check value path)) value path
        parts outputs issues =
      some (allOfWith setting down parts value path outputs issues) := by
  induction parts generalizing outputs issues with
  | nil => rfl
  | cons branch rest ih =>
    rw [allOfCalls, allOfWith]
    cases result : evalWith setting down branch value path with
    | ok form => exact ih _ _
    | error found => cases deep : anyDepthExceeded found <;> simp [afterBranch, deep, ih]

/-- Where all calls give an answer, the body of a call gives that of one level. -/
theorem body_some {check : Check} (inRange : check.InRange setting.slots.length) :
    body setting (fun check value path => some (evalWith setting down check value path))
        (fun check value path => some (down check value path)) check value path =
      some (evalWith setting down check value path) := by
  cases check with
  | array items rules =>
    cases value with
    | array list =>
      simp only [body, evalWith, itemsCalls_some, Option.bind_eq_bind, Option.bind_some]
    | _ => rfl
  | object properties required extra rules =>
    cases value with
    | object members =>
      simp only [body, evalWith, memberCall_some, membersCalls_some, Option.bind_eq_bind,
        Option.bind_some]
    | _ => rfl
  | union mode branches =>
    cases mode with
    | anyOf => exact anyOfCalls_some branches []
    | oneOf => exact oneOfCalls_some branches 0 [] []
  | intersection branches => exact allOfCalls_some branches [] []
  | negation inner =>
    rw [body, evalWith]
    cases result : evalWith setting down inner value path with
    | ok form => rfl
    | error issues => cases deep : anyDepthExceeded issues <;> simp [afterBranch, deep]
  | ref slot =>
    have inside := inRange slot .self
    simp [body, evalWith, inside]
  | _ => rfl

end Evaluation

/-! ## Fuel that is enough -/

variable {setting : Setting} {largest : Nat}

theorem nextDepth_of_lt {depth : Nat} (small : depth < largest) :
    nextDepth largest depth = depth + 1 := Nat.mod_eq_of_lt (Nat.succ_lt_succ small)

/-- More fuel changes no answer. -/
theorem runNested_keeps (fuel depth : Nat) (check : Check) (value : Json) (path : Path) :
    Keeps (runNested setting largest fuel depth check value path)
      (runNested setting largest (fuel + 1) depth check value path) := by
  induction fuel generalizing depth check value path with
  | zero => nofun
  | succ fuel ih =>
    rw [runNested, runNested]
    split
    · exact .refl _
    · exact body_keeps setting (fun part _ => ih depth part value path)
        fun part _ value path => ih _ part value path

/-- What is left of the budget and the height of the check bound the calls that nest. A step down
takes a level and leads to a check no higher than the tallest, and any other call leads to a check
that is lower. -/
theorem runNested_eq_run (inSlots : ∀ check ∈ setting.slots, check.InRange setting.slots.length)
    (small : setting.maxDepth < largest) {fuel depth levels : Nat} {check : Check} {value : Json}
    {path : Path} (inRange : check.InRange setting.slots.length)
    (left : depth + levels = setting.maxDepth + 1)
    (enough : check.height + levels * tallest setting.slots ≤ fuel) :
    runNested setting largest fuel depth check value path =
      some (run setting levels check value path) := by
  induction fuel generalizing depth levels check value path with
  | zero =>
    have := height_pos check
    omega
  | succ fuel ih =>
    rw [runNested]
    cases levels with
    | zero =>
      rw [if_pos (by omega)]
      rfl
    | succ levels =>
      rw [if_neg (by omega), nextDepth_of_lt (by omega)]
      rw [Nat.succ_mul] at enough
      refine body_keeps setting (fun part branch => ?_) (fun part step value path => ?_) _
        (body_some inRange)
      · have lower := height_lt_of_branch branch
        have answer : runNested setting largest fuel depth part value path =
            some (run setting (levels + 1) part value path) :=
          ih (inRange.branch branch) left (by rw [Nat.succ_mul]; omega)
        exact answer ▸ .refl _
      · have lower := height_of_stepDown step
        have answer : runNested setting largest fuel (depth + 1) part value path =
            some (run setting levels part value path) :=
          ih (.stepDown inSlots inRange step) (by omega) (by omega)
        exact answer ▸ .refl _

/-- The bound on the budget is needed: no depth exceeds the largest, and a reference to itself is
followed for ever. -/
theorem runNested_of_largest_budget {strip : Bool} {value : Json} {path : Path} (fuel : Nat)
    {depth : Nat} (inside : depth ≤ largest) :
    runNested ⟨[.ref 0], largest, strip⟩ largest fuel depth (.ref 0) value path = none := by
  induction fuel generalizing depth with
  | zero => rfl
  | succ fuel ih =>
    have next : nextDepth largest depth ≤ largest := Nat.le_of_lt_succ (Nat.mod_lt _ (by omega))
    rw [runNested, if_neg (Nat.not_lt.mpr inside)]
    exact ih next

end Check

namespace Registry

/-- The references of what a document builds are in range. -/
theorem BuiltFrom.inRange {d : Document} {r : Registry} {compiled : List (Compiled Check)}
    (built : BuiltFrom d r compiled) :
    ∀ check ∈ r.checks, check.InRange r.checks.length := by
  intro check member slot within
  obtain ⟨own, place, rfl⟩ := List.mem_iff_getElem.mp member
  have inSlot : r.checks.getD own .any = r.checks[own] := by
    simp [List.getD_eq_getElem?_getD, place]
  rw [← inSlot] at within
  rcases built.exists_within within with absent | ⟨entry, -, inner, -, has⟩
  · cases absent
  · cases has.form with
    | reference found =>
      have inside := (List.idxOf?_eq_some_iff.mp found).choose
      rw [built.checks, List.length_map, ← built.entries.length_eq]
      simpa [Document.names] using inside

/-- However the references of a registry lead, the calls of an evaluation nest no deeper than two
more than the budget times the height of the tallest entry. With so much fuel the answer is that of
the evaluation, with more it stays the same, and only with less than is needed there is none. -/
theorem calls_nest_within_bound (largest : Nat) (r : Registry)
    (inRange : ∀ check ∈ r.checks, check.InRange r.checks.length)
    (small : r.options.maxDepth < largest) (value : Json) :
    ∀ check ∈ r.checks, ∃ nesting ≤ (r.options.maxDepth + 2) * Check.tallest r.checks,
      ∀ fuel, Check.runNested r.setting largest fuel 0 check value [] =
        if nesting ≤ fuel then some (Check.run r.setting (r.options.maxDepth + 1) check value [])
        else none := by
  intro check member
  refine Keeps.exists_least (fun fuel => Check.runNested_keeps fuel 0 check value []) ?_
  refine Check.runNested_eq_run inRange small (inRange check member) (Nat.zero_add _) ?_
  have own := Check.height_le_tallest member
  change check.height + (r.options.maxDepth + 1) * Check.tallest r.checks ≤ _
  rw [Nat.succ_mul (r.options.maxDepth + 1)]
  omega

/-- Entries that lead to each other without a step down. -/
def twisted : Document :=
  ⟨[("Left", .intersection [.reference "Right", .plain .string]),
    ("Right", .negation (.negation (.reference "Left")))], []⟩

/-- The taller of two entries has three checks inside each other, so fifteen calls are enough for a
budget of three. -/
theorem twisted_calls_nest_within_bound : ∃ r, build ⟨3, .strip⟩ twisted = .ok r ∧
    (∀ check ∈ r.checks, check.InRange r.checks.length) ∧
    r.options.maxDepth < 0xFFFFFFFFFFFFFFFF ∧
    ∃ nesting ≤ 15, ∀ fuel,
      Check.runNested r.setting 0xFFFFFFFFFFFFFFFF fuel 0 (r.checks.getD 0 .any) .null [] =
        if nesting ≤ fuel then some (.error [⟨[], .depthExceeded 3⟩]) else none := by
  obtain ⟨compiled, built⟩ := builtFrom_of_build (rfl : build ⟨3, .strip⟩ twisted = .ok _)
  refine ⟨_, rfl, built.inRange, by decide, ?_⟩
  exact calls_nest_within_bound 0xFFFFFFFFFFFFFFFF _ built.inRange (by decide) .null _
    List.mem_cons_self

end Registry
end DataSchema
