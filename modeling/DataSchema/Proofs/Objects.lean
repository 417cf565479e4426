import DataSchema.Proofs.Compilation

/-!
Objects in two documents that declare the same names, with related schemas. Each member then has
related schemas or none in both, so that what is made of it is the same as soon as checks of related
schemas agree.
-/
namespace DataSchema

/-- Both say the same of members that are not declared, up to the schemas that they have. -/
inductive Additional.Rel {α : Type} (R : α → α → Prop) : Additional α → Additional α → Prop
  | allow : Additional.Rel R .allow .allow
  | deny : Additional.Rel R .deny .deny
  | schema {node node' : α} (related : R node node') :
      Additional.Rel R (.schema node) (.schema node')

theorem Additional.Rel.refl {α : Type} {R : α → α → Prop} {additional : Additional α}
    (each : ∀ node, additional = .schema node → R node node) :
    Additional.Rel R additional additional := by
  cases additional with
  | allow => exact .allow
  | deny => exact .deny
  | schema node => exact .schema (each node rfl)

namespace Check

variable {R : Node → Node → Prop} {properties properties' : List (String × Node)}
  {additional additional' : Additional Node}
  (declared : properties.map Prod.fst = properties'.map Prod.fst)
  (each : List.Forall₂ R (properties.map Prod.snd) (properties'.map Prod.snd))
  (others : Additional.Rel R additional additional')

include declared each others in
/-- Schemas of one member are related. -/
theorem memberNode?_rel (name : String) :
    Option.Rel R (memberNode? properties additional name)
      (memberNode? properties' additional' name) := by
  induction properties generalizing properties' with
  | nil =>
    obtain rfl := List.map_eq_nil_iff.mp declared.symm
    cases others with
    | schema related => exact .some related
    | _ => exact .none
  | cons property rest ih =>
    cases properties' with
    | nil => cases declared
    | cons property' rest' =>
      obtain ⟨key, node⟩ := property
      obtain ⟨key', node'⟩ := property'
      obtain ⟨same, later⟩ := List.cons.inj declared
      cases (same : key = key')
      cases each with
      | cons first each =>
        have later := ih later each
        unfold memberNode? at later ⊢
        rw [List.lookup_cons, List.lookup_cons]
        cases name == key with
        | true => exact .some first
        | false => exact later

variable {names names' : List String} {count : CountRange} {checks checks' : List (String × Check)}
  {extra extra' : Extra Check} {down down' : Descent} {path : Path} {name : String} {value : Json}

include others in
/-- What a schema for other members says of those it has no schema for. -/
theorem memberWith_of_none_rel (has : HasExtra names count additional extra)
    (has' : HasExtra names' count additional' extra') (free : memberCheck? checks extra name = none)
    (free' : memberCheck? checks' extra' name = none) (strip : Bool) :
    memberWith strip down checks extra path name value =
      memberWith strip down' checks' extra' path name value := by
  rw [memberWith_of_none free, memberWith_of_none free']
  cases others with
  | allow =>
    cases has with
    | closed _ closed =>
      cases has' with
      | closed => rfl
      | allowed opened => simp [opened] at closed
    | allowed opened =>
      cases has' with
      | closed _ closed => simp [opened] at closed
      | allowed => rfl
  | deny =>
    cases has with
    | closed => cases has' with
      | closed => rfl
  | schema related =>
    cases has with
    | closed _ closed => cases closed
    | checked => cases has' with
      | closed _ closed => cases closed
      | checked => rfl

include declared each others in
/-- The same is made of a member if the checks of its schemas agree on it. -/
theorem memberWith_rel (has : List.Forall₂ (HasProperty names) properties checks)
    (hasExtra : HasExtra names count additional extra)
    (has' : List.Forall₂ (HasProperty names') properties' checks')
    (hasExtra' : HasExtra names' count additional' extra')
    (agree : ∀ part part' own own', memberNode? properties additional name = some part →
      memberCheck? checks extra name = some own → R part part' → HasCheck names part own →
      HasCheck names' part' own' →
      down own value (path ++ [.key name]) = down' own' value (path ++ [.key name]))
    (strip : Bool) :
    memberWith strip down checks extra path name value =
      memberWith strip down' checks' extra' path name value := by
  have node := memberNode?_rel declared each others name
  have check := memberCheck?_rel has hasExtra name
  have check' := memberCheck?_rel has' hasExtra' name
  cases schema : memberNode? properties additional name with
  | none =>
    rw [schema] at node check
    rw [eq_none_of_rel node] at check'
    exact memberWith_of_none_rel others hasExtra hasExtra' (eq_none_of_rel check)
      (eq_none_of_rel check') strip
  | some part =>
    rw [schema] at node check
    obtain ⟨part', schema', related⟩ := exists_of_rel node
    rw [schema'] at check'
    obtain ⟨own, given, hasOwn⟩ := exists_of_rel check
    obtain ⟨own', given', hasOwn'⟩ := exists_of_rel check'
    rw [memberWith_of_check given, memberWith_of_check given',
      agree part part' own own' schema given related hasOwn hasOwn']

end Check
end DataSchema
