import DataSchema.Proofs.Build
import DataSchema.Proofs.Respelling.Evaluation

/-!
Respellings of documents. A document whose entries are respelled in their places builds exactly if
the document itself does, and gives the same outcome for every entry and value.
-/
namespace DataSchema

open Relation

/-- Entries keep their names and places, and each is a respelling. -/
structure Document.Respells (d d' : Document) : Prop where
  names : d.names = d'.names
  nodes : List.Forall₂ (Respelled []) (d.entries.map Prod.snd) (d'.entries.map Prod.snd)

namespace Document.Respells

variable {d d' : Document} (respells : d.Respells d')
include respells

/-- The entries in one place have one name, and are respelled. -/
theorem entries : List.Forall₂ (fun entry entry' => entry.1 = entry'.1 ∧
    Respelled [] entry.2 entry'.2) d.entries d'.entries := by
  obtain ⟨names, nodes⟩ := respells
  obtain ⟨entries, findings⟩ := d
  obtain ⟨entries', findings'⟩ := d'
  simp only [Document.names] at names nodes ⊢
  induction entries generalizing entries' with
  | nil =>
    obtain rfl := List.map_eq_nil_iff.mp names.symm
    exact .nil
  | cons entry rest ih =>
    cases entries' with
    | nil => cases names
    | cons entry' rest' =>
      obtain ⟨same, others⟩ := List.cons.inj names
      cases nodes with
      | cons related nodes => exact .cons ⟨same, related⟩ (ih rest' others nodes)

theorem resolved_iff : d'.Resolved ↔ d.Resolved := by
  have related := respells.entries
  rw [Document.resolved_iff, Document.resolved_iff, respells.names]
  constructor
  · intro each entry member name refers
    obtain ⟨entry', member', -, node⟩ := forall₂_mem_right related.flip member
    exact each entry' member' name ((node.targets_iff name).mpr refers)
  · intro each entry' member' name refers
    obtain ⟨entry, member, -, node⟩ := forall₂_mem_right related member'
    exact each entry member name ((node.targets_iff name).mp refers)

/-- The same entries are nothing but references. -/
theorem aliases_iff (slot target : Nat) : d'.Aliases slot target ↔ d.Aliases slot target := by
  have related := respells.entries
  unfold Document.Aliases
  rw [respells.names]
  constructor
  · rintro ⟨entry, name, place, named⟩
    obtain ⟨⟨entry', node⟩, place', -, respelled⟩ := forall₂_getElem? related.flip place
    cases (respelled.reference_iff name).mp rfl
    exact ⟨entry', name, place', named⟩
  · rintro ⟨entry, name, place, named⟩
    obtain ⟨⟨entry', node⟩, place', -, respelled⟩ := forall₂_getElem? related place
    cases (respelled.reference_iff name).mpr rfl
    exact ⟨entry', name, place', named⟩

theorem aliasCycles_eq : d'.aliasCycles = d.aliasCycles := by
  have same : d'.Aliases = d.Aliases :=
    funext₂ fun slot target => propext (respells.aliases_iff slot target)
  unfold Document.aliasCycles
  rw [same]

/-- Every entry is found respelled under its name. -/
theorem respelledIn : d.RespelledIn d' fun _ => True := by
  intro name _ node found
  obtain ⟨slot, named, place⟩ := Document.slot_iff_node?.mp found
  obtain ⟨⟨name', node'⟩, place', same, respelled⟩ := forall₂_getElem? respells.entries place
  cases same
  have found' : d'.node? name = some node' :=
    Document.slot_iff_node?.mpr ⟨slot, respells.names ▸ named, place'⟩
  exact ⟨node', found', respelled, fun _ _ => trivial⟩

end Document.Respells

namespace Registry

variable {options : Options} {d d' : Document}

/-- A respelled document builds exactly if the document does. -/
theorem build_iff_of_respells (respells : d.Respells d') :
    (∃ r, build options d' = .ok r) ↔ ∃ r, build options d = .ok r := by
  constructor
  · rintro ⟨r, built⟩
    exact build_of_no_cycle options (respells.resolved_iff.mp (resolved_of_build built))
      (respells.aliasCycles_eq ▸ aliasCycles_of_build built)
  · rintro ⟨r, built⟩
    exact build_of_no_cycle options (respells.resolved_iff.mpr (resolved_of_build built))
      (respells.aliasCycles_eq.trans (aliasCycles_of_build built))

/-- Entries of a document and of one in which it is respelled have the same outcomes. -/
theorem validate?_of_respells {r r' : Registry} (respells : d.Respells d')
    (built : build options d = .ok r) (built' : build options d' = .ok r') {name : String}
    (known : name ∈ d.names) (value : Json) :
    ∃ outcome, r.validate? name value = some outcome ∧ r'.validate? name value = some outcome :=
  validate?_of_respelled built built' respells.respelledIn trivial known value

end Registry
end DataSchema
