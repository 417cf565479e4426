import DataSchema.Proofs.Respelling.Evaluation
import Mathlib.Logic.Relation

/-!
What an outcome depends on. An entry gives the same outcomes in any two documents that agree on the
entries it leads to, whatever stands in their slots and whatever else there is.
-/
namespace DataSchema

open Relation

/-- The second name is that of an entry which the entry of the first name leads to. -/
def Document.Reaches (d : Document) : String → String → Prop := ReflTransGen d.Refers

/-- What an entry leads to is respelled in any document that has the same entries there. -/
theorem Document.respelledIn_of_same {d d' : Document} {name : String}
    (same : ∀ m, d.Reaches name m → d'.node? m = d.node? m) :
    d.RespelledIn d' (d.Reaches name) := by
  intro m reached node entry
  have entry' : d'.node? m = some node := (same m reached).trans entry
  exact ⟨node, entry', .refl node, fun target refers => reached.tail ⟨node, entry, refers⟩⟩

namespace Registry

/-- Two documents that have the same node under every name that an entry leads to give the same
outcome for the entry: the same accepted form or the same issues. Their other entries may differ, as
may the order of all. -/
theorem outcome_of_same_reachable (options : Options) (d d' : Document) (r r' : Registry)
    (built : build options d = .ok r) (built' : build options d' = .ok r') (name : String)
    (known : name ∈ d.names) (same : ∀ m, d.Reaches name m → d'.node? m = d.node? m)
    (value : Json) :
    ∃ outcome, r.validate? name value = some outcome ∧ r'.validate? name value = some outcome :=
  validate?_of_respelled built built' (Document.respelledIn_of_same same) .refl known value

/-- Chains of links that carry words, and an entry apart from them. -/
def wordChains : Document :=
  ⟨[("Link", .object [("next", .reference "Link"), ("word", .reference "Word")] ["word"] {} .deny),
    ("Apart", .plain .boolean), ("Word", .plain .string)], []⟩

/-- The same chains in another order. The entry apart is another one, and there are more. -/
def movedWordChains : Document :=
  ⟨[("Word", .plain .string), ("Apart", .negation (.reference "More")), ("More", .enum [.null]),
    ("Link", .object [("next", .reference "Link"), ("word", .reference "Word")] ["word"] {} .deny)],
    []⟩

/-- Chains lead to links and words only. -/
theorem reaches_of_wordChains {m : String} (reached : wordChains.Reaches "Link" m) :
    m = "Link" ∨ m = "Word" := by
  induction reached with
  | refl => exact .inl rfl
  | tail _ refers ih =>
    obtain ⟨node, entry, inside⟩ := refers
    rcases ih with rfl | rfl
    · cases entry
      simpa [Node.additionalTargets] using inside
    · cases entry
      cases inside

/-- A chain whose second link has no word is refused alike in either order. -/
theorem moved_word_chains_refuse_alike :
    ∃ r r', build {} wordChains = .ok r ∧ build {} movedWordChains = .ok r' ∧
      "Link" ∈ wordChains.names ∧
      (∀ m, wordChains.Reaches "Link" m → movedWordChains.node? m = wordChains.node? m) ∧
      ∃ outcome,
        r.validate? "Link" (.object [("word", .string "a"), ("next", .object [])]) = some outcome ∧
        r'.validate? "Link" (.object [("word", .string "a"), ("next", .object [])]) =
          some outcome := by
  have same (m : String) (reached : wordChains.Reaches "Link" m) :
      movedWordChains.node? m = wordChains.node? m := by
    rcases reaches_of_wordChains reached with rfl | rfl <;> rfl
  exact ⟨_, _, rfl, rfl, by decide, same,
    outcome_of_same_reachable {} wordChains movedWordChains _ _ rfl rfl "Link" (by decide) same _⟩

end Registry
end DataSchema
