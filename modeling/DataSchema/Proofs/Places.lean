import DataSchema.Check.Issue
import DataSchema.Proofs.Json.Members

/-!
Places in values. A segment leads from an object to a member and from an array to an item, and a
path leads to a place if each of its segments leads somewhere.
-/
namespace DataSchema
namespace Json

/-- What a segment leads to. -/
def child? : Json → Segment → Option Json
  | .object members, .key name => member? members name
  | .array items, .index place => items[place]?
  | _, _ => none

/-- What stands at a place. -/
def at? (value : Json) : Path → Option Json
  | [] => some value
  | segment :: rest => (value.child? segment).bind fun child => child.at? rest

variable {value part : Json} {path : Path} {segment : Segment}

@[simp] theorem at?_nil (value : Json) : value.at? [] = some value := rfl

@[simp] theorem at?_cons (value : Json) (segment : Segment) (rest : Path) :
    value.at? (segment :: rest) = (value.child? segment).bind fun child => child.at? rest := rfl

/-- A path that goes on leads on from where it led. -/
theorem at?_append (value : Json) (path more : Path) :
    value.at? (path ++ more) = (value.at? path).bind fun part => part.at? more := by
  induction path generalizing value with
  | nil => rfl
  | cons segment rest ih =>
    rw [List.cons_append, at?_cons, at?_cons, Option.bind_assoc]
    simp only [ih]

/-- One more segment leads to a child of what stood there. -/
theorem at?_snoc (found : value.at? path = some part) (segment : Segment) :
    value.at? (path ++ [segment]) = part.child? segment := by
  simp [at?_append, found]

/-- Where no name comes twice, the name of a member leads to it. -/
theorem member?_of_mem {members : Members} (names : (members.map Prod.fst).Nodup) {name : String}
    {member : Json} (inside : (name, member) ∈ members) : member? members name = some member := by
  induction members with
  | nil => cases inside
  | cons first rest ih =>
    obtain ⟨fresh, names⟩ := List.nodup_cons.mp names
    rcases List.mem_cons.mp inside with rfl | later
    · simp
    · have differ : first.1 ≠ name := fun same =>
        fresh (same ▸ List.mem_map_of_mem later)
      rw [member?_cons, if_neg (by simpa using differ), ih names later]

/-- What stands at a place of a value that JSON has is such a value. -/
theorem WellFormed.at? (wellFormed : value.WellFormed) (found : value.at? path = some part) :
    part.WellFormed := by
  induction path generalizing value with
  | nil =>
    cases found
    exact wellFormed
  | cons segment rest ih =>
    obtain ⟨child, first, found⟩ := Option.bind_eq_some_iff.mp found
    refine ih ?_ found
    cases value with
    | object members =>
      cases segment with
      | key name => exact wellFormed.member first
      | index place => cases first
    | array items =>
      cases segment with
      | key name => cases first
      | index place => exact wellFormed.items child (List.mem_of_getElem? first)
    | _ => cases first

end Json
end DataSchema
