import DataSchema.Proofs.Identifiers
import DataSchema.Proofs.Locations
import DataSchema.Proofs.References

/-!
Texts of positions in schemas. The segments that lead to a position are read from its text again,
so no text stands for two lists of segments. The segments tell the positions of one schema apart:
those in a source, where a member and an item may have the same segment but not in the same value,
and those in a node, where no part goes on where another one begins.
-/
namespace DataSchema

/-! ## Reading a text -/

namespace Json.Pointer

open Text (replaced)

/-- The segments of a text: what stands between the slashes, of which the first one begins the text,
with a slash for each `~1` and with a tilde, after that, for each `~0`. -/
def decoded? (text : String) : Option (List String) :=
  match text.toList.splitOn '/' with
  | [] :: parts => some <| parts.map fun part =>
      String.ofList (replaced ['~', '0'] ['~'] (replaced ['~', '1'] ['/'] part))
  | _ => none

/-- A text is split into nothing and the escaped segments. -/
theorem splitOn_render (segments : List String) :
    (render segments).toList.splitOn '/' =
      [] :: segments.map fun segment => escapeChars segment.toList := by
  rw [render, String.toList_ofList, ← Text.parts_eq_splitOn]
  cases segments with
  | nil => rfl
  | cons segment rest =>
    have slash (cs : List Char) : Text.parts (· == '/') ('/' :: cs) =
        [] :: Text.parts (· == '/') cs := rfl
    rw [renderChars, slash, parts_renderChars]

theorem decoded?_render (segments : List String) : decoded? (render segments) = some segments := by
  have each (segment : String) : String.ofList
      (replaced ['~', '0'] ['~'] (replaced ['~', '1'] ['/'] (escapeChars segment.toList))) =
        segment := by
    rw [← unescapeChars_eq_replaced, unescapeChars_escapeChars, String.ofList_toList]
  rw [decoded?, splitOn_render]
  simp [Function.comp_def, each]

theorem render_injective : Function.Injective render := by
  intro segments others same
  have read := congrArg decoded? same
  rwa [decoded?_render, decoded?_render, Option.some_inj] at read

end Json.Pointer

/-! ## Positions in sources -/

/-- A segment as it is written in a pointer. -/
def Segment.word : Segment → String
  | .key name => name
  | .index place => toString place

/-- The text of a position in a source. -/
def Path.location (path : Path) : String := Json.Pointer.render (path.map Segment.word)

/-- In one value, different segments that lead somewhere are written differently. -/
theorem Json.segment_eq_of_word_eq {value child next : Json} {segment other : Segment}
    (leads : value.child? segment = some child) (leads' : value.child? other = some next)
    (same : segment.word = other.word) : segment = other := by
  cases value with
  | object members =>
    cases segment <;> cases other <;> first | cases leads | cases leads' | exact congrArg _ same
  | array items =>
    cases segment <;> cases other <;> first | cases leads | cases leads' | skip
    exact congrArg _ (Nat.repr_injective same)
  | _ => cases leads

theorem Json.path_eq_of_words_eq {value : Json} {path other : Path} {part part' : Json}
    (leads : value.at? path = some part) (leads' : value.at? other = some part')
    (same : path.map Segment.word = other.map Segment.word) : path = other := by
  induction path generalizing value other with
  | nil => exact (List.map_eq_nil_iff.mp same.symm).symm
  | cons segment rest ih =>
    obtain ⟨first, rest', rfl, word, words⟩ := List.map_eq_cons_iff.mp same.symm
    obtain ⟨child, step, deeper⟩ := Option.bind_eq_some_iff.mp leads
    obtain ⟨child', step', deeper'⟩ := Option.bind_eq_some_iff.mp leads'
    obtain rfl := segment_eq_of_word_eq step step' word.symm
    cases step.symm.trans step'
    rw [ih deeper deeper' words.symm]

/-! ## Positions in nodes -/

/-- No list of segments goes on from both places. -/
def Apart (place other : List String × Node) : Prop :=
  ∀ rest more, place.1 ++ rest ≠ other.1 ++ more

namespace Node

variable {node : Node}

private theorem apart_of_last_ne {pointer : List String} {keyword last last' : String}
    {part part' : Node} (differ : last ≠ last') :
    Apart (pointer ++ [keyword, last], part) (pointer ++ [keyword, last'], part') := by
  intro rest more same
  simp [differ] at same

/-- Branches stand at different indices. -/
private theorem branches_apart (pointer : List String) (keyword : String) (branches : List Node) :
    (branches.zipIdx.map fun branch =>
      (pointer ++ [keyword, toString branch.2], branch.1)).Pairwise Apart := by
  have indices : branches.zipIdx.Pairwise fun a b => a.2 ≠ b.2 := by
    refine List.pairwise_map.mp ?_
    rw [List.zipIdx_map_snd]
    exact List.nodup_range'
  refine List.pairwise_map.mpr (indices.imp fun differ => apart_of_last_ne fun same => ?_)
  exact differ (Nat.repr_injective same)

/-- The parts of a node are apart if members are declared once. -/
theorem parts_apart (once : node.NamesOnce) (pointer : List String) :
    (node.parts pointer).Pairwise Apart := by
  cases node with
  | union mode branches => exact branches_apart pointer mode.keyword branches
  | intersection branches => exact branches_apart pointer "allOf" branches
  | object properties required count additional =>
    refine List.pairwise_append.mpr ⟨?_, ?_, ?_⟩
    · have names := List.pairwise_map.mp (once properties required count additional .self)
      exact List.pairwise_map.mpr (names.imp apart_of_last_ne)
    · cases additional <;> simp [additionalParts]
    · intro declared among other outside rest more same
      obtain ⟨property, -, rfl⟩ := List.mem_map.mp among
      cases additional with
      | schema node =>
        obtain rfl := List.mem_singleton.mp outside
        simp at same
      | _ => cases outside
  | _ => simp [parts]

theorem NamesOnce.of_mem_parts (once : node.NamesOnce) {pointer : List String}
    {part : List String × Node} (among : part ∈ node.parts pointer) : part.2.NamesOnce :=
  fun properties required count additional inside =>
    once properties required count additional (inside.trans (within_of_mem_parts among))

/-- Every place in a node goes on from the place of the node. -/
theorem prefix_of_mem_places {pointer segments : List String}
    (among : segments ∈ (node.places pointer).map Prod.fst) :
    ∃ rest, segments = pointer ++ rest := by
  obtain ⟨place, inside, rfl⟩ := List.mem_map.mp among
  rcases below_of_mem_places inside with rfl | ⟨segment, rest, below⟩
  · exact ⟨[], (List.append_nil _).symm⟩
  · exact ⟨segment :: rest, below⟩

/-- No two places in a node have the same segments. -/
theorem nodup_places (once : node.NamesOnce) (pointer : List String) :
    ((node.places pointer).map Prod.fst).Nodup := by
  induction node using Node.parts_induction generalizing pointer with
  | step node ih =>
    rw [places_eq, List.map_cons, List.map_flatMap, List.nodup_cons, List.nodup_flatMap]
    refine ⟨?_, fun part among => ?_, ?_⟩
    -- The place of the node itself is shorter than all places in its parts.
    · intro again
      obtain ⟨part, among, inside⟩ := List.mem_flatMap.mp again
      obtain ⟨segment, rest, below⟩ := below_of_mem_parts among
      obtain ⟨more, deeper⟩ := prefix_of_mem_places inside
      simp [below] at deeper
    · exact ih pointer part among (once.of_mem_parts among) part.1
    · refine (parts_apart once pointer).imp fun apart => ?_
      intro segments inside inside'
      obtain ⟨rest, rfl⟩ := prefix_of_mem_places inside
      obtain ⟨more, same⟩ := prefix_of_mem_places inside'
      exact apart rest more same

end Node

/-- The segments of a position are read from its text again, by splitting it at slashes and undoing
the two replacements in turn, so different segments have different texts. So do different positions
of one schema, in its source as well as in the node that it is read as. -/
theorem locations_are_lossless :
    (∀ segments, Json.Pointer.decoded? (Json.Pointer.render segments) = some segments) ∧
    (∀ segments others, segments ≠ others →
      Json.Pointer.render segments ≠ Json.Pointer.render others) ∧
    (∀ (source : Json) (place other : Path), (source.at? place).isSome → (source.at? other).isSome →
      place ≠ other → place.location ≠ other.location) ∧
    ∀ d : Document, d.NamesOnce → ∀ entry ∈ d.entries,
      ((entry.2.places []).map fun place => Json.Pointer.render place.1).Nodup := by
  refine ⟨Json.Pointer.decoded?_render, fun segments others => Json.Pointer.render_injective.ne,
    fun source place other leads leads' differ same => ?_, fun d once entry member => ?_⟩
  · obtain ⟨part, leads⟩ := Option.isSome_iff_exists.mp leads
    obtain ⟨part', leads'⟩ := Option.isSome_iff_exists.mp leads'
    exact differ (Json.path_eq_of_words_eq leads leads' (Json.Pointer.render_injective same))
  · have apart := Node.nodup_places (once.members entry member) []
    rw [← Function.comp_def Json.Pointer.render, ← List.map_map]
    exact apart.map Json.Pointer.render_injective

/-- Names that a pointer has to escape, one that looks escaped, and one that is empty. -/
def oddNames : Document :=
  ⟨[("Odd", .object [("", .any), ("/", .negation .any), ("~1", .any)] [] {} (.schema .any))], []⟩

theorem odd_names_are_told_apart :
    oddNames.NamesOnce ∧
    (∃ entry ∈ oddNames.entries,
      ((entry.2.places []).map fun place => Json.Pointer.render place.1) =
        ["", "/properties/", "/properties/~1", "/properties/~1/not", "/properties/~01",
          "/additionalProperties"] ∧
      ((entry.2.places []).map fun place => Json.Pointer.render place.1).Nodup) ∧
    Json.Pointer.render ["properties", "/"] ≠ Json.Pointer.render ["properties", "", ""] ∧
    Path.location [.key "0", .index 0] ≠ Path.location [.key "0", .index 1] := by
  have once : oddNames.NamesOnce := by
    refine ⟨by decide, fun entry member => ?_⟩
    obtain rfl := List.mem_singleton.mp member
    intro properties required count additional within
    cases within with
    | self => decide
    | property among inside =>
      simp only [List.mem_cons, List.not_mem_nil, or_false] at among
      rcases among with rfl | rfl | rfl
      · cases inside
      · cases inside with
        | negation deeper => cases deeper
      · cases inside
    | additional inside => cases inside
  obtain ⟨-, segments, sources, nodes⟩ := locations_are_lossless
  refine ⟨once, ⟨_, List.mem_singleton_self _, by decide +kernel, nodes _ once _
    (List.mem_singleton_self _)⟩, segments _ _ (by decide), ?_⟩
  exact sources (.object [("0", .array [.null, .null])]) _ _ rfl rfl (by decide)

end DataSchema
