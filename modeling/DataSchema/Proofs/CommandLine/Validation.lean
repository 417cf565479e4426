import DataSchema.CommandLine.Run
import DataSchema.Proofs.CommandLine.FileTrees
import DataSchema.Proofs.CommandLine.Inputs
import DataSchema.Proofs.Dates
import DataSchema.Proofs.Reading.Findings

/-!
Runs of the command that checks values against one schema. Such a run has two parts: all that it
needs is loaded, and then it tells what it has found in four ways, of which a written report is the
last. All four are about the same instances with the same outcomes in the same order, and a run that
fails in either part changes no file.
-/
namespace DataSchema

namespace CommandLine

variable {tree after : FileTree} {schema name : String} {source : InputSource}
  {options : OptionSource} {out : Option String} {answer : Answer} {registry : Registry}

/-! ## What is loaded -/

/-- The options of the file, or the usual ones without a file, but for those given in their
place. -/
def OptionSource.Settles (tree : FileTree) (s : OptionSource) (options : Options) : Prop :=
  ∃ base : Options,
    (match s.config with
      | none => base = {}
      | some path => ∃ text, tree.read path = .ok text ∧ Options.ofText text = .ok base) ∧
    options = ⟨s.maxDepth.getD base.maxDepth,
      if s.stripUnknown then .strip else base.unknownKeys⟩

/-- The file holds a document that the registry is built from. -/
def Compiles (tree : FileTree) (schema : String) (options : Options) (registry : Registry) : Prop :=
  ∃ text document, tree.read schema = .ok text ∧ Document.ofText text = .ok document ∧
    Registry.build options document = .ok registry

/-- All that is needed to check values against a schema of a name has been found in the files. -/
structure Ready (tree : FileTree) (schema name : String) (source : InputSource)
    (options : OptionSource) (registry : Registry) (instances : List Instance) : Prop where
  compiles : ∃ settled, options.Settles tree settled ∧ Compiles tree schema settled registry
  known : name ∈ registry.names
  loads : source.Loads tree instances

theorem OptionSource.load_eq_ok_iff {settled : Options} :
    resultIn tree options.load = .ok settled ↔ options.Settles tree settled := by
  unfold load Settles
  cases options.config with
  | none =>
    simp only [resultIn_bind, resultIn_pure, bind_eq_ok_iff, Except.ok.injEq, exists_eq_left',
      exists_eq_left]
    exact eq_comm
  | some path =>
    simp only [loadConfig, resultIn_bind, resultIn_pure, resultIn_liftExcept, bind_eq_ok_iff,
      readSource_eq_ok_iff, explain_eq_ok_iff, Except.ok.injEq]
    simp only [eq_comm (b := settled)]

theorem loadRegistry_eq_ok_iff {settled : Options} :
    resultIn tree (loadRegistry schema settled) = .ok registry ↔
      Compiles tree schema settled registry := by
  simp only [loadRegistry, loadDocument, resultIn_bind, resultIn_liftExcept, bind_eq_ok_iff,
    readSource_eq_ok_iff, explain_eq_ok_iff, Compiles]
  constructor
  · rintro ⟨document, ⟨text, read, made⟩, built⟩
    exact ⟨text, document, read, made, built⟩
  · rintro ⟨text, document, read, made, built⟩
    exact ⟨document, ⟨text, read, made⟩, built⟩

/-- What is found in the files is determined by them. -/
theorem Ready.unique {registry' : Registry} {instances instances' : List Instance}
    (ready : Ready tree schema name source options registry instances)
    (other : Ready tree schema name source options registry' instances') :
    registry = registry' ∧ instances = instances' := by
  obtain ⟨⟨settled, settles, compiles⟩, -, loads⟩ := ready
  obtain ⟨⟨settled', settles', compiles'⟩, -, loads'⟩ := other
  rw [← OptionSource.load_eq_ok_iff] at settles settles'
  obtain rfl : settled = settled' := Except.ok.inj (settles.symm.trans settles')
  rw [← loadRegistry_eq_ok_iff] at compiles compiles'
  rw [← InputSource.load_eq_ok_iff] at loads loads'
  exact ⟨Except.ok.inj (compiles.symm.trans compiles'), Except.ok.inj (loads.symm.trans loads')⟩

/-! ## What is told -/

/-- The lines on checked instances: a heading for each, in their order, under which the issues of a
rejected one stand. -/
inductive Shown : List (Instance × Outcome) → List String → Prop
  | none : Shown [] []
  | accepted {one value rest lines} (more : Shown rest lines) :
      Shown ((one, .accepted value) :: rest) (("✔ " ++ one.source) :: lines)
  | rejected {one issues details rest lines}
      (each : List.Forall₂ (fun issue line => line = "    " ++ Issue.text issue) issues details)
      (more : Shown rest lines) :
      Shown ((one, .rejected issues) :: rest) (("✘ " ++ one.source) :: (details ++ lines))

/-- An answer tells the same of all checked instances by its headings, its count and its status. The
count stands alone where a command writes it: a log of findings is no part of an answer. -/
structure Answer.Tells (a : Answer) (checked : List (Instance × Outcome)) : Prop where
  headings : ∃ lines, Shown checked lines ∧ a.stdout = textOfLines lines
  count : a.stderr = toString (checked.filter fun entry => entry.2.isAccepted).length ++ " of " ++
    toString checked.length ++ " instances valid\n"
  rejects : a.exit = 1 ↔ ∃ entry ∈ checked, entry.2.isAccepted = false
  accepts : a.exit = 0 ↔ ∀ entry ∈ checked, entry.2.isAccepted = true

end CommandLine
end DataSchema
