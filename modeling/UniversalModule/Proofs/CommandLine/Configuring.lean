import UniversalModule.Proofs.CommandLine.Reading
import UniversalModule.Proofs.Project.Overriding
import UniversalModule.Proofs.Project.Reading

/-!
The project that a call compiles with. A field is what the arguments say, else what the project file says, else
that of the default project.
-/

namespace UniversalModule.CommandLine

open Host (Location Tree)

/-- A project that has what the arguments say, and what the one that it starts from has elsewhere. -/
structure Commanded (arguments : Arguments) (base project : Project) : Prop where
  filename : project.filename = (arguments.value? .outFile).or base.filename
  dirname : project.dirname = (arguments.value? .outDir).or base.dirname
  coreFilename : project.coreFilename = (arguments.value? .core).or base.coreFilename
  exportName : project.exportName = (arguments.value? .exportName).getD base.exportName
  runtimeVar : project.runtimeVar = base.runtimeVar
  exportAliases : project.exportAliases = if arguments.aliases = [] then base.exportAliases else arguments.aliases
  scopeTemplates : project.scopeTemplates = if arguments.has .noScope then false else base.scopeTemplates
  sourceMap : project.sourceMap = if arguments.has .inlineSourceMap then true else base.sourceMap
  coreOptions : match arguments.value? .coreOptions with
    | none => project.coreOptions = base.coreOptions
    | some text => Json.Value.ofText? text = some project.coreOptions
  requires : project.requires = base.requires
  bundler : project.bundler = (arguments.value? .bundler).getD base.bundler

section Commanded

variable {arguments : Arguments} {base project other : Project}

theorem commanded_merge {coreOptions : Option Json.Value} (read : arguments.coreOptions? = .ok coreOptions) :
    Commanded arguments base (base.merge (arguments.toOverride coreOptions)) where
  filename := Option.orElse_eq_or
  dirname := Option.orElse_eq_or
  coreFilename := Option.orElse_eq_or
  exportName := rfl
  runtimeVar := rfl
  exportAliases := by
    cases given : arguments.aliases <;> simp [Project.merge, Arguments.toOverride, given]
  scopeTemplates := by
    cases given : arguments.has .noScope <;> simp [Project.merge, Arguments.toOverride, given]
  sourceMap := by
    cases given : arguments.has .inlineSourceMap <;> simp [Project.merge, Arguments.toOverride, given]
  coreOptions := by
    unfold Arguments.coreOptions? at read
    cases given : arguments.value? .coreOptions with
    | none =>
        rw [given] at read
        cases read
        rfl
    | some text =>
        rw [given] at read
        simp only at read ⊢
        cases parsed : Json.Value.ofText? text with
        | none =>
            rw [parsed] at read
            exact absurd read (by simp)
        | some value =>
            rw [parsed] at read
            cases read
            rfl
  requires := rfl
  bundler := rfl

theorem Commanded.unique (first : Commanded arguments base project) (second : Commanded arguments base other) :
    project = other := by
  have coreOptions : project.coreOptions = other.coreOptions := by
    have known := first.coreOptions
    have again := second.coreOptions
    cases given : arguments.value? .coreOptions with
    | none =>
        rw [given] at known again
        exact known.trans again.symm
    | some text =>
        rw [given] at known again
        exact Option.some.inj (known.symm.trans again)
  cases project
  cases other
  rw [Project.mk.injEq]
  exact ⟨first.filename.trans second.filename.symm, first.dirname.trans second.dirname.symm,
    first.coreFilename.trans second.coreFilename.symm, first.exportName.trans second.exportName.symm,
    first.runtimeVar.trans second.runtimeVar.symm, first.exportAliases.trans second.exportAliases.symm,
    first.scopeTemplates.trans second.scopeTemplates.symm, first.sourceMap.trans second.sourceMap.symm,
    coreOptions, first.requires.trans second.requires.symm, first.bundler.trans second.bundler.symm⟩

theorem commanded_iff : Commanded arguments base project ↔
    ∃ coreOptions, arguments.coreOptions? = .ok coreOptions ∧
      base.merge (arguments.toOverride coreOptions) = project := by
  constructor
  · intro commanded
    have readable : ∃ coreOptions, arguments.coreOptions? = .ok coreOptions := by
      have known := commanded.coreOptions
      unfold Arguments.coreOptions?
      cases given : arguments.value? .coreOptions with
      | none => exact ⟨none, rfl⟩
      | some text =>
          rw [given] at known
          simp only at known
          simp only [known]
          exact ⟨_, rfl⟩
    obtain ⟨coreOptions, read⟩ := readable
    exact ⟨coreOptions, read, (commanded_merge read).unique commanded⟩
  · rintro ⟨coreOptions, read, rfl⟩
    exact commanded_merge read

end Commanded

/-- Overrides one after another set each field as the last of them that sets it, which is what a single override
does; the project of a call has the arguments in the place of what its project file says, and that in the place of
the default project. -/
theorem effectiveProject_settled :
    (∀ (project : Project) (changes : List Override),
      Overridden project changes (changes.foldl Project.merge project) ∧
      changes.foldl Project.merge project = project.merge (Override.combined changes)) ∧
    (∀ (project : Project) (change : Override), (project.merge change).merge change = project.merge change) ∧
    (∀ (commands : Commands) (current : Location) (arguments : Arguments) (tree last : Tree) (project : Project),
      ((treeMachine commands current).effectiveProject arguments).run.run tree = (.ok project, last) ↔
        last = tree ∧ ∃ base, StartsFrom tree current arguments base ∧ Commanded arguments base project) ∧
    ∀ text project, Project.ofText? text = some project → Project.Holds text project := by
  refine ⟨?_, Project.merge_merge_self, ?_, fun _ _ => Project.holds_of_text⟩
  · intro project changes
    exact ⟨project.overridden_foldl changes, project.foldl_merge_eq changes⟩
  intro commands current arguments tree last project
  rw [run_effectiveProject_eq_ok_iff]
  simp only [commanded_iff, exists_and_left]

def renamingArguments : Arguments := ⟨[], [(.outFile, "out.js")], ["Templates"], [.noScope]⟩

def renamedText : Text :=
  "compilerOptions:\n filename: lib.js\n exportName: Views\n exportAliases: [Old]\n sourceMap: true\n"

def renamedSources : Tree := Tree.empty.addFile [projectFile.text] ⟨renamedText.utf8, false⟩

theorem exists_renamedProject : ∃ base, Project.ofText? renamedText = some base ∧ base.filename = some "lib.js" ∧
    base.exportName = "Views" ∧ base.exportAliases = ["Old"] ∧ base.scopeTemplates = true ∧ base.sourceMap = true ∧
    base.bundler = "browserify" := by
  have told : (Project.ofText? renamedText).any (fun base => decide (base.filename = some ("lib.js" : Text) ∧
      base.exportName = ("Views" : Text) ∧ base.exportAliases = [("Old" : Text)] ∧ base.scopeTemplates = true ∧
      base.sourceMap = true ∧ base.bundler = ("browserify" : Text))) = true := by decide +kernel
  obtain ⟨base, read, shown⟩ := (Option.any_eq_true _ _).mp told
  exact ⟨base, read, of_decide_eq_true shown⟩

/-- What the arguments say takes the place of what the file says, and the rest is as in the file, or as in the
default project; and aliases can be taken away. -/
theorem effectiveProject_settled_renaming :
    ∃ base project, Project.ofText? renamedText = some base ∧ base.filename = some "lib.js" ∧
      base.exportAliases = ["Old"] ∧ base.scopeTemplates = true ∧
      ((treeMachine (fun _ _ _ _ => return .ok []) []).effectiveProject renamingArguments).run.run renamedSources =
        (.ok project, renamedSources) ∧
      project.filename = some "out.js" ∧ project.exportName = "Views" ∧ project.exportAliases = ["Templates"] ∧
      project.scopeTemplates = false ∧ project.sourceMap = true ∧ project.bundler = "browserify" ∧
      ([⟨none, none, none, some "Other", some ["Other"], none, none, none, none⟩,
        ⟨none, none, none, none, some [], none, none, none, none⟩].foldl Project.merge project).exportAliases = [] := by
  obtain ⟨settled, -, configured, -⟩ := effectiveProject_settled
  obtain ⟨base, read, filename, exportName, exportAliases, scopeTemplates, sourceMap, bundler⟩ := exists_renamedProject
  have located : renamedSources.locate [] projectFile = .ok [projectFile.text] := rfl
  have content : renamedSources.read [] projectFile = .ok renamedText :=
    Tree.read_of_found (Tree.found_of_locate located rfl) rfl
  have known : Configured renamedSources [] renamingArguments := fun _ => by rw [Tree.holds, located]
  have commanded : Commanded renamingArguments base (base.merge (renamingArguments.toOverride none)) :=
    commanded_merge rfl
  refine ⟨base, _, read, filename, exportAliases, scopeTemplates,
    (configured _ _ _ _ _ _).mpr ⟨rfl, base, .file known content read, commanded⟩, rfl, exportName, rfl, rfl, sourceMap,
    bundler, ?_⟩
  rw [(settled _ _).1.exportAliases]
  rfl

end UniversalModule.CommandLine
