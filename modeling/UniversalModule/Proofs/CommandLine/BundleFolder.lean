import UniversalModule.Proofs.CommandLine.OutputFolder
import UniversalModule.Proofs.Compile.Requests

/-!
The directory in which packages are bundled and under which templates are labelled: the one that is set,
else the folder of the output file, else the current one. What is found for a directory that is not set is
never the empty path. A directory that is set is taken as it is, the empty path too; nothing leads there, so
that no template has a label under it and no command can be started in it.
-/

namespace UniversalModule

theorem Path.isEmpty_iff {path : Path} : path.isEmpty = true ↔ path = ⟨[]⟩ := by
  obtain ⟨text⟩ := path
  rw [isEmpty, List.isEmpty_iff, mk.injEq]

namespace Options

/-- The directory for bundling, by what options say of directories. -/
inductive BundlesIn (options : Options) : Path → Prop where
  | configured {folder : Path} (set : options.dirname = some folder) : BundlesIn options folder
  | besideOutput {outputFile parent : Path} (unset : options.dirname = none)
      (file : options.filename = some outputFile) (above : outputFile.parent? = some parent)
      (shown : parent.isEmpty = false) : BundlesIn options parent
  | here (unset : options.dirname = none)
      (alone : ∀ outputFile parent, options.filename = some outputFile → outputFile.parent? = some parent →
        parent.isEmpty = true) : BundlesIn options ⟨['.']⟩

variable {options : Options}

theorem BundlesIn.eq_bundleDir {folder : Path} (within : options.BundlesIn folder) : folder = options.bundleDir := by
  cases within with
  | configured set => rw [bundleDir, set]
  | besideOutput unset file above shown =>
      rw [bundleDir, unset, file]
      simp only [Option.bind_some, above, shown, Bool.false_eq_true, if_false]
  | here unset alone =>
      rw [bundleDir, unset]
      cases found : options.filename.bind Path.parent? with
      | none => rfl
      | some parent =>
          obtain ⟨outputFile, file, above⟩ := Option.bind_eq_some_iff.mp found
          simp only [alone outputFile parent file above, if_true]

theorem bundlesIn_bundleDir (options : Options) : options.BundlesIn options.bundleDir := by
  cases set : options.dirname with
  | some folder =>
      rw [bundleDir, set]
      exact .configured set
  | none =>
      -- Without a directory of its own, the output file's folder counts when it has a name.
      by_cases named : ∃ outputFile parent, options.filename = some outputFile ∧
          outputFile.parent? = some parent ∧ parent.isEmpty = false
      · obtain ⟨outputFile, parent, file, above, shown⟩ := named
        have within : options.BundlesIn parent := .besideOutput set file above shown
        rwa [← within.eq_bundleDir]
      · have within : options.BundlesIn ⟨['.']⟩ := by
          refine .here set fun outputFile parent file above => ?_
          by_contra shown
          exact named ⟨outputFile, parent, file, above, by simpa using shown⟩
        rwa [← within.eq_bundleDir]

theorem bundlesIn_iff {folder : Path} : options.BundlesIn folder ↔ folder = options.bundleDir :=
  ⟨BundlesIn.eq_bundleDir, fun same => same ▸ bundlesIn_bundleDir options⟩

/-- The directory is the empty path only where it is set to that. -/
theorem isEmpty_bundleDir_iff (options : Options) :
    options.bundleDir.isEmpty = true ↔ options.dirname = some ⟨[]⟩ := by
  have within := bundlesIn_bundleDir options
  generalize options.bundleDir = folder at within
  cases within with
  | configured set => rw [Path.isEmpty_iff, set, Option.some.injEq]
  | besideOutput unset file above shown => simp [unset, shown]
  | here unset alone => simp [unset, Path.isEmpty]

/-- Packages are asked for in the directory for bundling, all at once. -/
theorem eq_of_bundle_mem_requests {schedule : Schedule} {folder : Path} {packages : List Text}
    (member : .bundle folder packages ∈ options.requests schedule) :
    folder = options.bundleDir ∧ packages = Resolution.bundledPackages options.requires := by
  have asked : .bundle folder packages ∈ options.bundleRequests := by
    cases schedule with
    | coreFirst => simpa [requests] using member
    | bundleFirst => simpa [requests] using member
  unfold bundleRequests at asked
  split at asked
  · exact absurd asked (by simp)
  · cases List.mem_singleton.mp asked
    exact ⟨rfl, rfl⟩

end Options

namespace CommandLine

open Host (Location Tree)

variable {answer : Tree → Location → Text → Path → List Text → Except BundleError Text}
  {current : Location} {arguments : Arguments} {project : Project} {options : Options} {tree : Tree}

theorem holds_emptyPath (tree : Tree) (current : Location) : tree.holds current ⟨[]⟩ = false := rfl

/-- The templates of a call are labelled by their places under the directory for bundling. -/
theorem relative_of_gathered {gathered : Gathered} (of : Gathered.Of answer current arguments tree gathered)
    {fragment : Fragment} (member : fragment ∈ gathered.fragments) :
    fragment.relative = labelIn tree current gathered.options.bundleDir fragment.path := by
  obtain ⟨index, bound, rfl⟩ := List.getElem_of_mem member
  have named := of.templates.length_eq ▸ bound
  obtain ⟨text, -, same⟩ := of.templates.get named bound
  rw [List.get_eq_getElem] at same
  rw [same]

/-- A call with packages to bundle fails in a directory that is missing, once all its inputs were read. -/
theorem act_of_missingFolder {outputFile : Path} (noInit : arguments.has .init = false) (needs : NeedsFolder answer)
    (configured : ((readingMachine answer current).effectiveProject arguments).run.run tree = (.ok project, tree))
    (converted : project.toOptions = .ok options) (accepted : options.validate = .ok outputFile)
    (given : arguments.files ≠ []) (readable : ∀ path ∈ arguments.files, ∃ text, tree.read current path = .ok text)
    {core : Text} (coreRead : tree.read current options.coreFilename = .ok core)
    (packages : Resolution.bundledPackages options.requires ≠ [])
    (missing : tree.holds current options.bundleDir = false) :
    ∃ fault, ((readingMachine answer current).act arguments).run.run tree =
      (.error (.compile (.bundle (.spawn project.bundler fault))), tree) := by
  obtain ⟨fragments, of, ran⟩ := act_of_read noInit configured converted accepted given readable
  obtain ⟨fault, refused⟩ := bundleOn_of_bundles of.options ⟨options, converted, packages⟩ needs missing
  refine ⟨fault, ?_⟩
  rw [ran, run_finish of, refused, coreRead]
  rfl

/-- The directory for bundling is the one that is set, else the output file's, else the current one. Every
request for packages and every label is made with it. It is the empty path exactly where it is set to that:
then no template has a label under it, and with packages to bundle every call fails that could be
made, because the command cannot be started. -/
theorem bundleDir_named {outputFile : Path} (accepted : options.validate = .ok outputFile) :
    (∀ folder, options.BundlesIn folder ↔ folder = options.bundleDir) ∧
    (options.bundleDir.isEmpty = true ↔ options.dirname = some ⟨[]⟩) ∧
    (∀ (surroundings : Surroundings) (schedule : Schedule) (fragments : List Fragment) (folder : Path)
      (packages : List Text), .bundle folder packages ∈ (surroundings.compile schedule options fragments []).2 →
        folder = options.bundleDir ∧ packages = Resolution.bundledPackages options.requires) ∧
    (∀ (answer : Tree → Location → Text → Path → List Text → Except BundleError Text) (current : Location)
      (arguments : Arguments) (tree : Tree) (gathered : Gathered),
      Gathered.Of answer current arguments tree gathered → gathered.options = options →
      ∀ fragment ∈ gathered.fragments,
        fragment.relative = labelIn tree current options.bundleDir fragment.path ∧
        (options.dirname = some ⟨[]⟩ → fragment.relative = none)) ∧
    (options.dirname = some ⟨[]⟩ → Resolution.bundledPackages options.requires ≠ [] →
      ∀ (answer : Tree → Location → Text → Path → List Text → Except BundleError Text) (current : Location)
        (texts : List Text) (arguments : Arguments) (tree : Tree) (project : Project) (core : Text),
        NeedsFolder answer → Arguments.ofTexts texts = .ok arguments → arguments.has .init = false →
        ((readingMachine answer current).effectiveProject arguments).run.run tree = (.ok project, tree) →
        project.toOptions = .ok options → arguments.files ≠ [] →
        (∀ path ∈ arguments.files, ∃ text, tree.read current path = .ok text) →
        tree.read current options.coreFilename = .ok core →
        ∃ fault, runOnTree (readingCommands answer) current texts tree =
          (.error (.compile (.bundle (.spawn project.bundler fault))), tree)) := by
  refine ⟨fun _ => Options.bundlesIn_iff, options.isEmpty_bundleDir_iff, ?_, ?_, ?_⟩
  · intro surroundings schedule fragments folder packages member
    rw [surroundings.compile_accepted schedule fragments [] accepted] at member
    exact Options.eq_of_bundle_mem_requests member
  · rintro answer current arguments tree gathered of rfl fragment member
    have relative := relative_of_gathered of member
    refine ⟨relative, ?_⟩
    intro empty
    have folder : gathered.options.bundleDir = ⟨[]⟩ := by rw [Options.bundleDir, empty]
    rw [relative, folder, labelIn_of_missing (holds_emptyPath tree current)]
  · intro empty packages answer current texts arguments tree project core needs parsed noInit configured
      converted given readable coreRead
    have missing : tree.holds current options.bundleDir = false := by
      rw [Options.bundleDir, empty]
      exact holds_emptyPath tree current
    rw [runOnTree_of_parsed parsed]
    exact act_of_missingFolder noInit needs configured converted accepted given readable coreRead packages missing

/-- A project with a package to bundle in a directory that is set to the empty path. -/
def nowhereText : Text :=
  "compilerOptions:\n filename: out.js\n dirname: ''\n coreFilename: core.js\n requires:\n  l:\n   commonJS: l\n"

theorem exists_nowhereProject : ∃ project options, Project.ofText? nowhereText = some project ∧
    project.toOptions = .ok options ∧ options.validate = .ok ⟨"out.js"⟩ ∧ project.dirname = some [] ∧
    options.coreFilename = ⟨"core.js"⟩ ∧ Resolution.bundledPackages options.requires = [("l" : Text)] :=
  exists_project_of_outline (by decide +kernel)

theorem bundleDir_named_nowhere : ∃ (project : Project) (options : Options) (fault : IoFault),
    project.toOptions = .ok options ∧ options.validate = .ok ⟨"out.js"⟩ ∧ options.dirname = some ⟨[]⟩ ∧
    options.bundleDir.isEmpty = true ∧
    (Surroundings.empty.compile .coreFirst options [] []).2 = [.read ⟨"core.js"⟩, .bundle ⟨[]⟩ ["l"]] ∧
    Arguments.ofTexts ["a.js"] = .ok { Arguments.empty with files := [⟨"a.js"⟩] } ∧
    ((readingMachine (steady "require = get;") ["work"]).effectiveProject
      { Arguments.empty with files := [⟨"a.js"⟩] }).run.run (configuredSources nowhereText) =
      (.ok project, configuredSources nowhereText) ∧
    runOnTree (readingCommands (steady "require = get;")) ["work"] ["a.js"] (configuredSources nowhereText) =
      (.error (.compile (.bundle (.spawn project.bundler fault))), configuredSources nowhereText) := by
  obtain ⟨project, options, read, converted, accepted, dirname, core, packages⟩ := exists_nowhereProject
  obtain ⟨projectFound, templateFound, coreFound⟩ := found_configuredSources nowhereText
  obtain ⟨-, emptyIff, -, -, fails⟩ := bundleDir_named accepted
  have empty : options.dirname = some ⟨[]⟩ := by
    rw [(Project.paths_toOptions converted).2.1, dirname]
    rfl
  have folder : options.bundleDir = ⟨[]⟩ := by rw [Options.bundleDir, empty]
  have asked : (Surroundings.empty.compile .coreFirst options [] []).2 = [.read ⟨"core.js"⟩, .bundle ⟨[]⟩ ["l"]] := by
    rw [Surroundings.empty.compile_accepted .coreFirst [] [] accepted]
    simp [Options.requests, Options.bundleRequests, core, folder, packages]
  have parsed : Arguments.ofTexts ["a.js"] = .ok { Arguments.empty with files := [⟨"a.js"⟩] } := by decide
  have configured : ((readingMachine (steady "require = get;") ["work"]).effectiveProject
      { Arguments.empty with files := [⟨"a.js"⟩] }).run.run (configuredSources nowhereText) =
      (.ok project, configuredSources nowhereText) :=
    effectiveProject_of_read (Tree.read_of_found projectFound rfl) read
  have readable : ∀ path ∈ [(⟨"a.js"⟩ : Path)],
      ∃ text, (configuredSources nowhereText).read ["work"] path = .ok text := by
    intro path member
    rw [List.mem_singleton.mp member]
    exact ⟨_, Tree.read_of_found templateFound rfl⟩
  obtain ⟨fault, ran⟩ := fails empty (by simp [packages]) (steady "require = get;") ["work"] ["a.js"] _
    (configuredSources nowhereText) project _ (needsFolder_steady _) parsed rfl configured converted (by decide)
    readable (core ▸ Tree.read_of_found coreFound rfl)
  exact ⟨project, options, fault, converted, accepted, empty, emptyIff.mpr empty, asked, parsed, configured, ran⟩

end CommandLine

end UniversalModule
