import UniversalModule.Proofs.CommandLine.Labels

/-!
What comes of it that the folder of the output file is made last. No template is in a folder that
is new, so labels are the same as when the folder was there, and so is the module when no package is
bundled. A bundler command is started in that folder, though, and cannot be while it is missing.
-/

namespace UniversalModule

namespace Project

def Bundles (project : Project) : Prop :=
  ∃ options, project.toOptions = .ok options ∧ Resolution.bundledPackages options.requires ≠ []

theorem paths_toOptions {project : Project} {options : Options} (converted : project.toOptions = .ok options) :
    options.filename = project.filename.map Path.mk ∧ options.dirname = project.dirname.map Path.mk ∧
      options.coreFilename = ⟨project.coreFilename.getD []⟩ := by
  unfold toOptions at converted
  cases required : project.requires.requirements with
  | error error =>
      rw [required] at converted
      exact absurd converted (by simp [bind, Except.bind])
  | ok requires =>
      rw [required] at converted
      cases converted
      exact ⟨rfl, rfl, rfl⟩

end Project

namespace CommandLine

open Host (Location Name Tree)

/-- Bundler commands cannot be started in a folder that is missing. -/
def NeedsFolder (answer : Tree → Location → Text → Path → List Text → Except BundleError Text) : Prop :=
  ∀ tree current program folder packages, tree.holds current folder = false →
    ∃ fault, answer tree current program folder packages = .error (.spawn program fault)

/-- The output file of a project is put into a folder, and packages are bundled there. -/
structure OutputsInto (project : Project) (folder : Path) : Prop where
  undirected : project.dirname = none
  inFolder : ∃ name, project.filename = some name ∧ (Path.mk name).parent? = some folder
  nonempty : folder.isEmpty = false

theorem OutputsInto.places {project : Project} {folder : Path} (output : OutputsInto project folder)
    {options : Options} (converted : project.toOptions = .ok options) :
    options.bundleDir = folder ∧ options.filename.bind Path.parent? = some folder := by
  obtain ⟨name, file, parent⟩ := output.inFolder
  obtain ⟨filename, dirname, -⟩ := Project.paths_toOptions converted
  have within : options.filename.bind Path.parent? = some folder := by
    rw [filename, file, Option.map_some, Option.bind_some, parent]
  refine ⟨?_, within⟩
  rw [Options.bundleDir, dirname, output.undirected]
  simp only [Option.map_none, within, output.nonempty, Bool.false_eq_true, if_false]

variable {answer : Tree → Location → Text → Path → List Text → Except BundleError Text}
  {current : Location} {arguments : Arguments} {project : Project} {folder path : Path} {tree after : Tree}

/-- The second tree is the first one, in which a folder was missing, with that folder made, and
everything in it is new. -/
structure FolderAdded (answer : Tree → Location → Text → Path → List Text → Except BundleError Text)
    (current : Location) (folder : Path) (tree after : Tree) : Prop where
  missing : tree.holds current folder = false
  makes : ((readingMachine answer current).makeFolders folder).run tree = (.ok (), after)
  fresh : ∀ place, after.locate current folder = .ok place → tree.slot? place = none

theorem FolderAdded.foldersAdded (added : FolderAdded answer current folder tree after) (sound : tree.Numbered) :
    FoldersAdded current folder tree after := by
  have grown := makeFolders_added (readingCommands answer) current folder sound
  rw [added.makes] at grown
  exact grown

/-- The paths of the inputs lead to the same before and after the folder is made. -/
structure SeenAlike (current : Location) (arguments : Arguments) (project : Project) (tree after : Tree) :
    Prop where
  core : Agree tree after current ⟨project.coreFilename.getD []⟩
  templates : ∀ path ∈ arguments.files, Agree tree after current path
  project : Agree tree after current arguments.projectPath

/-- No template has a label under a folder that is missing, and none under it when it is new. -/
theorem FolderAdded.labels (added : FolderAdded answer current folder tree after) (sound : tree.WellFormed)
    (nonempty : folder.isEmpty = false) (agree : Agree tree after current path) {text : Text}
    (content : tree.read current path = .ok text) :
    labelIn tree current folder path = labelIn after current folder path := by
  obtain ⟨base, reached, -⟩ := Tree.stands_of_leadsToFolder
    (leadsToFolder_of_makeFolders (readingCommands answer) current nonempty added.makes)
  obtain ⟨place, located, stands⟩ := Tree.stands_of_read content
  rw [agree.located] at located
  rw [labelIn_of_missing added.missing, labelIn_of_new sound reached (added.fresh base reached) located stands]

theorem FolderAdded.sameInputs (added : FolderAdded answer current folder tree after) (sound : tree.WellFormed)
    (output : OutputsInto project folder)
    (configured : ((readingMachine answer current).effectiveProject arguments).run.run tree = (.ok project, tree))
    (inputs : SeenAlike current arguments project tree after) :
    SameInputs answer current arguments tree after where
  project := inputs.project
  templates := inputs.templates
  labels other options effective converted path member text content := by
    rw [configured] at effective
    cases effective
    rw [(output.places converted).1]
    exact added.labels sound output.nonempty (inputs.templates path member) content

/-- Writing an output begins with making its folder, and goes on alike when that was done before. -/
theorem FolderAdded.writeOutput (added : FolderAdded answer current folder tree after)
    (parent : path.parent? = some folder) (nonempty : folder.isEmpty = false) (code : Text) :
    ((readingMachine answer current).writeOutput path code).run.run tree =
      ((readingMachine answer current).writeOutput path code).run.run after := by
  have leads := leadsToFolder_of_makeFolders (readingCommands answer) current nonempty added.makes
  have again := makeFolders_of_leadsToFolder (readingCommands answer) current nonempty leads
  unfold Machine.writeOutput
  rw [parent]
  simp only [nonempty, Bool.false_eq_true, if_false]
  rw [run_adaptBind, run_adaptBind, added.makes, again]

theorem bundleOn_of_not_bundles {gathered : Gathered} (converted : gathered.project.toOptions = .ok gathered.options)
    (alone : ¬gathered.project.Bundles) (tree : Tree) :
    bundleOn answer current gathered.project.bundler gathered.options tree = .ok none := by
  have packages : Resolution.bundledPackages gathered.options.requires = [] := by
    by_contra needed
    exact alone ⟨gathered.options, converted, needed⟩
  rw [bundleOn, packages]

/-- With packages, the command is run in their folder, and fails while that is missing. -/
theorem bundleOn_of_bundles {gathered : Gathered} (converted : gathered.project.toOptions = .ok gathered.options)
    (bundles : gathered.project.Bundles) (needs : NeedsFolder answer)
    (missing : tree.holds current gathered.options.bundleDir = false) :
    ∃ fault, bundleOn answer current gathered.project.bundler gathered.options tree =
      .error (.spawn gathered.project.bundler fault) := by
  obtain ⟨options, same, needed⟩ := bundles
  rw [converted] at same
  cases same
  rw [bundleOn]
  cases packages : Resolution.bundledPackages gathered.options.requires with
  | nil => exact absurd packages needed
  | cons package rest =>
      obtain ⟨fault, refused⟩ := needs tree current gathered.project.bundler gathered.options.bundleDir
        (package :: rest) missing
      refine ⟨fault, ?_⟩
      simp only [refused, Except.map]

/-- A call whose output folder is missing gives what it gives when the folder was made beforehand, as
long as no package is bundled: the same result, and the same tree once it writes. With packages to
bundle it always fails, and where it would have come to an end, that is because the command cannot be started. -/
theorem runOnTree_outputFolder {texts : List Text} (parsed : Arguments.ofTexts texts = .ok arguments)
    (noInit : arguments.has .init = false) (sound : tree.WellFormed) (needs : NeedsFolder answer)
    (configured : ((readingMachine answer current).effectiveProject arguments).run.run tree = (.ok project, tree))
    (output : OutputsInto project folder) (added : FolderAdded answer current folder tree after)
    (inputs : SeenAlike current arguments project tree after) :
    (¬project.Bundles →
      runOnTree (readingCommands answer) current texts tree =
        runOnTree (readingCommands answer) current texts after ∨
      ∃ failure : Failure, failure.isLate = false ∧
        runOnTree (readingCommands answer) current texts tree = (.error failure, tree) ∧
        runOnTree (readingCommands answer) current texts after = (.error failure, after)) ∧
    (project.Bundles → ∃ failure : Failure, failure.isLate = false ∧
      runOnTree (readingCommands answer) current texts tree = (.error failure, tree) ∧
      ∀ last, runOnTree (readingCommands answer) current texts after = (.ok (), last) →
        ∃ fault, failure = .compile (.bundle (.spawn project.bundler fault))) := by
  simp only [runOnTree_of_parsed parsed]
  rcases act_gathers noInit (added.sameInputs sound output configured inputs) with
    ⟨failure, early, onTree, onAfter⟩ | ⟨gathered, of, onTree, onAfter⟩
  · refine ⟨fun _ => .inr ⟨failure, early, onTree, onAfter⟩, fun _ => ⟨failure, early, onTree, ?_⟩⟩
    intro last ended
    rw [onAfter] at ended
    exact absurd (congrArg Prod.fst ended) (by simp)
  have effective : gathered.project = project := by
    have same := of.project
    rw [configured] at same
    exact (Except.ok.inj (congrArg Prod.fst same)).symm
  obtain ⟨place, within⟩ := output.places (effective ▸ of.options)
  have parent : gathered.outputFile.parent? = some folder := by
    rw [(Options.validate_eq_ok_iff.mp of.accepted).file] at within
    exact within
  have core : tree.read current gathered.options.coreFilename = after.read current gathered.options.coreFilename := by
    rw [(Project.paths_toOptions of.options).2.2, effective]
    exact inputs.core.read
  rw [onTree, onAfter, run_finish of, run_finish of]
  constructor
  · intro alone
    rw [← effective] at alone
    rw [bundleOn_of_not_bundles of.options alone, bundleOn_of_not_bundles of.options alone, core]
    cases Compile.finish gathered.options gathered.outputFile gathered.fragments
        (after.read current gathered.options.coreFilename) (.ok none) with
    | error error => exact .inr ⟨.compile error, rfl, rfl, rfl⟩
    | ok module => exact .inl (added.writeOutput parent output.nonempty module.code)
  · intro bundles
    rw [← effective] at bundles
    obtain ⟨fault, refused⟩ := bundleOn_of_bundles of.options bundles needs (place ▸ added.missing)
    rw [refused, core]
    cases after.read current gathered.options.coreFilename with
    | error missing =>
        refine ⟨.compile (.coreLoad gathered.options.coreFilename missing), rfl, rfl, ?_⟩
        intro last ended
        exact absurd (congrArg Prod.fst ended) (by simp [Compile.finish])
    | ok content =>
        refine ⟨.compile (.bundle (.spawn gathered.project.bundler fault)), rfl, rfl, ?_⟩
        intro last ended
        exact ⟨fault, by rw [effective]⟩

def steady (bundle : Text) (tree : Tree) (current : Location) (program : Text) (folder : Path)
    (_ : List Text) : Except BundleError Text :=
  match tree.locate current folder with
  | .ok _ => .ok bundle
  | .error fault => .error (.spawn program fault)

theorem needsFolder_steady (bundle : Text) : NeedsFolder (steady bundle) := by
  intro tree current program folder packages missing
  unfold steady
  cases located : tree.locate current folder with
  | ok place =>
      rw [Tree.holds, located] at missing
      exact absurd missing (by simp)
  | error fault => exact ⟨fault, rfl⟩

/-- The paths and packages of the project that a text holds, if its options are accepted. -/
def outline? (text : Text) : Option (Option Text × Path × Path × List Text) :=
  (Project.ofText? text).bind fun project =>
    project.toOptions.toOption.bind fun options => options.validate.toOption.map fun outputFile =>
      (project.dirname, outputFile, options.coreFilename, Resolution.bundledPackages options.requires)

theorem exists_project_of_outline {text : Text} {dirname : Option Text} {outputFile core : Path}
    {packages : List Text} (told : outline? text = some (dirname, outputFile, core, packages)) :
    ∃ project options, Project.ofText? text = some project ∧ project.toOptions = .ok options ∧
      options.validate = .ok outputFile ∧ project.dirname = dirname ∧ options.coreFilename = core ∧
      Resolution.bundledPackages options.requires = packages := by
  have given {α ε : Type} {result : Except ε α} {value : α} (kept : result.toOption = some value) :
      result = .ok value := by
    cases result with
    | error error => exact absurd kept (by simp [Except.toOption])
    | ok other => exact congrArg Except.ok (Option.some.inj kept)
  obtain ⟨project, read, told⟩ := Option.bind_eq_some_iff.mp told
  obtain ⟨options, converted, told⟩ := Option.bind_eq_some_iff.mp told
  obtain ⟨outputFile, accepted, told⟩ := Option.map_eq_some_iff.mp told
  simp only [Prod.mk.injEq] at told
  obtain ⟨rfl, rfl, rfl, rfl⟩ := told
  exact ⟨project, options, read, given converted, given accepted, rfl, rfl, rfl⟩

def configuredSources (text : Text) : Tree := sources.addFile ["work", projectFile.text] ⟨text.utf8, false⟩

theorem wellFormed_configuredSources (text : Text) : (configuredSources text).WellFormed :=
  @Tree.WellFormed.addFile _ ["work"] projectFile.text wellFormed_sources rfl ⟨rfl, by decide, by decide⟩ rfl
    ⟨text.utf8, false⟩

theorem found_configuredSources (text : Text) :
    (configuredSources text).found ["work"] projectFile = .ok (.file ⟨text.utf8, false⟩) ∧
    (configuredSources text).found ["work"] ⟨"a.js"⟩ = .ok (.file ⟨Text.utf8 "bt.match();", false⟩) ∧
    (configuredSources text).found ["work"] ⟨"core.js"⟩ =
      .ok (.file ⟨Text.utf8 "function BT() \x7b\x7d", false⟩) := by
  have project : (configuredSources text).locate ["work"] projectFile = .ok ["work", projectFile.text] := rfl
  have template : (configuredSources text).locate ["work"] ⟨"a.js"⟩ = .ok ["work", "a.js"] := rfl
  have core : (configuredSources text).locate ["work"] ⟨"core.js"⟩ = .ok ["work", "core.js"] := rfl
  exact ⟨Tree.found_of_locate project rfl, Tree.found_of_locate template rfl, Tree.found_of_locate core rfl⟩

def bundlingText : Text :=
  "compilerOptions:\n filename: dist/out.js\n coreFilename: core.js\n requires:\n  l:\n   commonJS: l\n"

theorem exists_bundlingProject : ∃ project options, Project.ofText? bundlingText = some project ∧
    project.toOptions = .ok options ∧ options.validate = .ok ⟨"dist/out.js"⟩ ∧ project.dirname = none ∧
    options.coreFilename = ⟨"core.js"⟩ ∧ Resolution.bundledPackages options.requires = [("l" : Text)] :=
  exists_project_of_outline (by decide +kernel)

def bundlingSources : Tree := sources.addFile ["work", projectFile.text] ⟨bundlingText.utf8, false⟩

theorem wellFormed_bundlingSources : bundlingSources.WellFormed := wellFormed_configuredSources bundlingText

theorem found_bundlingSources :
    bundlingSources.found ["work"] projectFile = .ok (.file ⟨bundlingText.utf8, false⟩) ∧
    bundlingSources.found ["work"] ⟨"a.js"⟩ = .ok (.file ⟨Text.utf8 "bt.match();", false⟩) ∧
    bundlingSources.found ["work"] ⟨"core.js"⟩ = .ok (.file ⟨Text.utf8 "function BT() \x7b\x7d", false⟩) :=
  found_configuredSources bundlingText

def preparedSources : Tree := bundlingSources.put ["work", "dist"] .folder

theorem folderAdded_preparedSources (bundle : Text) :
    FolderAdded (steady bundle) ["work"] ⟨"dist"⟩ bundlingSources preparedSources where
  missing := rfl
  makes := rfl
  fresh place reached := by
    have leads : preparedSources.locate ["work"] ⟨"dist"⟩ = .ok ["work", "dist"] := rfl
    rw [leads] at reached
    cases reached
    rfl

/-- The module of the sources is written into the folder that was prepared. -/
theorem ends_preparedSources {options : Options} (read : Project.ofText? bundlingText = some project)
    (converted : project.toOptions = .ok options) (accepted : options.validate = .ok ⟨"dist/out.js"⟩)
    (output : OutputsInto project ⟨"dist"⟩) (core : options.coreFilename = ⟨"core.js"⟩)
    (added : FoldersAdded ["work"] ⟨"dist"⟩ bundlingSources preparedSources) (bundle : Text) :
    ∃ last, runOnTree (readingCommands (steady bundle)) ["work"] ["a.js"] preparedSources = (.ok (), last) := by
  obtain ⟨projectFound, templateFound, coreFound⟩ := found_bundlingSources
  have reads {path : Path} {text : Text}
      (found : bundlingSources.found ["work"] path = .ok (.file ⟨text.utf8, false⟩)) :
      preparedSources.read ["work"] path = .ok text := by
    rw [← (added.agree found).read]
    exact Tree.read_of_found found rfl
  have parsed : Arguments.ofTexts ["a.js"] = .ok { Arguments.empty with files := [⟨"a.js"⟩] } := by decide
  have configured : ((readingMachine (steady bundle) ["work"]).effectiveProject
      { Arguments.empty with files := [⟨"a.js"⟩] }).run.run preparedSources = (.ok project, preparedSources) :=
    effectiveProject_of_read (reads projectFound) read
  have readable : ∀ path ∈ [(⟨"a.js"⟩ : Path)], ∃ text, preparedSources.read ["work"] path = .ok text := by
    intro path member
    rw [List.mem_singleton.mp member]
    exact ⟨_, reads templateFound⟩
  obtain ⟨fragments, of, ran⟩ := act_of_read (by decide) configured converted accepted (by decide) readable
  have bundled : ∃ bundle?, bundleOn (steady bundle) ["work"] project.bundler options preparedSources = .ok bundle? := by
    have located : preparedSources.locate ["work"] ⟨"dist"⟩ = .ok ["work", "dist"] := rfl
    unfold bundleOn
    split
    · exact ⟨_, rfl⟩
    · rw [(output.places converted).1, steady, located]
      exact ⟨_, rfl⟩
  obtain ⟨bundle?, bundled⟩ := bundled
  have writes (content : Bytes) : preparedSources.write ["work"] ⟨"dist/out.js"⟩ content =
      .ok (preparedSources.addFile ["work", "dist", "out.js"] ⟨content, false⟩) := rfl
  have parent : (⟨"dist/out.js"⟩ : Path).parent? = some ⟨"dist"⟩ := rfl
  have housed : HasFolder preparedSources ["work"] ⟨"dist/out.js"⟩ := by
    intro other found _
    rw [parent] at found
    cases found
    rfl
  rw [runOnTree_of_parsed parsed, ran, run_finish of, core, reads coreFound, bundled]
  simp only [Compile.finish]
  rw [run_writeOutput (readingCommands (steady bundle)) housed, writes]
  exact ⟨_, rfl⟩

theorem runOnTree_outputFolder_bundlingSources : ∃ (project : Project) (last : Tree) (fault : IoFault),
    Arguments.ofTexts ["a.js"] = .ok { Arguments.empty with files := [⟨"a.js"⟩] } ∧
    bundlingSources.WellFormed ∧ NeedsFolder (steady "require = get;") ∧
    OutputsInto project ⟨"dist"⟩ ∧ project.Bundles ∧
    FolderAdded (steady "require = get;") ["work"] ⟨"dist"⟩ bundlingSources preparedSources ∧
    SeenAlike ["work"] { Arguments.empty with files := [⟨"a.js"⟩] } project bundlingSources preparedSources ∧
    runOnTree (readingCommands (steady "require = get;")) ["work"] ["a.js"] preparedSources = (.ok (), last) ∧
    runOnTree (readingCommands (steady "require = get;")) ["work"] ["a.js"] bundlingSources =
      (.error (.compile (.bundle (.spawn project.bundler fault))), bundlingSources) := by
  obtain ⟨project, options, read, converted, accepted, dirname, core, packages⟩ := exists_bundlingProject
  obtain ⟨projectFound, templateFound, coreFound⟩ := found_bundlingSources
  have parsed : Arguments.ofTexts ["a.js"] = .ok { Arguments.empty with files := [⟨"a.js"⟩] } := by decide
  have sound := wellFormed_bundlingSources
  have needs := needsFolder_steady "require = get;"
  have configured : ((readingMachine (steady "require = get;") ["work"]).effectiveProject
      { Arguments.empty with files := [⟨"a.js"⟩] }).run.run bundlingSources = (.ok project, bundlingSources) :=
    effectiveProject_of_read (Tree.read_of_found projectFound rfl) read
  obtain ⟨filename, -, coreFilename⟩ := Project.paths_toOptions converted
  have output : OutputsInto project ⟨"dist"⟩ := by
    rw [(Options.validate_eq_ok_iff.mp accepted).file] at filename
    obtain ⟨name, given, same⟩ := Option.map_eq_some_iff.mp filename.symm
    exact ⟨dirname, ⟨name, given, same ▸ rfl⟩, rfl⟩
  have bundles : project.Bundles := ⟨options, converted, by simp [packages]⟩
  have added := folderAdded_preparedSources "require = get;"
  have grown := added.foldersAdded sound.numbered
  have inputs : SeenAlike ["work"] { Arguments.empty with files := [⟨"a.js"⟩] } project bundlingSources
      preparedSources := by
    refine ⟨?_, ?_, grown.agree projectFound⟩
    · rw [← coreFilename, core]
      exact grown.agree coreFound
    · intro path member
      rw [List.mem_singleton.mp member]
      exact grown.agree templateFound
  obtain ⟨last, ends⟩ := ends_preparedSources read converted accepted output core grown "require = get;"
  obtain ⟨failure, -, fails, blamed⟩ :=
    (runOnTree_outputFolder parsed rfl sound needs configured output added inputs).2 bundles
  obtain ⟨fault, rfl⟩ := blamed last ends
  exact ⟨project, last, fault, parsed, sound, needs, output, bundles, added, inputs, ends, fails⟩

end CommandLine

end UniversalModule
