import UniversalModule.Proofs.CommandLine.OutputFolder
import UniversalModule.Proofs.Host.Writing

/-!
What a call does when it is repeated on the tree that it left. It gathers the same and writes the same
again, unless the directory in which packages are bundled could not be found before the folders of the
output were made; then the templates under it have other labels.
-/

namespace UniversalModule.CommandLine

open Host (Location Tree)

variable {answer : Tree → Location → Text → Path → List Text → Except BundleError Text}
  {current : Location} {arguments : Arguments} {tree made after : Tree} {base path : Path}

def PrintsAlike (answer : Tree → Location → Text → Path → List Text → Except BundleError Text) : Prop :=
  ∀ before after current program folder packages text,
    answer before current program folder packages = .ok text → after.holds current folder = true →
    answer after current program folder packages = .ok text

theorem printsAlike_steady (bundle : Text) : PrintsAlike (steady bundle) := by
  intro before after current program folder packages text printed holds
  unfold steady at printed ⊢
  cases here : before.locate current folder with
  | error fault =>
      rw [here] at printed
      exact absurd printed (by simp)
  | ok place =>
      rw [here] at printed
      unfold Tree.holds at holds
      cases there : after.locate current folder with
      | error fault =>
          rw [there] at holds
          exact absurd holds (by simp)
      | ok again => exact printed

def WritesApart (answer : Tree → Location → Text → Path → List Text → Except BundleError Text)
    (current : Location) (arguments : Arguments) (tree after : Tree) : Prop :=
  ∀ gathered, Gathered.Of answer current arguments tree gathered →
    ∀ path ∈ gathered.options.coreFilename :: arguments.projectPath :: arguments.files,
      ¬after.SameFile current gathered.outputFile path

/-- The path leads to what was there before, but only over folders that were not. -/
def Unveiled (tree after : Tree) (current : Location) (path : Path) : Prop :=
  tree.holds current path = false ∧
    ∃ place, after.locate current path = .ok place ∧ (tree.slot? place).isSome = true

def relabelled (tree : Tree) (current : Location) (base : Path) (fragment : Fragment) : Fragment :=
  { fragment with relative := labelIn tree current base fragment.path }

/-- What a call gathers, with the labels that templates have in another tree. -/
def Gathered.relabelled (gathered : Gathered) (tree : Tree) (current : Location) : Gathered :=
  { gathered with
    fragments := gathered.fragments.map (CommandLine.relabelled tree current gathered.options.bundleDir) }

section Templates

variable {files : List Path} {fragments others : List Fragment}

theorem IsTemplate.relabelled {fragment : Fragment} (template : IsTemplate tree current base path fragment)
    (same : tree.read current path = after.read current path) :
    IsTemplate after current base path (relabelled after current base fragment) := by
  obtain ⟨text, content, rfl⟩ := template
  exact ⟨text, same ▸ content, rfl⟩

theorem IsTemplate.unique {fragment other : Fragment} (first : IsTemplate tree current base path fragment)
    (second : IsTemplate tree current base path other) : fragment = other := by
  obtain ⟨text, content, rfl⟩ := first
  obtain ⟨again, recontent, rfl⟩ := second
  rw [content] at recontent
  cases recontent
  rfl

theorem templates_relabelled (same : ∀ path ∈ files, tree.read current path = after.read current path)
    (first : List.Forall₂ (IsTemplate tree current base) files fragments)
    (second : List.Forall₂ (IsTemplate after current base) files others) :
    others = fragments.map (relabelled after current base) := by
  induction first generalizing others with
  | nil =>
      cases second
      rfl
  | @cons path fragment files fragments template _ induction =>
      cases second with
      | cons again rest =>
          have here := (template.relabelled (same path List.mem_cons_self)).unique again
          have further := induction (fun other member => same other (List.mem_cons_of_mem path member)) rest
          rw [List.map_cons, here, further]

theorem map_relabelled
    (same : ∀ path ∈ files, ∀ text, tree.read current path = .ok text →
      labelIn tree current base path = labelIn after current base path)
    (templates : List.Forall₂ (IsTemplate tree current base) files fragments) :
    fragments.map (relabelled after current base) = fragments := by
  induction templates with
  | nil => rfl
  | @cons path fragment files fragments template _ induction =>
      obtain ⟨text, content, rfl⟩ := template
      have label := same path List.mem_cons_self text content
      rw [List.map_cons, induction fun other member => same other (List.mem_cons_of_mem path member), relabelled,
        label]

theorem readable_of_templates (templates : List.Forall₂ (IsTemplate tree current base) files fragments) :
    ∀ path ∈ files, ∃ text, tree.read current path = .ok text := by
  induction templates with
  | nil => simp
  | cons template _ induction =>
      obtain ⟨text, content, -⟩ := template
      exact List.forall_mem_cons.mpr ⟨⟨text, content⟩, induction⟩

end Templates

/-- Labels stay what they are when more is in the tree, unless their directory was unveiled. -/
theorem labelIn_of_not_unveiled (sound : tree.WellFormed)
    (larger : Tree.Extends tree after) (veiled : ¬Unveiled tree after current base) {text : Text}
    (content : tree.read current path = .ok text) :
    labelIn tree current base path = labelIn after current base path := by
  obtain ⟨place, located, stands⟩ := Tree.stands_of_read content
  have still := Tree.locate_extends larger located
  cases reached : tree.locate current base with
  | ok folder =>
      have there := Tree.locate_extends larger reached
      simp only [labelIn, Tree.canonical?, located, still, reached, there]
  | error fault =>
      have missing : tree.holds current base = false := by rw [Tree.holds, reached]
      rw [labelIn_of_missing missing]
      symm
      cases there : after.locate current base with
      | error fault =>
          apply labelIn_of_missing
          rw [Tree.holds, there]
      | ok folder =>
          have new : tree.slot? folder = none := by
            by_contra old
            exact veiled ⟨missing, folder, there, Option.isSome_iff_ne_none.mpr old⟩
          exact labelIn_of_new sound there new still stands

theorem bundleOn_again (needs : NeedsFolder answer) (alike : PrintsAlike answer)
    (larger : Tree.Extends tree after) {program : Text} {options : Options} {bundle? : Option Text}
    (bundled : bundleOn answer current program options tree = .ok bundle?) :
    bundleOn answer current program options after = .ok bundle? := by
  unfold bundleOn at bundled ⊢
  generalize Resolution.bundledPackages options.requires = packages at bundled ⊢
  cases packages with
  | nil => exact bundled
  | cons package rest =>
      cases printed : answer tree current program options.bundleDir (package :: rest) with
      | error error =>
          simp only [printed] at bundled
          exact absurd bundled (by simp [Except.map])
      | ok text =>
          have holds : tree.holds current options.bundleDir = true := by
            by_contra missing
            obtain ⟨fault, refused⟩ := needs tree current program options.bundleDir (package :: rest)
              (by simpa using missing)
            rw [refused] at printed
            exact absurd printed (by simp)
          have again := alike tree after current program options.bundleDir (package :: rest) text printed
            (Tree.holds_extends larger holds)
          simp only [printed] at bundled
          simp only [again, bundled]

structure ReadsAlike (current : Location) (arguments : Arguments) (core : Path) (tree after : Tree) : Prop where
  project : ProjectAgrees tree after current arguments
  core : tree.read current core = after.read current core
  templates : ∀ path ∈ arguments.files, tree.read current path = after.read current path

/-- A call builds from the same inputs what it built, under the labels that templates have now. -/
theorem Build.Of.again {first : Build} (of : Build.Of answer current arguments tree first)
    (noInit : arguments.has .init = false) (needs : NeedsFolder answer) (alike : PrintsAlike answer)
    (larger : Tree.Extends tree after) (inputs : ReadsAlike current arguments first.options.coreFilename tree after) :
    ∃ second, Build.Of answer current arguments after second ∧
      second.toGathered = first.toGathered.relabelled after current ∧
      (second.fragments = first.fragments → second.output = first.output) ∧
      ((readingMachine answer current).act arguments).run.run after =
        ((readingMachine answer current).writeOutput first.outputFile second.output.code).run.run after := by
  have configured : ((readingMachine answer current).effectiveProject arguments).run.run after =
      (.ok first.project, after) := by
    obtain ⟨value, onTree, onAfter, -⟩ := @looks_effectiveProject _ _ (readingCommands answer) _ _ inputs.project
    rw [of.project] at onTree
    cases onTree
    exact onAfter
  have readable : ∀ path ∈ arguments.files, ∃ text, after.read current path = .ok text := by
    intro path member
    rw [← inputs.templates path member]
    exact readable_of_templates of.templates path member
  obtain ⟨fragments, gathered, ran⟩ := act_of_read noInit configured of.options of.accepted of.given readable
  have labels : fragments = first.fragments.map (relabelled after current first.options.bundleDir) :=
    templates_relabelled inputs.templates of.templates gathered.templates
  obtain ⟨content, bundle?, core, bundled, made⟩ := of.compiled
  have recore := inputs.core.symm.trans core
  have rebundled := bundleOn_again needs alike larger bundled
  let output := emit first.options first.outputFile ⟨first.options.coreFilename.text, content⟩ fragments bundle?
  have finished : Compile.finish first.options first.outputFile fragments
      (after.read current first.options.coreFilename)
      (bundleOn answer current first.project.bundler first.options after) = .ok output := by
    rw [recore, rebundled]
    rfl
  refine ⟨⟨⟨first.project, first.options, first.outputFile, fragments⟩, output⟩, ⟨gathered, ?_⟩, ?_, ?_, ?_⟩
  · have compiled := run_compile gathered after
    rw [finished] at compiled
    exact compiled
  · rw [labels]
    rfl
  · intro same
    rw [made]
    exact congrArg (fun fragments => emit first.options first.outputFile
      ⟨first.options.coreFilename.text, content⟩ fragments bundle?) same
  · rw [ran, run_finish gathered, finished]

/-- What could be read is read the same after an output was written elsewhere. -/
theorem agree_of_read {outputFile : Path} {content : Bytes} (added : FoldersAdded current outputFile tree made)
    (sound : made.WellFormed) (written : made.Written current outputFile content after)
    (apart : ¬after.SameFile current outputFile path) {text : Text} (read : tree.read current path = .ok text) :
    Agree tree after current path := by
  obtain ⟨entry, found, -⟩ := Tree.bind_eq_ok read
  have first := added.agree found
  rw [first.found] at found
  obtain ⟨place, located, -⟩ := Tree.bind_eq_ok found
  have still := Tree.locate_extends (written.larger sound.numbered) located
  have again := written.found sound.numbered apart found
  exact ⟨first.located.trans (located.trans still.symm), first.found.trans (found.trans again.symm)⟩

theorem readsAlike_of_written {first : Build} {content : Bytes} (of : Build.Of answer current arguments tree first)
    (added : FoldersAdded current first.outputFile tree made) (sound : made.WellFormed)
    (written : made.Written current first.outputFile content after)
    (apart : WritesApart answer current arguments tree after)
    (settled : Configured after current arguments → Configured tree current arguments) :
    ReadsAlike current arguments first.options.coreFilename tree after := by
  have larger := added.larger.trans (written.larger sound.numbered)
  have elsewhere := apart first.toGathered of.toOf
  refine ⟨⟨?_, ?_⟩, ?_, ?_⟩
  · intro unnamed
    cases holds : tree.holds current projectFile with
    | true => exact (Tree.holds_extends larger holds).symm
    | false =>
        cases holdsAfter : after.holds current projectFile with
        | false => rfl
        | true =>
            have held := settled (fun _ => holdsAfter) unnamed
            rw [holds] at held
            exact absurd held (by simp)
  · intro configured
    obtain ⟨text, read⟩ := read_of_effectiveProject of.project configured
    exact (agree_of_read added sound written (elsewhere _ (by simp)) read).read
  · obtain ⟨text, bundle?, read, -⟩ := of.compiled
    exact (agree_of_read added sound written (elsewhere _ (by simp)) read).read
  · intro path member
    obtain ⟨text, read⟩ := readable_of_templates of.templates path member
    exact (agree_of_read added sound written (elsewhere path (by simp [member])) read).read

/-- A call that came to its end comes to its end again on the tree that it left, when its output is none
of its inputs. It builds from the same inputs, under the labels that the templates have now, and writes
nothing but its output file. Unless the directory in which packages are bundled was unveiled by the first
run, it leaves everything as it is. -/
theorem runOnTree_repeated {texts : List Text} (parsed : Arguments.ofTexts texts = .ok arguments)
    (noInit : arguments.has .init = false) (sound : tree.WellFormed) (needs : NeedsFolder answer)
    (alike : PrintsAlike answer) (ran : runOnTree (readingCommands answer) current texts tree = (.ok (), after))
    (apart : WritesApart answer current arguments tree after)
    (settled : Configured after current arguments → Configured tree current arguments) :
    ∃ first second last, Build.Of answer current arguments tree first ∧
      Build.Of answer current arguments after second ∧
      second.toGathered = first.toGathered.relabelled after current ∧
      runOnTree (readingCommands answer) current texts after = (.ok (), last) ∧
      after.Written current first.outputFile second.output.code.utf8 last ∧
      (¬Unveiled tree after current first.options.bundleDir → last = after) := by
  rw [runOnTree_of_parsed parsed] at ran
  rcases @act_cases answer current arguments .ample tree noInit with ⟨failure, -, failed⟩ | ⟨first, of, wrote⟩
  · rw [failed] at ran
    exact absurd (congrArg Prod.fst ran) (by simp)
  rw [wrote] at ran
  obtain ⟨made, added, soundMade, housed, written⟩ := writeOutput_added (readingCommands answer) sound ran
  have change := Tree.write_ok soundMade.numbered written
  have grown := change.larger soundMade.numbered
  have larger := added.larger.trans grown
  have soundAfter := soundMade.write written
  have inputs := readsAlike_of_written of added soundMade change apart settled
  obtain ⟨second, again, labels, same, reran⟩ := of.again noInit needs alike larger inputs
  have stillHoused : HasFolder after current first.outputFile := by
    intro parent found nonempty
    exact Tree.leadsToFolder_extends grown (housed parent found nonempty)
  have nonempty : first.output.code.utf8 ≠ [] := by
    obtain ⟨content, bundle?, -, -, output⟩ := of.compiled
    apply Text.utf8_ne_nil
    rw [output]
    exact emit_code_ne_nil _ _ _ _ _
  obtain ⟨last, rewritten, still⟩ := Tree.write_again soundMade written nonempty second.output.code.utf8
  refine ⟨first, second, last, of, again, labels, ?_, Tree.write_ok soundAfter.numbered rewritten, ?_⟩
  · rw [runOnTree_of_parsed parsed, reran, run_writeOutput (readingCommands answer) stillHoused, rewritten]
  · intro veiled
    have unchanged : second.fragments = first.fragments := by
      have relabelled := congrArg Gathered.fragments labels
      refine relabelled.trans (map_relabelled ?_ of.templates)
      intro path _ text read
      exact labelIn_of_not_unveiled sound larger veiled read
    apply still
    rw [same unchanged]

/-- The arguments of a call whose output is named through a folder that is missing. -/
abbrev detourArguments : Arguments := sourcesArguments "./a.js" "dist/../out.js"

abbrev detourOptions : Options := sourcesOptions "dist/../out.js"

def detourSources (code : Text) : Tree :=
  (sources.put ["work", "dist"] .folder).addFile ["work", "out.js"] ⟨code.utf8, false⟩

theorem detour_accepted : detourOptions.validate = .ok ⟨"dist/../out.js"⟩ :=
  Options.validate_filename Options.validate_least rfl

theorem makeFolders_detour (commands : Commands) :
    ((treeMachine commands ["work"]).makeFolders ⟨"dist/.."⟩).run sources =
      (.ok (), sources.put ["work", "dist"] .folder) := by
  have missing : sources.makeFolder ["work"] ⟨"dist/.."⟩ = .error .notFound := rfl
  have parent : (⟨"dist/.."⟩ : Path).parent? = some ⟨"dist"⟩ := rfl
  have inner (fuel : Nat) : ((treeMachine commands ["work"]).makeFoldersWithin (fuel + 1) ⟨"dist"⟩).run sources =
      (.ok (), sources.put ["work", "dist"] .folder) := rfl
  have taken : (sources.put ["work", "dist"] .folder).makeFolder ["work"] ⟨"dist/.."⟩ = .error .alreadyExists := rfl
  have leads : (sources.put ["work", "dist"] .folder).leadsToFolder ["work"] ⟨"dist/.."⟩ = true := rfl
  have fuel : (⟨"dist/.."⟩ : Path).text.length = 6 + 1 := rfl
  rw [Machine.makeFolders, fuel, Machine.makeFoldersWithin, if_neg (by decide), run_bind, run_makeFolder, missing]
  simp only [parent]
  rw [run_bind, inner]
  simp only
  rw [run_bind, run_makeFolder, taken]
  simp only
  rw [run_unlessFolder, if_pos leads]

theorem ends_detour (bundle : Text) : ∃ code,
    runOnTree (readingCommands (steady bundle)) ["work"] ["./a.js", "-o", "dist/../out.js", "--core=core.js"] sources =
      (.ok (), detourSources code) := by
  have parsed : Arguments.ofTexts ["./a.js", "-o", "dist/../out.js", "--core=core.js"] = .ok detourArguments := by
    decide
  have readable : ∀ path ∈ detourArguments.files, ∃ text, sources.read ["work"] path = .ok text := by
    intro path member
    rw [List.mem_singleton.mp member]
    exact ⟨_, read_template rfl⟩
  obtain ⟨fragments, of, ran⟩ := @act_of_read (steady bundle) ["work"] detourArguments .ample sources _ _ _ rfl
    (effectiveProject_sources (readingCommands (steady bundle)) "./a.js" "dist/../out.js")
    (toOptions_sources "./a.js" "dist/../out.js") detour_accepted (by decide) readable
  have alone : bundleOn (steady bundle) ["work"] (Project.default.merge (detourArguments.toOverride none)).bundler
      detourOptions sources = .ok none := rfl
  have core : detourOptions.coreFilename = ⟨"core.js"⟩ := rfl
  have parent : (⟨"dist/../out.js"⟩ : Path).parent? = some ⟨"dist/.."⟩ := rfl
  have nonempty : (⟨"dist/.."⟩ : Path).isEmpty = false := rfl
  have made := makeFolders_detour (readingCommands (steady bundle))
  have writes (code : Text) : (sources.put ["work", "dist"] .folder).write ["work"] ⟨"dist/../out.js"⟩ code.utf8 =
      .ok (detourSources code) := rfl
  rw [runOnTree_of_parsed parsed, ran, run_finish of, core, read_core, alone]
  simp only [Compile.finish]
  unfold Machine.writeOutput
  rw [parent]
  simp only [nonempty, Bool.false_eq_true, if_false]
  rw [run_adaptBind, made]
  simp only
  rw [run_adaptWrite, writes]
  exact ⟨_, rfl⟩

theorem apart_detour (code : Text) : WritesApart answer ["work"] detourArguments sources (detourSources code) := by
  intro gathered of path member
  obtain ⟨options, outputFile⟩ := gathered_sources of
  have files : detourArguments.files = [⟨"./a.js"⟩] := rfl
  rw [options, files] at member
  rw [outputFile]
  rintro ⟨number, place, other, reached, stands, otherReached, otherStands⟩
  have output : (detourSources code).locate ["work"] ⟨"dist/../out.js"⟩ = .ok ["work", "out.js"] := rfl
  have written : (detourSources code).slot? ["work", "out.js"] = some (.file 2) := rfl
  rw [output] at reached
  cases reached
  rw [written] at stands
  cases stands
  simp only [List.mem_cons, List.not_mem_nil, or_false] at member
  rcases member with rfl | rfl | rfl
  · have core : (detourSources code).locate ["work"] detourOptions.coreFilename = .ok ["work", "core.js"] := rfl
    have old : (detourSources code).slot? ["work", "core.js"] = some (.file 0) := rfl
    rw [core] at otherReached
    cases otherReached
    rw [old] at otherStands
    exact absurd otherStands (by simp)
  · have missing : (detourSources code).locate ["work"] projectFile = .error .notFound := rfl
    have unnamed : detourArguments.projectPath = projectFile := rfl
    rw [unnamed, missing] at otherReached
    exact absurd otherReached (by simp)
  · have template : (detourSources code).locate ["work"] ⟨"./a.js"⟩ = .ok ["work", "a.js"] := rfl
    have old : (detourSources code).slot? ["work", "a.js"] = some (.file 1) := rfl
    rw [template] at otherReached
    cases otherReached
    rw [old] at otherStands
    exact absurd otherStands (by simp)

/-- The template has another label once its directory is unveiled. -/
theorem labels_detour {first : Gathered} (of : Gathered.Of answer ["work"] detourArguments sources first) (code : Text) :
    first.fragments.map Fragment.label = [("./a.js" : Text)] ∧
      (first.relabelled (detourSources code) ["work"]).fragments.map Fragment.label = [("a.js" : Text)] := by
  have templates := of.templates
  obtain ⟨options, -⟩ := gathered_sources of
  have unknown : labelIn sources ["work"] detourOptions.bundleDir ⟨"./a.js"⟩ = none := rfl
  have known : labelIn (detourSources code) ["work"] detourOptions.bundleDir ⟨"./a.js"⟩ = some ("a.js" : Text) := by
    have folder : (detourSources code).canonical? ["work"] detourOptions.bundleDir =
        some (["work"] : Location) := rfl
    have place : (detourSources code).canonical? ["work"] ⟨"./a.js"⟩ =
        some (["work", "a.js"] : Location) := rfl
    have below : relativeTo ["work"] ["work", "a.js"] = some ("a.js" : Text) := by decide +kernel
    simp only [labelIn, folder, place, Option.bind_eq_bind, Option.bind_some, below]
  rw [Gathered.relabelled]
  rw [options] at templates ⊢
  generalize first.fragments = fragments at templates
  cases templates with
  | cons template rest =>
      cases rest
      obtain ⟨text, -, rfl⟩ := template
      simp only [List.map_cons, List.map_nil, relabelled, Fragment.label, unknown, known, Option.getD_none,
        Option.getD_some, and_self]

theorem runOnTree_repeated_detour : ∃ code first second last,
    Arguments.ofTexts ["./a.js", "-o", "dist/../out.js", "--core=core.js"] = .ok detourArguments ∧
    sources.WellFormed ∧ NeedsFolder (steady "require = get;") ∧ PrintsAlike (steady "require = get;") ∧
    runOnTree (readingCommands (steady "require = get;")) ["work"]
      ["./a.js", "-o", "dist/../out.js", "--core=core.js"] sources = (.ok (), detourSources code) ∧
    WritesApart (steady "require = get;") ["work"] detourArguments sources (detourSources code) ∧
    ¬Configured (detourSources code) ["work"] detourArguments ∧
    Build.Of (steady "require = get;") ["work"] detourArguments sources first ∧
    Build.Of (steady "require = get;") ["work"] detourArguments (detourSources code) second ∧
    runOnTree (readingCommands (steady "require = get;")) ["work"]
      ["./a.js", "-o", "dist/../out.js", "--core=core.js"] (detourSources code) = (.ok (), last) ∧
    first.fragments.map Fragment.label = [("./a.js" : Text)] ∧
    second.fragments.map Fragment.label = [("a.js" : Text)] := by
  have parsed : Arguments.ofTexts ["./a.js", "-o", "dist/../out.js", "--core=core.js"] = .ok detourArguments := by
    decide
  have needs := needsFolder_steady "require = get;"
  have alike := printsAlike_steady "require = get;"
  obtain ⟨code, ran⟩ := ends_detour "require = get;"
  have apart := @apart_detour (steady "require = get;") code
  have unconfigured : ¬Configured (detourSources code) ["work"] detourArguments := by
    intro configured
    have holds := configured rfl
    have missing : (detourSources code).holds ["work"] projectFile = false := rfl
    rw [missing] at holds
    exact absurd holds (by simp)
  obtain ⟨first, second, last, of, again, labels, reran, -, -⟩ :=
    runOnTree_repeated parsed rfl wellFormed_sources needs alike ran apart fun configured =>
      absurd configured unconfigured
  obtain ⟨before, after⟩ := labels_detour of.toOf code
  rw [← labels] at after
  exact ⟨code, first, second, last, parsed, wellFormed_sources, needs, alike, ran, apart, unconfigured, of, again,
    reran, before, after⟩

end UniversalModule.CommandLine
