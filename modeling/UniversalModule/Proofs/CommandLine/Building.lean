import Mathlib.Data.List.Forall2
import UniversalModule.Proofs.CommandLine.Folders
import UniversalModule.Proofs.Compile.Texts

/-!
How a call comes to its module. It reads its project, converts and checks the options and reads its
templates, all of which leave the tree as it is; it goes on with what it gathered so to compile, and only
then to write.
-/

namespace UniversalModule.CommandLine

open Host (Location Tree)

/-- A template as it is embedded: unwrapped, and labelled by its place under the directory in which
packages are bundled. -/
def IsTemplate (tree : Tree) (current : Location) (base path : Path) (fragment : Fragment) : Prop :=
  ∃ text, tree.read current path = .ok text ∧
    fragment = { path, relative := labelIn tree current base path, content := unwrapTemplate text }

section Templates

variable {commands : Commands} {current : Location} {base : Path} {tree after : Tree}

theorem forall₂_isTemplate {files : List Path} {fragments : List Fragment}
    (ran : (files.mapM ((treeMachine commands current).fragment base)).run.run tree = (.ok fragments, after)) :
    List.Forall₂ (IsTemplate tree current base) files fragments := by
  induction files generalizing fragments after with
  | nil =>
      cases ran
      exact .nil
  | cons path rest induction =>
      rw [List.mapM_cons, run_tryBind, run_fragment] at ran
      cases content : tree.read current path with
      | error fault =>
          rw [content] at ran
          exact absurd (congrArg Prod.fst ran) (by simp)
      | ok text =>
          rw [content] at ran
          simp only at ran
          rw [run_tryBind] at ran
          generalize others : (rest.mapM ((treeMachine commands current).fragment base)).run.run tree = result at ran
          obtain ⟨result, last⟩ := result
          cases result with
          | error failure => exact absurd (congrArg Prod.fst ran) (by simp)
          | ok values =>
              cases ran
              exact .cons ⟨text, content, rfl⟩ (induction others)

end Templates

abbrev readingMachine (answer : Tree → Location → Text → Path → List Text → Except BundleError Text)
    (current : Location) : Machine (StateM Tree) :=
  treeMachine (readingCommands answer) current

abbrev readingMachineOn (disk : Disk)
    (answer : Tree → Location → Text → Path → List Text → Except BundleError Text)
    (current : Location) : Machine (StateM Tree) :=
  diskMachine disk (readingCommands answer) current

structure Gathered where
  project : Project
  options : Options
  outputFile : Path
  fragments : List Fragment

structure Build extends Gathered where
  output : Output

variable {answer : Tree → Location → Text → Path → List Text → Except BundleError Text}
  {current : Location} {arguments : Arguments} {disk : Disk} {tree before after : Tree}

structure Gathered.Of (answer : Tree → Location → Text → Path → List Text → Except BundleError Text)
    (current : Location) (arguments : Arguments) (tree : Tree) (gathered : Gathered) : Prop where
  project : ((readingMachine answer current).effectiveProject arguments).run.run tree =
    (.ok gathered.project, tree)
  options : gathered.project.toOptions = .ok gathered.options
  accepted : gathered.options.validate = .ok gathered.outputFile
  given : arguments.files ≠ []
  templates : List.Forall₂ (IsTemplate tree current gathered.options.bundleDir) arguments.files
    gathered.fragments

/-- The build is what the arguments ask for in a folder of a tree: the output is what compiling the
effective project with the templates gives there. -/
structure Build.Of (answer : Tree → Location → Text → Path → List Text → Except BundleError Text)
    (current : Location) (arguments : Arguments) (tree : Tree) (build : Build) : Prop extends
    Gathered.Of answer current arguments tree build.toGathered where
  output : (build.project.compile ((readingMachine answer current).supplies build.project.bundler)
    .coreFirst build.fragments).run tree = (.ok build.output, tree)

def Gathered.finish {m : Type → Type} [Monad m] (machine : Machine m) (gathered : Gathered) :
    ExceptT Failure m Unit := do
  let output ← ExceptT.adapt Failure.compile (ExceptT.mk
    (gathered.project.compile (machine.supplies gathered.project.bundler) .coreFirst gathered.fragments))
  machine.writeOutput gathered.outputFile output.code

theorem effectiveProject_diskMachine (commands : Commands) :
    (diskMachine disk commands current).effectiveProject = (treeMachine commands current).effectiveProject := rfl

theorem fragment_diskMachine (commands : Commands) :
    (diskMachine disk commands current).fragment = (treeMachine commands current).fragment := rfl

theorem supplies_diskMachine (commands : Commands) :
    (diskMachine disk commands current).supplies = (treeMachine commands current).supplies := rfl

/-- Building converts the project, checks the options and reads the templates before it compiles. -/
theorem run_build (commands : Commands) (project : Project) (files : List Path) (tree : Tree) :
    ((diskMachine disk commands current).build project files).run.run tree =
      match project.toOptions with
      | .error error => (.error (.compile error), tree)
      | .ok options =>
          match options.validate with
          | .error error => (.error (.compile error), tree)
          | .ok outputFile =>
              match (files.mapM ((treeMachine commands current).fragment options.bundleDir)).run.run tree with
              | (.error failure, after) => (.error failure, after)
              | (.ok fragments, after) =>
                  (Gathered.finish (diskMachine disk commands current)
                    ⟨project, options, outputFile, fragments⟩).run.run after := by
  unfold Machine.build
  rw [run_adaptBind, run_pure]
  cases project.toOptions with
  | error error => rfl
  | ok options =>
      simp only
      rw [run_adaptBind, run_pure]
      cases options.validate with
      | error error => rfl
      | ok outputFile =>
          simp only
          rw [run_tryBind, fragment_diskMachine]
          generalize (files.mapM ((treeMachine commands current).fragment options.bundleDir)).run.run tree = ran
          obtain ⟨result, after⟩ := ran
          cases result <;> rfl

/-- A call without `--init` builds from its project when there are templates. -/
theorem run_act (commands : Commands) (noInit : arguments.has .init = false) (tree : Tree) :
    ((diskMachine disk commands current).act arguments).run.run tree =
      match ((treeMachine commands current).effectiveProject arguments).run.run tree with
      | (.error failure, after) => (.error failure, after)
      | (.ok project, after) =>
          if arguments.files.isEmpty then (.error .noInput, after)
          else ((diskMachine disk commands current).build project arguments.files).run.run after := by
  unfold Machine.act
  rw [if_neg (by simp [noInit]), run_tryBind, effectiveProject_diskMachine]
  generalize ((treeMachine commands current).effectiveProject arguments).run.run tree = ran
  obtain ⟨result, after⟩ := ran
  cases result with
  | error failure => rfl
  | ok project =>
      simp only
      split <;> rfl

/-- The paths of the inputs lead to the same in both trees, and so do the labels of templates. -/
structure SameInputs (answer : Tree → Location → Text → Path → List Text → Except BundleError Text)
    (current : Location) (arguments : Arguments) (before after : Tree) : Prop where
  project : Agree before after current arguments.projectPath
  templates : ∀ path ∈ arguments.files, Agree before after current path
  labels : ∀ project options,
    ((readingMachine answer current).effectiveProject arguments).run.run before = (.ok project, before) →
    project.toOptions = .ok options → ∀ path ∈ arguments.files, ∀ text, before.read current path = .ok text →
    labelIn before current options.bundleDir path = labelIn after current options.bundleDir path

theorem SameInputs.refl (answer : Tree → Location → Text → Path → List Text → Except BundleError Text)
    (current : Location) (arguments : Arguments) (tree : Tree) :
    SameInputs answer current arguments tree tree where
  project := .refl tree current _
  templates path _ := .refl tree current path
  labels _ _ _ _ _ _ _ _ := rfl

theorem build_gathers {project : Project} (same : SameInputs answer current arguments before after)
    (given : arguments.files ≠ [])
    (configured : ((readingMachine answer current).effectiveProject arguments).run.run before =
      (.ok project, before)) :
    (∃ failure : Failure, failure.isLate = false ∧
      ((readingMachineOn disk answer current).build project arguments.files).run.run before = (.error failure, before) ∧
      ((readingMachineOn disk answer current).build project arguments.files).run.run after = (.error failure, after)) ∨
    ∃ gathered, Gathered.Of answer current arguments before gathered ∧
      ((readingMachineOn disk answer current).build project arguments.files).run.run before =
        (gathered.finish (readingMachineOn disk answer current)).run.run before ∧
      ((readingMachineOn disk answer current).build project arguments.files).run.run after =
        (gathered.finish (readingMachineOn disk answer current)).run.run after := by
  rw [run_build, run_build]
  cases made : project.toOptions with
  | error error => exact .inl ⟨.compile error, rfl, rfl, rfl⟩
  | ok options =>
  simp only
  cases accepted : options.validate with
  | error error => exact .inl ⟨.compile error, rfl, rfl, rfl⟩
  | ok outputFile =>
  simp only
  have templates : Looks before after
      (arguments.files.mapM ((readingMachine answer current).fragment options.bundleDir)) := by
    apply Looks.mapM
    intro path member
    exact looks_fragment (same.templates path member) (same.labels project options configured made path member)
  obtain ⟨result, onFirst, onSecond, early⟩ := templates
  simp only [onFirst, onSecond]
  cases result with
  | error failure => exact .inl ⟨failure, early failure rfl, rfl, rfl⟩
  | ok fragments =>
      have of : Gathered.Of answer current arguments before ⟨project, options, outputFile, fragments⟩ :=
        ⟨configured, made, accepted, given, forall₂_isTemplate onFirst⟩
      exact .inr ⟨_, of, rfl, rfl⟩

/-- A call without `--init` fails and leaves the tree, or it gathers what its inputs give; on two
trees in which these are the same it comes equally far. -/
theorem act_gathers (noInit : arguments.has .init = false)
    (same : SameInputs answer current arguments before after) :
    (∃ failure : Failure, failure.isLate = false ∧
      ((readingMachineOn disk answer current).act arguments).run.run before = (.error failure, before) ∧
      ((readingMachineOn disk answer current).act arguments).run.run after = (.error failure, after)) ∨
    ∃ gathered, Gathered.Of answer current arguments before gathered ∧
      ((readingMachineOn disk answer current).act arguments).run.run before =
        (gathered.finish (readingMachineOn disk answer current)).run.run before ∧
      ((readingMachineOn disk answer current).act arguments).run.run after =
        (gathered.finish (readingMachineOn disk answer current)).run.run after := by
  have configured : Looks before after ((readingMachine answer current).effectiveProject arguments) :=
    looks_effectiveProject same.project.project
  obtain ⟨result, onFirst, onSecond, early⟩ := configured
  rw [run_act _ noInit, run_act _ noInit, onFirst, onSecond]
  cases result with
  | error failure => exact .inl ⟨failure, early failure rfl, rfl, rfl⟩
  | ok project =>
      simp only
      split
      · exact .inl ⟨.noInput, rfl, rfl, rfl⟩
      · next given => exact build_gathers same (by simpa using given) onFirst

/-- The bundle that a command gives in a folder of a tree, if packages are needed. -/
def bundleOn (answer : Tree → Location → Text → Path → List Text → Except BundleError Text)
    (current : Location) (program : Text) (options : Options) (tree : Tree) :
    Except BundleError (Option Text) :=
  match Resolution.bundledPackages options.requires with
  | [] => .ok none
  | packages => (answer tree current program options.bundleDir packages).map some

theorem run_compile {gathered : Gathered} (of : Gathered.Of answer current arguments before gathered)
    (tree : Tree) :
    (gathered.project.compile ((readingMachine answer current).supplies gathered.project.bundler)
      .coreFirst gathered.fragments).run tree =
      (Compile.finish gathered.options gathered.outputFile gathered.fragments
        (tree.read current gathered.options.coreFilename)
        (bundleOn answer current gathered.project.bundler gathered.options tree), tree) := by
  unfold Project.compile
  rw [of.options]
  simp only
  unfold compile
  rw [of.accepted]
  simp only [Compile.obtain, Compile.obtainBundle, bundleOn]
  cases Resolution.bundledPackages gathered.options.requires <;> rfl

theorem run_finish {gathered : Gathered} (of : Gathered.Of answer current arguments before gathered)
    (tree : Tree) :
    (gathered.finish (readingMachineOn disk answer current)).run.run tree =
      match Compile.finish gathered.options gathered.outputFile gathered.fragments
        (tree.read current gathered.options.coreFilename)
        (bundleOn answer current gathered.project.bundler gathered.options tree) with
      | .error error => (.error (.compile error), tree)
      | .ok output =>
          ((readingMachineOn disk answer current).writeOutput gathered.outputFile
            output.code).run.run tree := by
  unfold Gathered.finish
  rw [run_adaptBind, supplies_diskMachine, run_compile of]
  cases Compile.finish gathered.options gathered.outputFile gathered.fragments
    (tree.read current gathered.options.coreFilename)
    (bundleOn answer current gathered.project.bundler gathered.options tree) <;> rfl

/-- A call whose templates can be read and whose options are accepted goes on to compile. -/
theorem act_of_read {project : Project} {options : Options} {outputFile : Path} (noInit : arguments.has .init = false)
    (configured : ((readingMachine answer current).effectiveProject arguments).run.run tree = (.ok project, tree))
    (converted : project.toOptions = .ok options) (accepted : options.validate = .ok outputFile)
    (given : arguments.files ≠ []) (readable : ∀ path ∈ arguments.files, ∃ text, tree.read current path = .ok text) :
    ∃ fragments, Gathered.Of answer current arguments tree ⟨project, options, outputFile, fragments⟩ ∧
      ((readingMachineOn disk answer current).act arguments).run.run tree =
        (Gathered.finish (readingMachineOn disk answer current) ⟨project, options, outputFile, fragments⟩).run.run tree := by
  obtain ⟨fragments, ran⟩ := @fragments_of_read (readingCommands answer) current options.bundleDir tree _ readable
  refine ⟨fragments, ⟨configured, converted, accepted, given, forall₂_isTemplate ran⟩, ?_⟩
  rw [run_act _ noInit, configured]
  simp only [List.isEmpty_iff, given, if_false]
  rw [run_build]
  simp only [converted, accepted, ran]

/-- A call without `--init` fails and leaves the tree, or it goes on to write what it built. -/
theorem act_cases (noInit : arguments.has .init = false) :
    (∃ failure : Failure, failure.isLate = false ∧
      ((readingMachineOn disk answer current).act arguments).run.run tree = (.error failure, tree)) ∨
    ∃ build, Build.Of answer current arguments tree build ∧
      ((readingMachineOn disk answer current).act arguments).run.run tree =
        ((readingMachineOn disk answer current).writeOutput build.outputFile
          build.output.code).run.run tree := by
  rcases act_gathers noInit (SameInputs.refl answer current arguments tree) with
    ⟨failure, early, ran, -⟩ | ⟨gathered, of, ran, -⟩
  · exact .inl ⟨failure, early, ran⟩
  · have compiled := run_compile of tree
    rw [ran, run_finish of]
    cases result : Compile.finish gathered.options gathered.outputFile gathered.fragments
        (tree.read current gathered.options.coreFilename)
        (bundleOn answer current gathered.project.bundler gathered.options tree) with
    | error error => exact .inl ⟨.compile error, rfl, rfl⟩
    | ok output =>
        rw [result] at compiled
        exact .inr ⟨{ gathered with output }, { of with output := compiled }, rfl⟩

/-- A build has its module from the core, the fragments and the bundle. -/
theorem Build.Of.compiled {build : Build} (of : Build.Of answer current arguments tree build) :
    ∃ content bundle?, tree.read current build.options.coreFilename = .ok content ∧
      bundleOn answer current build.project.bundler build.options tree = .ok bundle? ∧
      build.output = emit build.options build.outputFile ⟨build.options.coreFilename.text, content⟩
        build.fragments bundle? := by
  have compiled := run_compile of.toOf tree
  rw [of.output] at compiled
  have finished := (congrArg Prod.fst compiled).symm
  simp only at finished
  obtain ⟨content, bundle?, core, bundled, made⟩ := Compile.finish_eq_ok_iff.mp finished
  exact ⟨content, bundle?, core, bundled, made.symm⟩

end UniversalModule.CommandLine
