import UniversalModule.Project.Basic
import UniversalModule.Proofs.Compile.Texts
import UniversalModule.Proofs.Options
import UniversalModule.Proofs.Resolution.Selection

/-!
What a compilation asks for outside, and how it ends. Surroundings answer every request, and an
answer may depend on all that was asked for before; so nothing is assumed of files and bundlers.
A compilation that is refused asks for nothing, any other asks for its core once and for its
packages at most once, and does so whatever the answers are.
-/

namespace UniversalModule

inductive Request where
  | read (path : Path)
  | bundle (folder : Path) (packages : List Text)
deriving DecidableEq

structure Surroundings where
  read : List Request → Path → Except IoFault Text
  bundle : List Request → Path → List Text → Except BundleError Text

/-- Supplies that answer as the surroundings do and keep the requests in the order in which they
are made. -/
def Surroundings.supplies (surroundings : Surroundings) : Supplies (StateM (List Request)) where
  read path := fun asked => (surroundings.read asked path, asked ++ [.read path])
  bundle folder packages := fun asked =>
    (surroundings.bundle asked folder packages, asked ++ [.bundle folder packages])

namespace Options

/-- The requests for a bundle: one for all packages, when there are any. -/
def bundleRequests (options : Options) : List Request :=
  if Resolution.bundledPackages options.requires = [] then []
  else [.bundle options.bundleDir (Resolution.bundledPackages options.requires)]

def requests (options : Options) : Schedule → List Request
  | .coreFirst => .read options.coreFilename :: options.bundleRequests
  | .bundleFirst => options.bundleRequests ++ [.read options.coreFilename]

def beforeRead (options : Options) : Schedule → List Request
  | .coreFirst => []
  | .bundleFirst => options.bundleRequests

def beforeBundle (options : Options) : Schedule → List Request
  | .coreFirst => [.read options.coreFilename]
  | .bundleFirst => []

end Options

namespace Surroundings

variable (surroundings : Surroundings)

def bundled (options : Options) (asked : List Request) : Except BundleError (Option Text) :=
  if Resolution.bundledPackages options.requires = [] then .ok none
  else
    (surroundings.bundle asked options.bundleDir
      (Resolution.bundledPackages options.requires)).map some

/-- A job that goes on after another goes on with its answer and with what is asked for by then. -/
theorem run_bind {α β : Type} {first : StateM (List Request) α} {answer : α}
    {asked later : List Request} (ran : first.run asked = (answer, later))
    {next : α → StateM (List Request) β} : (first >>= next).run asked = (next answer).run later := by
  rw [StateT.run_bind, ran]
  rfl

theorem run_obtainBundle (options : Options) (asked : List Request) :
    (Compile.obtainBundle surroundings.supplies options).run asked =
      (surroundings.bundled options asked, asked ++ options.bundleRequests) := by
  unfold Compile.obtainBundle bundled Options.bundleRequests
  cases Resolution.bundledPackages options.requires with
  | nil =>
      rw [if_pos rfl, if_pos rfl, List.append_nil]
      rfl
  | cons package rest =>
      rw [if_neg (List.cons_ne_nil package rest), if_neg (List.cons_ne_nil package rest)]
      rfl

theorem run_read (path : Path) (asked : List Request) :
    (surroundings.supplies.read path).run asked =
      (surroundings.read asked path, asked ++ [.read path]) := rfl

theorem run_obtain (schedule : Schedule) (options : Options) (asked : List Request) :
    (Compile.obtain surroundings.supplies schedule options).run asked =
      ((surroundings.read (asked ++ options.beforeRead schedule) options.coreFilename,
        surroundings.bundled options (asked ++ options.beforeBundle schedule)),
        asked ++ options.requests schedule) := by
  cases schedule with
  | coreFirst =>
      unfold Compile.obtain
      rw [run_bind (surroundings.run_read _ _), run_bind (surroundings.run_obtainBundle _ _),
        Options.beforeRead, List.append_nil, List.append_assoc]
      rfl
  | bundleFirst =>
      unfold Compile.obtain
      rw [run_bind (surroundings.run_obtainBundle _ _), run_bind (surroundings.run_read _ _),
        Options.beforeBundle, List.append_nil, List.append_assoc]
      rfl

/-- The result of a compilation in its surroundings, and all that is asked for by then. -/
def compile (schedule : Schedule) (options : Options) (fragments : List Fragment)
    (asked : List Request) : Except CompileError Output × List Request :=
  (UniversalModule.compile surroundings.supplies schedule options fragments).run asked

def compileProject (schedule : Schedule) (project : Project) (fragments : List Fragment)
    (asked : List Request) : Except CompileError Output × List Request :=
  (project.compile surroundings.supplies schedule fragments).run asked

section Accepted

variable (schedule : Schedule) (options : Options) (outputFile : Path) (fragments : List Fragment)
  (asked : List Request)

/-- How a compilation ends that is not refused: a failure of the core counts first, then a failure
of bundling, and without either there is a module. -/
inductive Ends : Except CompileError Output → Prop where
  | coreFails {fault : IoFault}
      (read : surroundings.read (asked ++ options.beforeRead schedule) options.coreFilename = .error fault) :
      Ends (.error (.coreLoad options.coreFilename fault))
  | bundleFails {content : Text} {error : BundleError}
      (read : surroundings.read (asked ++ options.beforeRead schedule) options.coreFilename = .ok content)
      (needed : Resolution.bundledPackages options.requires ≠ [])
      (bundle : surroundings.bundle (asked ++ options.beforeBundle schedule) options.bundleDir
        (Resolution.bundledPackages options.requires) = .error error) :
      Ends (.error (.bundle error))
  | bundled {content text : Text}
      (read : surroundings.read (asked ++ options.beforeRead schedule) options.coreFilename = .ok content)
      (needed : Resolution.bundledPackages options.requires ≠ [])
      (bundle : surroundings.bundle (asked ++ options.beforeBundle schedule) options.bundleDir
        (Resolution.bundledPackages options.requires) = .ok text) :
      Ends (.ok (emit options outputFile (options.coreSource content) fragments (some text)))
  | unbundled {content : Text}
      (read : surroundings.read (asked ++ options.beforeRead schedule) options.coreFilename = .ok content)
      (unneeded : Resolution.bundledPackages options.requires = []) :
      Ends (.ok (emit options outputFile (options.coreSource content) fragments none))

variable {options outputFile}

theorem compile_accepted (accepted : options.validate = .ok outputFile) :
    surroundings.compile schedule options fragments asked =
      (Compile.finish options outputFile fragments
        (surroundings.read (asked ++ options.beforeRead schedule) options.coreFilename)
        (surroundings.bundled options (asked ++ options.beforeBundle schedule)),
        asked ++ options.requests schedule) := by
  unfold compile UniversalModule.compile
  rw [accepted]
  exact run_bind (surroundings.run_obtain schedule options asked)

theorem compile_refused {error : CompileError} (refused : options.validate = .error error) :
    surroundings.compile schedule options fragments asked = (.error error, asked) := by
  unfold compile UniversalModule.compile
  rw [refused]
  rfl

theorem ends_finish :
    surroundings.Ends schedule options outputFile fragments asked
      (Compile.finish options outputFile fragments
        (surroundings.read (asked ++ options.beforeRead schedule) options.coreFilename)
        (surroundings.bundled options (asked ++ options.beforeBundle schedule))) := by
  -- What bundling gave is looked at only after the core was read.
  cases read : surroundings.read (asked ++ options.beforeRead schedule) options.coreFilename with
  | error fault => exact .coreFails read
  | ok content =>
      by_cases unneeded : Resolution.bundledPackages options.requires = []
      · rw [bundled, if_pos unneeded]
        exact .unbundled read unneeded
      · rw [bundled, if_neg unneeded]
        cases bundle : surroundings.bundle (asked ++ options.beforeBundle schedule) options.bundleDir
            (Resolution.bundledPackages options.requires) with
        | error error => exact .bundleFails read unneeded bundle
        | ok text => exact .bundled read unneeded bundle

end Accepted

end Surroundings

namespace Options

/-- The folder is for bundling only: it is not checked, and nothing else is asked for in it. -/
theorem validate_dirname (options : Options) (dirname : Option Path) :
    { options with dirname }.validate = options.validate := by
  simp only [validate, fault?]

theorem bundleRequests_eq_nil {options : Options}
    (unneeded : Resolution.bundledPackages options.requires = []) : options.bundleRequests = [] :=
  if_pos unneeded

theorem requests_unbundled {options : Options}
    (unneeded : Resolution.bundledPackages options.requires = []) (schedule : Schedule) :
    options.requests schedule = [.read options.coreFilename] := by
  cases schedule with
  | coreFirst => rw [requests, bundleRequests_eq_nil unneeded]
  | bundleFirst =>
      rw [requests, bundleRequests_eq_nil unneeded]
      rfl

theorem beforeRead_unbundled {options : Options}
    (unneeded : Resolution.bundledPackages options.requires = []) (schedule : Schedule) :
    options.beforeRead schedule = [] := by
  cases schedule with
  | coreFirst => rfl
  | bundleFirst => exact bundleRequests_eq_nil unneeded

end Options

namespace Surroundings

/-- Without packages a compilation is about its core and its fragments only. -/
theorem compile_unbundled (surroundings : Surroundings) {options : Options} {outputFile : Path}
    (accepted : options.validate = .ok outputFile)
    (unneeded : Resolution.bundledPackages options.requires = [])
    (schedule : Schedule) (fragments : List Fragment) (asked : List Request) :
    surroundings.compile schedule options fragments asked =
      (Compile.finish options outputFile fragments (surroundings.read asked options.coreFilename)
        (.ok none), asked ++ [.read options.coreFilename]) := by
  rw [compile_accepted surroundings schedule fragments asked accepted, Options.requests_unbundled unneeded,
    Options.beforeRead_unbundled unneeded, bundled, if_pos unneeded, List.append_nil]

theorem finish_dirname (options : Options) (dirname : Option Path) (outputFile : Path)
    (fragments : List Fragment) (core : Except IoFault Text)
    (bundle : Except BundleError (Option Text)) :
    Compile.finish { options with dirname } outputFile fragments core bundle =
      Compile.finish options outputFile fragments core bundle := rfl

/-- Without packages neither the bundler nor the folder makes a difference. -/
theorem compile_dirname_unbundled (surroundings : Surroundings) {options : Options}
    (unneeded : Resolution.bundledPackages options.requires = [])
    (bundle : List Request → Path → List Text → Except BundleError Text) (dirname : Option Path)
    (schedule : Schedule) (fragments : List Fragment) (asked : List Request) :
    { surroundings with bundle }.compile schedule { options with dirname } fragments asked =
      surroundings.compile schedule options fragments asked := by
  have same := options.validate_dirname dirname
  cases validated : options.validate with
  | error error =>
      rw [validated] at same
      rw [compile_refused _ schedule fragments asked validated, compile_refused _ schedule fragments asked same]
  | ok outputFile =>
      rw [validated] at same
      rw [compile_unbundled _ validated unneeded, compile_unbundled _ same unneeded, finish_dirname]

end Surroundings

namespace Dependencies

theorem requirementsOf_faulty {before after : List (Text × DependencyEntry)} {name : Text}
    {entry : DependencyEntry} {fault : Requirement.Fault}
    (sound : ∀ other ∈ before, ∃ requirement, other.2.toRequirement other.1 = .ok requirement)
    (faulty : entry.toRequirement name = .error fault) :
    requirementsOf (before ++ (name, entry) :: after) = .error (.invalidRequire name fault) := by
  induction before with
  | nil =>
      rw [List.nil_append, requirementsOf, faulty]
  | cons other rest induction =>
      obtain ⟨requirement, made⟩ := sound other List.mem_cons_self
      have others := induction fun found member => sound found (List.mem_cons_of_mem other member)
      rw [List.cons_append, requirementsOf, made, others]
      rfl

theorem requirementsOf_sound {entries : List (Text × DependencyEntry)}
    (sound : ∀ entry ∈ entries, ∃ requirement, entry.2.toRequirement entry.1 = .ok requirement) :
    ∃ requirements, requirementsOf entries = .ok requirements := by
  induction entries with
  | nil => exact ⟨[], rfl⟩
  | cons entry rest induction =>
      obtain ⟨requirement, made⟩ := sound entry List.mem_cons_self
      obtain ⟨others, found⟩ := induction fun other member => sound other (List.mem_cons_of_mem entry member)
      refine ⟨requirement :: others, ?_⟩
      rw [requirementsOf, made, found]
      rfl

end Dependencies

namespace Surroundings

theorem compileProject_faulty (surroundings : Surroundings) (schedule : Schedule)
    (fragments : List Fragment) (asked : List Request) {project : Project}
    {before after : List (Text × DependencyEntry)} {name : Text} {entry : DependencyEntry}
    {fault : Requirement.Fault} (entries : project.requires.entries = before ++ (name, entry) :: after)
    (sound : ∀ other ∈ before, ∃ requirement, other.2.toRequirement other.1 = .ok requirement)
    (faulty : entry.toRequirement name = .error fault) :
    surroundings.compileProject schedule project fragments asked =
      (.error (.invalidRequire name fault), asked) := by
  have refused : project.toOptions = .error (.invalidRequire name fault) := by
    unfold Project.toOptions Dependencies.requirements
    rw [entries, Dependencies.requirementsOf_faulty sound faulty]
    rfl
  unfold compileProject Project.compile
  rw [refused]
  rfl

theorem compileProject_sound (surroundings : Surroundings) (schedule : Schedule)
    (fragments : List Fragment) (asked : List Request) {project : Project}
    (sound : ∀ entry ∈ project.requires.entries,
      ∃ requirement, entry.2.toRequirement entry.1 = .ok requirement) :
    ∃ options, project.toOptions = .ok options ∧
      surroundings.compileProject schedule project fragments asked =
        surroundings.compile schedule options fragments asked := by
  obtain ⟨requirements, made⟩ := Dependencies.requirementsOf_sound sound
  have converted : ∃ options, project.toOptions = .ok options := by
    unfold Project.toOptions Dependencies.requirements
    rw [made]
    exact ⟨_, rfl⟩
  obtain ⟨options, converted⟩ := converted
  refine ⟨options, converted, ?_⟩
  unfold compileProject Project.compile
  rw [converted]
  rfl

/-- A compilation that is refused asks for nothing. Any other asks for the core once, and once for
the packages if there are any, in the given order and whatever the answers are; it ends with the
core's failure if there is one, else with that of bundling, else with a module. A project with a
faulty entry is refused for its first one before its options are checked. Where nothing comes as a
package, neither the bundler nor its folder makes a difference. -/
theorem compile_requests (surroundings : Surroundings) (schedule : Schedule)
    (fragments : List Fragment) (asked : List Request) :
    (∀ (options : Options) (error : CompileError), options.validate = .error error →
      surroundings.compile schedule options fragments asked = (.error error, asked)) ∧
    (∀ (options : Options) (outputFile : Path), options.validate = .ok outputFile →
      ∃ result,
        surroundings.compile schedule options fragments asked =
          (result, asked ++ options.requests schedule) ∧
        surroundings.Ends schedule options outputFile fragments asked result) ∧
    (∀ (project : Project) (before after : List (Text × DependencyEntry)) (name : Text)
      (entry : DependencyEntry) (fault : Requirement.Fault),
      project.requires.entries = before ++ (name, entry) :: after →
      (∀ other ∈ before, ∃ requirement, other.2.toRequirement other.1 = .ok requirement) →
      entry.toRequirement name = .error fault →
      surroundings.compileProject schedule project fragments asked =
        (.error (.invalidRequire name fault), asked)) ∧
    (∀ project : Project,
      (∀ entry ∈ project.requires.entries,
        ∃ requirement, entry.2.toRequirement entry.1 = .ok requirement) →
      ∃ options, project.toOptions = .ok options ∧
        surroundings.compileProject schedule project fragments asked =
          surroundings.compile schedule options fragments asked) ∧
    (∀ options : Options,
      (∀ requirement ∈ options.requires, ∀ package, .bundled package ∉ requirement.providers) →
      ∀ bundle dirname,
        { surroundings with bundle }.compile schedule { options with dirname } fragments asked =
          surroundings.compile schedule options fragments asked) := by
  refine ⟨?_, ?_, ?_, ?_, ?_⟩
  · intro options error refused
    exact surroundings.compile_refused schedule fragments asked refused
  · intro options outputFile accepted
    exact ⟨_, surroundings.compile_accepted schedule fragments asked accepted,
      surroundings.ends_finish schedule fragments asked⟩
  · intro project before after name entry fault entries sound faulty
    exact surroundings.compileProject_faulty schedule fragments asked entries sound faulty
  · intro project sound
    exact surroundings.compileProject_sound schedule fragments asked sound
  · intro options none bundle dirname
    have unneeded : Resolution.bundledPackages options.requires = [] := by
      refine Decidable.byContradiction fun needed => ?_
      obtain ⟨requirement, member, package, given⟩ :=
        (Resolution.bundledPackages_ne_nil_iff options.requires).mp needed
      exact none requirement member package given
    exact surroundings.compile_dirname_unbundled unneeded bundle dirname schedule fragments asked

end Surroundings

def Options.bundling : Options :=
  { least with requires := [⟨"jquery", [.bundled "jquery"], Requirement.fault?_eq_none_iff.mp (by decide)⟩] }

theorem Options.validate_bundling : bundling.validate = .ok ⟨"module.js"⟩ :=
  validate_requires validate_least (by decide)

namespace Surroundings

def empty : Surroundings where
  read _ _ := .error .notFound
  bundle _ _ packages := .error (.unresolved (packages.headD []))

theorem compile_requests_empty :
    Options.bundling.validate = .ok ⟨"module.js"⟩ ∧
    empty.compile .bundleFirst Options.bundling [] [] =
      (.error (.coreLoad ⟨"core.js"⟩ .notFound), [.bundle ⟨"."⟩ ["jquery"], .read ⟨"core.js"⟩]) := by
  have accepted : Options.bundling.validate = .ok ⟨"module.js"⟩ := Options.validate_bundling
  obtain ⟨-, settled, -⟩ := compile_requests empty .bundleFirst [] []
  obtain ⟨result, ran, ends⟩ := settled Options.bundling ⟨"module.js"⟩ accepted
  refine ⟨accepted, ?_⟩
  rw [ran]
  cases ends with
  | coreFails read =>
      cases read
      rfl
  | bundleFails read => exact absurd read (by simp [empty])
  | bundled read => exact absurd read (by simp [empty])
  | unbundled read => exact absurd read (by simp [empty])

end Surroundings

end UniversalModule
