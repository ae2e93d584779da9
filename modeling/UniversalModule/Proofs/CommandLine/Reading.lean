import UniversalModule.CommandLine.TreeMachine
import UniversalModule.Proofs.Host.Changes

/-!
Calls as far as they only look at a tree. Two trees in which the paths of the input lead to the same
give the same, and both stay as they are; a tree beside itself shows what a call leaves unchanged.
-/

namespace UniversalModule.CommandLine

open Host (Location Tree Entry)

theorem run_bind {α β : Type} (first : StateM Tree α) (second : α → StateM Tree β) (tree : Tree) :
    (first >>= second).run tree = (second (first.run tree).1).run (first.run tree).2 := rfl

theorem run_pure {α : Type} (value : α) (tree : Tree) : (pure value : StateM Tree α).run tree = (value, tree) :=
  rfl

theorem run_tryBind {α β : Type} (first : ExceptT Failure (StateM Tree) α)
    (second : α → ExceptT Failure (StateM Tree) β) (tree : Tree) :
    (first >>= second).run.run tree =
      match first.run.run tree with
      | (.error failure, after) => (.error failure, after)
      | (.ok value, after) => (second value).run.run after := by
  rw [ExceptT.run_bind, run_bind]
  generalize first.run.run tree = ran
  obtain ⟨result, after⟩ := ran
  cases result <;> rfl

theorem run_adapt {α ε : Type} (failure : ε → Failure) (action : StateM Tree (Except ε α)) (tree : Tree) :
    (ExceptT.adapt failure (ExceptT.mk action)).run.run tree =
      ((action.run tree).1.mapError failure, (action.run tree).2) := rfl

theorem run_adaptBind {α β ε : Type} (failure : ε → Failure) (action : StateM Tree (Except ε α))
    (next : α → ExceptT Failure (StateM Tree) β) (tree : Tree) :
    (ExceptT.adapt failure (ExceptT.mk action) >>= next).run.run tree =
      match action.run tree with
      | (.error error, after) => (.error (failure error), after)
      | (.ok value, after) => (next value).run.run after := by
  rw [run_tryBind, run_adapt]
  generalize action.run tree = ran
  obtain ⟨result, after⟩ := ran
  cases result <;> rfl

theorem run_lift {α : Type} (action : StateM Tree α) (tree : Tree) :
    (liftM action : ExceptT Failure (StateM Tree) α).run.run tree =
      (.ok (action.run tree).1, (action.run tree).2) := rfl

/-- The result is the same on both trees, and both are left as they are. -/
def Reads {α : Type} (before after : Tree) (x : StateM Tree α) : Prop :=
  ∃ value, x.run before = (value, before) ∧ x.run after = (value, after)

namespace Reads

variable {α β : Type} {before after : Tree}

theorem pure (before after : Tree) (value : α) : Reads before after (Pure.pure value) := ⟨value, rfl, rfl⟩

theorem state (look : Tree → α) (same : look before = look after) :
    Reads before after (return look (← get)) := by
  refine ⟨look before, rfl, ?_⟩
  rw [same]
  rfl

theorem bind {x : StateM Tree α} {next : α → StateM Tree β} (first : Reads before after x)
    (second : ∀ value, Reads before after (next value)) : Reads before after (x >>= next) := by
  obtain ⟨value, onFirst, onSecond⟩ := first
  obtain ⟨result, thenFirst, thenSecond⟩ := second value
  refine ⟨result, ?_, ?_⟩
  · rw [run_bind, onFirst]
    exact thenFirst
  · rw [run_bind, onSecond]
    exact thenSecond

end Reads

def Failure.isLate : Failure → Bool
  | .create _ _ => true
  | .write _ _ => true
  | _ => false

/-- Both trees are only looked at, with the same result, and a failure is none of writing. -/
def Looks {α : Type} (before after : Tree) (x : ExceptT Failure (StateM Tree) α) : Prop :=
  ∃ value, x.run.run before = (value, before) ∧ x.run.run after = (value, after) ∧
    ∀ failure, value = .error failure → failure.isLate = false

namespace Looks

variable {α β : Type} {before after : Tree}

theorem pure (before after : Tree) (value : α) : Looks before after (Pure.pure value) :=
  ⟨.ok value, rfl, rfl, by simp⟩

theorem fails {failure : Failure} (early : failure.isLate = false) :
    Looks before after (throw failure : ExceptT Failure (StateM Tree) α) := by
  refine ⟨.error failure, rfl, rfl, ?_⟩
  intro other same
  cases same
  exact early

theorem bind {x : ExceptT Failure (StateM Tree) α} {next : α → ExceptT Failure (StateM Tree) β}
    (first : Looks before after x)
    (second : ∀ value, x.run.run before = (.ok value, before) → Looks before after (next value)) :
    Looks before after (x >>= next) := by
  obtain ⟨result, onFirst, onSecond, early⟩ := first
  cases result with
  | error failure =>
      refine ⟨.error failure, ?_, ?_, ?_⟩
      · rw [run_tryBind, onFirst]
      · rw [run_tryBind, onSecond]
      · intro other same
        cases same
        exact early failure rfl
  | ok value =>
      obtain ⟨final, thenFirst, thenSecond, thenEarly⟩ := second value onFirst
      refine ⟨final, ?_, ?_, thenEarly⟩
      · rw [run_tryBind, onFirst]
        exact thenFirst
      · rw [run_tryBind, onSecond]
        exact thenSecond

theorem adapt {ε : Type} {x : StateM Tree (Except ε α)} {failure : ε → Failure}
    (early : ∀ error, (failure error).isLate = false) (first : Reads before after x) :
    Looks before after (ExceptT.adapt failure (ExceptT.mk x)) := by
  obtain ⟨value, onFirst, onSecond⟩ := first
  refine ⟨value.mapError failure, ?_, ?_, ?_⟩
  · rw [run_adapt, onFirst]
  · rw [run_adapt, onSecond]
  · intro other same
    cases value with
    | ok value =>
        have impossible : (.ok value : Except Failure α) = .error other := same
        exact absurd impossible (by simp)
    | error error =>
        cases same
        exact early error

theorem lift {x : StateM Tree α} (first : Reads before after x) :
    Looks before after (liftM x : ExceptT Failure (StateM Tree) α) := by
  obtain ⟨value, onFirst, onSecond⟩ := first
  refine ⟨.ok value, ?_, ?_, by simp⟩
  · rw [run_lift, onFirst]
  · rw [run_lift, onSecond]

theorem mapM {made : α → ExceptT Failure (StateM Tree) β} (items : List α)
    (each : ∀ item ∈ items, Looks before after (made item)) : Looks before after (items.mapM made) := by
  induction items with
  | nil => exact .pure _ _ _
  | cons item rest induction =>
      rw [List.mapM_cons]
      apply bind (each item List.mem_cons_self)
      intro value _
      apply bind (induction fun other member => each other (List.mem_cons_of_mem item member))
      intro values _
      exact .pure _ _ _

end Looks

structure Agree (before after : Tree) (current : Location) (path : Path) : Prop where
  located : before.locate current path = after.locate current path
  found : before.found current path = after.found current path

theorem Agree.refl (tree : Tree) (current : Location) (path : Path) : Agree tree tree current path := ⟨rfl, rfl⟩

theorem Agree.read {before after : Tree} {current : Location} {path : Path}
    (agree : Agree before after current path) : before.read current path = after.read current path := by
  simp only [Tree.read, agree.found]

section Machine

variable {before after : Tree} {commands : Commands} {current : Location} {path base : Path}

theorem runOnDisk_of_parsed {disk : Disk} {texts : List Text} {arguments : Arguments}
    (parsed : Arguments.ofTexts texts = .ok arguments) (tree : Tree) :
    runOnDisk disk commands current texts tree =
      ((diskMachine disk commands current).act arguments).run.run tree := by
  unfold runOnDisk Machine.run
  rw [parsed]

theorem runOnTree_of_parsed {texts : List Text} {arguments : Arguments}
    (parsed : Arguments.ofTexts texts = .ok arguments) (tree : Tree) :
    runOnTree commands current texts tree = ((treeMachine commands current).act arguments).run.run tree :=
  runOnDisk_of_parsed parsed tree

theorem reads_read (same : before.read current path = after.read current path) :
    Reads before after ((treeMachine commands current).read path) :=
  Reads.state (fun tree => tree.read current path) same

theorem reads_isThere (same : before.holds current path = after.holds current path) :
    Reads before after ((treeMachine commands current).isThere path) :=
  Reads.state (fun tree => tree.holds current path) same

theorem reads_project (same : before.read current path = after.read current path) :
    Reads before after ((treeMachine commands current).project path) := by
  unfold Machine.project
  apply (reads_read same).bind
  intro content
  cases content with
  | error fault => exact .pure _ _ _
  | ok text =>
      simp only
      cases Project.ofText? text <;> exact .pure _ _ _

def Arguments.projectPath (arguments : Arguments) : Path :=
  match arguments.value? .project with
  | some named => ⟨named⟩
  | none => projectFile

/-- A call looks for a project file: one is named, or the usual one is there. -/
def Configured (tree : Tree) (current : Location) (arguments : Arguments) : Prop :=
  arguments.value? .project = none → tree.holds current projectFile = true

/-- The project file is there in both trees or in neither, and where it is read it reads the same. -/
structure ProjectAgrees (before after : Tree) (current : Location) (arguments : Arguments) : Prop where
  there : arguments.value? .project = none → before.holds current projectFile = after.holds current projectFile
  content : Configured before current arguments →
    before.read current arguments.projectPath = after.read current arguments.projectPath

theorem Agree.project {arguments : Arguments} (agree : Agree before after current arguments.projectPath) :
    ProjectAgrees before after current arguments where
  there unnamed := by
    unfold Arguments.projectPath at agree
    rw [unnamed] at agree
    simp only [Tree.holds, agree.located]
  content _ := agree.read

theorem looks_effectiveProject {arguments : Arguments} (agree : ProjectAgrees before after current arguments) :
    Looks before after ((treeMachine commands current).effectiveProject arguments) := by
  obtain ⟨there, content⟩ := agree
  have base : Looks before after ((treeMachine commands current).baseProject arguments) := by
    unfold Machine.baseProject
    unfold Configured Arguments.projectPath at content
    cases given : arguments.value? .project with
    | some named =>
        rw [given] at content
        exact .adapt (fun _ => rfl) (reads_project (content (by simp)))
    | none =>
        rw [given] at content
        apply Looks.bind (.lift (reads_isThere (there given)))
        intro isThere looked
        cases isThere with
        | true =>
            have holds : before.holds current projectFile = true := Except.ok.inj (congrArg Prod.fst looked)
            exact .adapt (fun _ => rfl) (reads_project (content fun _ => holds))
        | false => exact .pure _ _ _
  apply base.bind
  intro project _
  apply Looks.bind
  · unfold Arguments.coreOptions?
    split
    · exact .pure _ _ _
    · split
      · exact .fails rfl
      · exact .pure _ _ _
  · intro coreOptions _
    exact .pure _ _ _

def loaded (tree : Tree) (current : Location) (path : Path) : Except ProjectError Project :=
  match tree.read current path with
  | .error fault => .error (.io fault)
  | .ok text =>
      match Project.ofText? text with
      | none => .error .parse
      | some project => .ok project

/-- The project that a call starts from: that of its project file, or the default one if it has no such file. -/
inductive StartsFrom (tree : Tree) (current : Location) (arguments : Arguments) : Project → Prop where
  | file {text : Text} {project : Project} (configured : Configured tree current arguments)
      (content : tree.read current arguments.projectPath = .ok text) (read : Project.ofText? text = some project) :
      StartsFrom tree current arguments project
  | default (unconfigured : ¬Configured tree current arguments) :
      StartsFrom tree current arguments Project.default

section Project

variable {tree last : Tree} {arguments : Arguments} {base : Project}

theorem loaded_eq_ok_iff {path : Path} :
    loaded tree current path = .ok base ↔
      ∃ text, tree.read current path = .ok text ∧ Project.ofText? text = some base := by
  unfold loaded
  cases tree.read current path with
  | error fault => simp
  | ok text => cases read : Project.ofText? text <;> simp [read]

theorem run_read (path : Path) :
    ((treeMachine commands current).read path).run tree = (tree.read current path, tree) := rfl

theorem run_isThere (path : Path) :
    ((treeMachine commands current).isThere path).run tree = (tree.holds current path, tree) := rfl

theorem run_project (path : Path) :
    ((treeMachine commands current).project path).run tree = (loaded tree current path, tree) := by
  unfold Machine.project loaded
  rw [run_bind, run_read]
  cases tree.read current path with
  | error fault => rfl
  | ok text => cases read : Project.ofText? text <;> simp only [read, run_pure]

theorem run_baseProject_of_configured (configured : Configured tree current arguments) :
    ((treeMachine commands current).baseProject arguments).run.run tree =
      ((loaded tree current arguments.projectPath).mapError (Failure.loadProject arguments.projectPath), tree) := by
  unfold Machine.baseProject Arguments.projectPath
  cases named : arguments.value? .project with
  | some path =>
      simp only
      rw [run_adapt, run_project]
  | none =>
      simp only
      rw [run_tryBind, run_lift, run_isThere, configured named]
      simp only [if_true]
      rw [run_adapt, run_project]

theorem run_baseProject_of_unconfigured (unconfigured : ¬Configured tree current arguments) :
    ((treeMachine commands current).baseProject arguments).run.run tree = (.ok Project.default, tree) := by
  obtain ⟨unnamed, absent⟩ := Classical.not_imp.mp unconfigured
  unfold Machine.baseProject
  rw [unnamed]
  simp only
  rw [run_tryBind, run_lift, run_isThere]
  simp only [absent, Bool.false_eq_true, if_false]
  rfl

theorem mapError_eq_ok_iff {α ε δ : Type} {failure : ε → δ} {result : Except ε α} {value : α} :
    result.mapError failure = .ok value ↔ result = .ok value := by
  cases result with
  | error error =>
      have failed : (.error (failure error) : Except δ α) ≠ .ok value := by simp
      exact ⟨fun same => absurd same failed, fun same => absurd same (by simp)⟩
  | ok found =>
      have found_iff : (.ok found : Except δ α) = .ok value ↔ (.ok found : Except ε α) = .ok value := by simp
      exact found_iff

theorem run_baseProject_eq_ok_iff :
    ((treeMachine commands current).baseProject arguments).run.run tree = (.ok base, last) ↔
      last = tree ∧ StartsFrom tree current arguments base := by
  by_cases configured : Configured tree current arguments
  · rw [run_baseProject_of_configured configured, Prod.mk.injEq, mapError_eq_ok_iff, loaded_eq_ok_iff]
    constructor
    · rintro ⟨⟨text, content, read⟩, rfl⟩
      exact ⟨rfl, .file configured content read⟩
    · rintro ⟨rfl, starts⟩
      cases starts with
      | file _ content read => exact ⟨⟨_, content, read⟩, rfl⟩
      | default unconfigured => exact absurd configured unconfigured
  · rw [run_baseProject_of_unconfigured configured, Prod.mk.injEq, Except.ok.injEq]
    constructor
    · rintro ⟨rfl, rfl⟩
      exact ⟨rfl, .default configured⟩
    · rintro ⟨rfl, starts⟩
      cases starts with
      | file known _ _ => exact absurd known configured
      | default _ => exact ⟨rfl, rfl⟩

theorem run_effectiveProject_eq_ok_iff {project : Project} :
    ((treeMachine commands current).effectiveProject arguments).run.run tree = (.ok project, last) ↔
      last = tree ∧ ∃ base coreOptions, StartsFrom tree current arguments base ∧
        arguments.coreOptions? = .ok coreOptions ∧ base.merge (arguments.toOverride coreOptions) = project := by
  have lifted (after : Tree) : (liftM arguments.coreOptions? : ExceptT Failure (StateM Tree) _).run.run after =
      (arguments.coreOptions?, after) := rfl
  unfold Machine.effectiveProject
  rw [run_tryBind]
  constructor
  · intro ran
    generalize started : ((treeMachine commands current).baseProject arguments).run.run tree = result at ran
    obtain ⟨result, middle⟩ := result
    cases result with
    | error failure => exact absurd (congrArg Prod.fst ran) (by simp)
    | ok base =>
        obtain ⟨rfl, starts⟩ := run_baseProject_eq_ok_iff.mp started
        simp only at ran
        rw [run_tryBind, lifted] at ran
        cases read : arguments.coreOptions? with
        | error failure =>
            rw [read] at ran
            exact absurd (congrArg Prod.fst ran) (by simp)
        | ok coreOptions =>
            rw [read] at ran
            cases ran
            exact ⟨rfl, base, coreOptions, starts, rfl, rfl⟩
  · rintro ⟨rfl, base, coreOptions, starts, read, rfl⟩
    rw [run_baseProject_eq_ok_iff.mpr ⟨rfl, starts⟩]
    simp only
    rw [run_tryBind, lifted, read]
    rfl

/-- A project comes from a file that can be read, if one is looked for. -/
theorem read_of_effectiveProject {project : Project}
    (effective : ((treeMachine commands current).effectiveProject arguments).run.run tree = (.ok project, last))
    (configured : Configured tree current arguments) : ∃ text, tree.read current arguments.projectPath = .ok text := by
  obtain ⟨-, base, -, starts, -, -⟩ := run_effectiveProject_eq_ok_iff.mp effective
  cases starts with
  | file _ content _ => exact ⟨_, content⟩
  | default unconfigured => exact absurd configured unconfigured

/-- The project of the usual file is the effective one when the arguments are templates. -/
theorem effectiveProject_of_read {files : List Path} {text : Text} {project : Project}
    (content : tree.read current projectFile = .ok text) (read : Project.ofText? text = some project) :
    ((treeMachine commands current).effectiveProject { Arguments.empty with files }).run.run tree =
      (.ok project, tree) := by
  have configured : Configured tree current { Arguments.empty with files } := by
    intro _
    obtain ⟨place, located, -⟩ := Tree.stands_of_read content
    rw [Tree.holds, located]
  exact run_effectiveProject_eq_ok_iff.mpr ⟨rfl, project, none, .file configured content read, rfl, rfl⟩

end Project

def labelIn (tree : Tree) (current : Location) (base path : Path) : Option Text := do
  let place ← tree.canonical? current path
  let folder ← tree.canonical? current base
  relativeTo folder place

theorem labelIn_of_missing {tree : Tree} (missing : tree.holds current base = false) :
    labelIn tree current base path = none := by
  have unknown : tree.canonical? current base = none := by
    unfold Tree.holds at missing
    unfold Tree.canonical?
    cases reached : tree.locate current base with
    | error fault => rfl
    | ok place =>
        rw [reached] at missing
        exact absurd missing (by simp)
  simp only [labelIn, unknown, Option.bind_eq_bind, Option.bind_none, Option.bind_fun_none]

theorem run_canonical? (tree : Tree) (path : Path) :
    ((treeMachine commands current).canonical? path).run tree = (tree.canonical? current path, tree) := rfl

theorem run_labelOf (tree : Tree) (base path : Path) :
    ((treeMachine commands current).labelOf base path).run tree =
      (labelIn tree current base path, tree) := by
  unfold Machine.labelOf labelIn
  rw [run_bind, run_canonical?]
  simp only [Option.bind_eq_bind]
  cases tree.canonical? current path with
  | none => rfl
  | some place =>
      simp only [Option.bind_some]
      rw [run_bind, run_canonical?]
      cases tree.canonical? current base <;> rfl

theorem run_fragment (tree : Tree) (base path : Path) :
    ((treeMachine commands current).fragment base path).run.run tree =
      (match tree.read current path with
        | .error fault => .error (.read path fault)
        | .ok text => .ok ⟨path, labelIn tree current base path, unwrapTemplate text⟩, tree) := by
  have content : ((treeMachine commands current).read path).run tree =
      (tree.read current path, tree) := rfl
  unfold Machine.fragment
  rw [run_adaptBind, content]
  cases tree.read current path with
  | error fault => rfl
  | ok text =>
      simp only
      rw [run_tryBind, run_lift, run_labelOf]
      rfl

/-- The label of a template only counts when the template can be read. -/
theorem looks_fragment (agree : Agree before after current path)
    (label : ∀ text, before.read current path = .ok text →
      labelIn before current base path = labelIn after current base path) :
    Looks before after ((treeMachine commands current).fragment base path) := by
  refine ⟨_, run_fragment before base path, ?_, ?_⟩
  · rw [run_fragment, ← agree.read]
    cases content : before.read current path with
    | error fault => rfl
    | ok text => rw [label text content]
  · intro failure failed
    cases content : before.read current path with
    | error fault =>
        rw [content] at failed
        cases failed
        rfl
    | ok text =>
        rw [content] at failed
        exact absurd failed (by simp)

theorem fragments_of_read {tree : Tree} {files : List Path}
    (readable : ∀ path ∈ files, ∃ text, tree.read current path = .ok text) :
    ∃ fragments, (files.mapM ((treeMachine commands current).fragment base)).run.run tree =
      (.ok fragments, tree) := by
  induction files with
  | nil => exact ⟨[], rfl⟩
  | cons path rest induction =>
      obtain ⟨text, content⟩ := readable path List.mem_cons_self
      obtain ⟨fragments, others⟩ := induction fun other member => readable other (List.mem_cons_of_mem path member)
      refine ⟨⟨path, labelIn tree current base path, unwrapTemplate text⟩ :: fragments, ?_⟩
      rw [List.mapM_cons, run_tryBind, run_fragment, content]
      simp only
      rw [run_tryBind, others]
      rfl

end Machine

end UniversalModule.CommandLine
