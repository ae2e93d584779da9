import UniversalModule.Proofs.CommandLine.Building
import UniversalModule.Proofs.Host.Writing
import UniversalModule.Proofs.Options

/-!
What a call changes in a tree. It writes its output last, so that a call that fails before changes nothing;
when the disk stops taking what is written, the file that was opened is left with a beginning of it.
-/

namespace UniversalModule.CommandLine

open Host (Location Name Tree changeTree)

variable {answer : Tree → Location → Text → Path → List Text → Except BundleError Text}
  {current : Location} {arguments : Arguments} {disk : Disk} {tree after : Tree}

section Writing

variable (commands : Commands)

theorem run_write (path : Path) (content : Text) (tree : Tree) :
    ((treeMachine commands current).write path content).run tree =
      match tree.write current path content.utf8 with
      | .error fault => (.error fault, tree)
      | .ok after => (.ok (), after) := run_changeTree _ tree

theorem run_adaptWrite (path : Path) (content : Text) (tree : Tree) :
    (ExceptT.adapt (Failure.write path) (ExceptT.mk ((treeMachine commands current).write path content))).run.run tree =
      match tree.write current path content.utf8 with
      | .error fault => (.error (.write path fault), tree)
      | .ok after => (.ok (), after) := by
  rw [run_adapt, run_write]
  cases tree.write current path content.utf8 <;> rfl

/-- The folder in which a file is to be is there, if its path names one. -/
def HasFolder (tree : Tree) (current : Location) (path : Path) : Prop :=
  ∀ parent, path.parent? = some parent → parent.isEmpty = false → tree.leadsToFolder current parent = true

theorem run_writeOutput {path : Path} (housed : HasFolder tree current path) (code : Text) :
    ((treeMachine commands current).writeOutput path code).run.run tree =
      match tree.write current path code.utf8 with
      | .error fault => (.error (.write path fault), tree)
      | .ok after => (.ok (), after) := by
  unfold Machine.writeOutput
  simp only
  split
  · exact run_adaptWrite commands path code tree
  next parent found =>
  split
  · exact run_adaptWrite commands path code tree
  next nonempty =>
  have nonempty : parent.isEmpty = false := by simpa using nonempty
  rw [run_adaptBind, makeFolders_of_leadsToFolder commands current nonempty (housed parent found nonempty)]
  exact run_adaptWrite commands path code tree

theorem write_of_adaptWrite {path : Path} {code : Text}
    (ran : (ExceptT.adapt (Failure.write path) (ExceptT.mk ((treeMachine commands current).write path code))).run.run
      tree = (.ok (), after)) : tree.write current path code.utf8 = .ok after := by
  rw [run_adaptWrite] at ran
  cases result : tree.write current path code.utf8 with
  | error fault =>
      rw [result] at ran
      exact absurd (congrArg Prod.fst ran) (by simp)
  | ok last =>
      rw [result] at ran
      cases ran
      rfl

/-- An output that comes to be written is written after the folder for it was made. -/
theorem writeOutput_ok {path : Path} {code : Text}
    (ran : ((treeMachine commands current).writeOutput path code).run.run tree = (.ok (), after)) :
    ∃ made, made.write current path code.utf8 = .ok after ∧
      ((made = tree ∧ ∀ parent, path.parent? = some parent → parent.isEmpty = true) ∨
        ∃ parent, path.parent? = some parent ∧ parent.isEmpty = false ∧
          ((treeMachine commands current).makeFolders parent).run tree = (.ok (), made)) := by
  unfold Machine.writeOutput at ran
  simp only at ran
  split at ran
  · next unnamed => exact ⟨tree, write_of_adaptWrite commands ran, .inl ⟨rfl, by simp [unnamed]⟩⟩
  next parent found =>
  split at ran
  · next isEmpty => exact ⟨tree, write_of_adaptWrite commands ran, .inl ⟨rfl, by simp [found, isEmpty]⟩⟩
  next nonempty =>
  rw [run_adaptBind] at ran
  generalize result : ((treeMachine commands current).makeFolders parent).run tree = made at ran
  obtain ⟨outcome, made⟩ := made
  cases outcome with
  | error fault => exact absurd (congrArg Prod.fst ran) (by simp)
  | ok =>
      exact ⟨made, write_of_adaptWrite commands ran, .inr ⟨parent, found, by simpa using nonempty, result⟩⟩

/-- Then there is the folder, in a tree with folders added on the way. -/
theorem writeOutput_added (sound : tree.WellFormed) {path : Path} {code : Text}
    (ran : ((treeMachine commands current).writeOutput path code).run.run tree = (.ok (), after)) :
    ∃ made, FoldersAdded current path tree made ∧ made.WellFormed ∧ HasFolder made current path ∧
      made.write current path code.utf8 = .ok after := by
  obtain ⟨made, written, ⟨rfl, none⟩ | ⟨parent, found, nonempty, ran⟩⟩ := writeOutput_ok commands ran
  · refine ⟨made, .refl current path made, sound, ?_, written⟩
    intro parent found nonempty
    rw [none parent found] at nonempty
    exact absurd nonempty (by simp)
  · have added := (makeFolders_added commands current parent sound.numbered).widen (Path.components_of_parent? found)
    have kept := makeFolders_wellFormed commands current parent sound
    rw [ran] at added kept
    refine ⟨made, added, kept, ?_, written⟩
    intro other named _
    rw [found] at named
    cases named
    exact leadsToFolder_of_makeFolders commands current nonempty ran

end Writing

section Initialising

end Initialising

def sources : Tree :=
  ((Tree.empty.put ["work"] .folder).addFile ["work", "core.js"] ⟨Text.utf8 "function BT() \x7b\x7d", false⟩).addFile
    ["work", "a.js"] ⟨Text.utf8 "bt.match();", false⟩

theorem wellFormed_sources : sources.WellFormed := by
  have work : (Tree.empty.put ["work"] .folder).WellFormed :=
    @Tree.WellFormed.putFolder _ [] "work" Tree.WellFormed.empty rfl ⟨rfl, by decide, by decide⟩ rfl
  have core := @Tree.WellFormed.addFile _ ["work"] "core.js" work rfl ⟨rfl, by decide, by decide⟩ rfl
    ⟨Text.utf8 "function BT() \x7b\x7d", false⟩
  exact @Tree.WellFormed.addFile _ ["work"] "a.js" core rfl ⟨rfl, by decide, by decide⟩ rfl
    ⟨Text.utf8 "bt.match();", false⟩

theorem read_template {path : Path} (leads : sources.locate ["work"] path = .ok ["work", "a.js"]) :
    sources.read ["work"] path = .ok "bt.match();" :=
  Tree.read_of_found (Tree.found_of_locate leads rfl) rfl

theorem read_core : sources.read ["work"] ⟨"core.js"⟩ = .ok "function BT() \x7b\x7d" :=
  have leads : sources.locate ["work"] ⟨"core.js"⟩ = .ok ["work", "core.js"] := rfl
  Tree.read_of_found (Tree.found_of_locate leads rfl) rfl

def sourcesArguments (template outputFile : Text) : Arguments where
  files := [⟨template⟩]
  settings := [(.outFile, outputFile), (.core, "core.js")]
  aliases := []
  switches := []

def sourcesOptions (outputFile : Text) : Options := { Options.least with filename := some ⟨outputFile⟩ }

theorem effectiveProject_sources (commands : Commands) (template outputFile : Text) :
    ((treeMachine commands ["work"]).effectiveProject (sourcesArguments template outputFile)).run.run sources =
      (.ok (Project.default.merge ((sourcesArguments template outputFile).toOverride none)), sources) := rfl

theorem toOptions_sources (template outputFile : Text) :
    (Project.default.merge ((sourcesArguments template outputFile).toOverride none)).toOptions =
      .ok (sourcesOptions outputFile) := rfl

theorem gathered_sources {template outputFile : Text} {gathered : Gathered}
    (of : Gathered.Of answer ["work"] (sourcesArguments template outputFile) sources gathered) :
    gathered.options = sourcesOptions outputFile ∧ gathered.outputFile = ⟨outputFile⟩ := by
  have configured := of.project
  rw [effectiveProject_sources] at configured
  have project := Except.ok.inj (congrArg Prod.fst configured)
  have options := of.options
  rw [← project, toOptions_sources] at options
  have options := Except.ok.inj options
  have file := (Options.validate_eq_ok_iff.mp of.accepted).file
  rw [← options] at file
  exact ⟨options.symm, (Option.some.inj file).symm⟩

end UniversalModule.CommandLine
