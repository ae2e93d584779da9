import UniversalModule.Proofs.CommandLine.Reading
import UniversalModule.Proofs.Host.WellFormed

/-!
The folders that are made on the way to a path. Each stands where nothing stood and is named by the
first components of the path; all else stays as it is, also when a later folder cannot be made.
-/

namespace UniversalModule

namespace Path

theorem dropSkipped_starts (pieces : List Text) : dropSkipped pieces <+: pieces := by
  have kept : pieces.reverse.dropWhile isSkipped <:+ pieces.reverse := List.dropWhile_suffix _
  rw [← List.reverse_prefix, List.reverse_reverse] at kept
  exact kept

theorem pieces_joinWith {first : Text} {rest : List Text} (whole : ∀ piece ∈ first :: rest, '/' ∉ piece) :
    (mk (Text.joinWith ['/'] (first :: rest))).pieces = (first, rest) := by
  rw [pieces, Text.splitAt_joinWith (List.cons_ne_nil first rest) whole]

theorem notMem_pieces (path : Path) : ∀ piece ∈ path.pieces.1 :: path.pieces.2, '/' ∉ piece := by
  intro piece member
  apply @Text.notMem_of_mem_splitAt _ _ _ _ path.text
  unfold pieces at member
  cases split : Text.splitAt '/' path.text with
  | nil => exact absurd split (Text.splitAt_ne_nil '/' path.text)
  | cons first rest =>
      rw [split] at member
      exact member

theorem isRooted_eq (path : Path) : path.isRooted = (path.pieces.1.isEmpty && !path.pieces.2.isEmpty) := by
  obtain ⟨text⟩ := path
  cases text with
  | nil => rfl
  | cons c rest =>
      unfold isRooted pieces
      rw [Text.splitAt]
      by_cases same : c = '/'
      · simp [same, Text.splitAt_ne_nil]
      · rw [if_neg same]
        cases Text.splitAt '/' rest <;> simp [same]

theorem components_starts {path shorter : Path} (first : shorter.pieces.1 = path.pieces.1)
    (rest : shorter.pieces.2 <+: path.pieces.2) (rooted : shorter.isRooted = path.isRooted) :
    shorter.components <+: path.components := by
  unfold components
  simp only [first, rooted]
  exact (List.prefix_append_right_inj _).mpr ((rest.filter _).map _)

/-- The path without its last component has no others than the path. -/
theorem components_of_parent? {path parent : Path} (found : path.parent? = some parent) :
    parent.components <+: path.components := by
  have kept : dropSkipped (dropSkipped path.pieces.2).dropLast <+: path.pieces.2 :=
    ((dropSkipped_starts _).trans (List.dropLast_prefix _)).trans (dropSkipped_starts _)
  have whole : ∀ piece ∈ path.pieces.1 :: dropSkipped (dropSkipped path.pieces.2).dropLast, '/' ∉ piece := by
    intro piece member
    rcases List.mem_cons.mp member with rfl | later
    · exact path.notMem_pieces _ List.mem_cons_self
    · exact path.notMem_pieces _ (List.mem_cons_of_mem _ (kept.subset later))
  unfold parent? significant at found
  simp only at found
  split at found
  · split at found
    · exact absurd found (by simp)
    · cases found
      exact List.nil_prefix
  next several =>
  have more : path.pieces.2.isEmpty = false := by
    rw [List.isEmpty_eq_false_iff]
    intro none
    rw [none] at several
    exact several rfl
  split at found
  · next bare =>
      cases found
      have rooted : path.isRooted = true := by rw [isRooted_eq, bare.1, more]; rfl
      have start : (mk ['/']).components = [.root] := rfl
      rw [start, components]
      simp only [rooted, if_true, List.singleton_append]
      exact ⟨_, rfl⟩
  · next named =>
      cases found
      have pieces := pieces_joinWith whole
      apply components_starts
      · rw [pieces]
      · rw [pieces]
        exact kept
      · rw [isRooted_eq, isRooted_eq, pieces, more]
        cases first : path.pieces.1.isEmpty with
        | false => rfl
        | true => simpa [first] using named

end Path

namespace CommandLine

open Host (Location Tree changeTree)
open Host.Tree (Extends Numbered)

/-- The second tree has folders that the first one lacks, each named by first components of the path,
and nothing else differs. -/
structure FoldersAdded (current : Location) (path : Path) (before after : Tree) : Prop where
  files : after.files = before.files
  seals : after.seals = before.seals
  slots : ∀ place, after.slot? place = before.slot? place ∨
    (before.slot? place = none ∧ after.slot? place = some .folder ∧
      ∃ named : Path, named.components <+: path.components ∧ after.locate current named = .ok place)

namespace FoldersAdded

variable {current : Location} {path : Path} {before middle after : Tree}

theorem refl (current : Location) (path : Path) (tree : Tree) : FoldersAdded current path tree tree :=
  ⟨rfl, rfl, fun _ => .inl rfl⟩

theorem slot?_eq_some (added : FoldersAdded current path before after) {place : Location}
    {slot : Host.Slot} (stands : before.slot? place = some slot) : after.slot? place = some slot := by
  rcases added.slots place with same | ⟨free, -, -⟩
  · rw [same, stands]
  · rw [stands] at free
    exact absurd free (by simp)

theorem entryOf? (added : FoldersAdded current path before after) :
    after.entryOf? = before.entryOf? := by
  funext slot
  cases slot <;> simp only [Tree.entryOf?, added.files]

theorem larger (added : FoldersAdded current path before after) : Extends before after := by
  intro place turn turned
  obtain ⟨entry, found, rfl⟩ := Option.map_eq_some_iff.mp turned
  obtain ⟨slot, stands, meant⟩ := Option.bind_eq_some_iff.mp found
  rw [Tree.turn?, Tree.find?, added.slot?_eq_some stands, Option.bind_some, added.entryOf?, meant]
  rfl

theorem numbered (added : FoldersAdded current path before after) (sound : before.Numbered) :
    after.Numbered := by
  intro place number stands
  rw [added.files]
  rcases added.slots place with same | ⟨-, folder, -⟩
  · exact sound place number (same ▸ stands)
  · rw [folder] at stands
    exact absurd stands (by simp)

theorem agree (added : FoldersAdded current path before after) {other : Path} {entry : Host.Entry}
    (found : before.found current other = .ok entry) : Agree before after current other := by
  obtain ⟨place, located, rest⟩ := Tree.bind_eq_ok found
  have still := Tree.locate_extends added.larger located
  refine ⟨located.trans still.symm, ?_⟩
  cases stands : before.find? place with
  | none =>
      rw [stands] at rest
      exact absurd rest (by simp)
  | some entry =>
      obtain ⟨slot, standing, meant⟩ := Option.bind_eq_some_iff.mp stands
      have present : after.find? place = some entry := by
        rw [Tree.find?, added.slot?_eq_some standing, Option.bind_some, added.entryOf?, meant]
      rw [Tree.found_of_locate located stands, Tree.found_of_locate still present]

theorem trans (first : FoldersAdded current path before middle)
    (second : FoldersAdded current path middle after) : FoldersAdded current path before after where
  files := second.files.trans first.files
  seals := second.seals.trans first.seals
  slots place := by
    rcases first.slots place with same | ⟨free, folder, named, start, leads⟩
    · rcases second.slots place with still | ⟨free, folder, named⟩
      · exact .inl (still.trans same)
      · exact .inr ⟨same ▸ free, folder, named⟩
    · have stays := second.slot?_eq_some folder
      exact .inr ⟨free, stays, named, start, Tree.locate_extends second.larger leads⟩

theorem widen {parent : Path} (added : FoldersAdded current parent before after)
    (start : parent.components <+: path.components) : FoldersAdded current path before after where
  files := added.files
  seals := added.seals
  slots place := by
    rcases added.slots place with same | ⟨free, folder, named, inner, leads⟩
    · exact .inl same
    · exact .inr ⟨free, folder, named, inner.trans start, leads⟩

theorem ofMakeFolder (sound : before.Numbered) (made : before.makeFolder current path = .ok after) :
    FoldersAdded current path before after := by
  obtain ⟨folder, name, -, unfound, rfl, leads⟩ := Tree.makeFolder_ok made
  refine ⟨rfl, rfl, ?_⟩
  intro other
  rw [Tree.slot?_put (Tree.ne_nil_of_find?_eq_none unfound)]
  by_cases same : folder ++ [name] = other
  · have free := (Tree.find?_eq_none_iff sound).mp unfound
    rw [if_pos same, ← same]
    exact .inr ⟨free, rfl, path, List.prefix_refl _, leads⟩
  · exact .inl (if_neg same)

end FoldersAdded

theorem run_changeTree (action : Tree → Except IoFault Tree) (tree : Tree) :
    (changeTree action).run tree =
      match action tree with
      | .error fault => (.error fault, tree)
      | .ok after => (.ok (), after) := by
  have unfolded : (changeTree action).run tree =
      StateT.run (match action tree with
        | .error fault => return .error fault
        | .ok tree => do
            set tree
            return .ok () : StateM Tree (Except IoFault Unit)) tree := rfl
  rw [unfolded]
  cases action tree <;> rfl

section Machine

variable (commands : Commands) (current : Location)

theorem run_makeFolder (path : Path) (tree : Tree) :
    ((treeMachine commands current).makeFolder path).run tree =
      match tree.makeFolder current path with
      | .error fault => (.error fault, tree)
      | .ok after => (.ok (), after) := run_changeTree _ tree

theorem run_unlessFolder (path : Path) (fault : IoFault) (tree : Tree) :
    ((treeMachine commands current).unlessFolder path fault).run tree =
      (if tree.leadsToFolder current path then .ok () else .error fault, tree) := by
  have unfolded : ((treeMachine commands current).unlessFolder path fault).run tree =
      StateT.run (if tree.leadsToFolder current path then return .ok () else return .error fault :
        StateM Tree (Except IoFault Unit)) tree := rfl
  rw [unfolded]
  split <;> rfl

/-- What each new folder keeps is kept by all that are made on the way to a path, whether all of them
can be made or not. -/
theorem makeFoldersWithin_keeps {Kept : Tree → Prop} (fuel : Nat) {path : Path}
    (step : ∀ {way : Path} {before after : Tree}, way.components <+: path.components → Kept before →
      before.makeFolder current way = .ok after → Kept after) {tree : Tree} (kept : Kept tree) :
    Kept (((treeMachine commands current).makeFoldersWithin fuel path).run tree).2 := by
  induction fuel generalizing path tree with
  | zero => exact kept
  | succ fuel induction =>
      rw [Machine.makeFoldersWithin]
      split
      · exact kept
      rw [run_bind, run_makeFolder]
      cases made : tree.makeFolder current path with
      | ok after => exact step (List.prefix_refl _) kept made
      | error fault =>
          simp only
          split
          · contradiction
          · split
            · exact kept
            next parent found =>
            rw [run_bind]
            have inner := @induction parent (fun start => step (start.trans (Path.components_of_parent? found)))
              tree kept
            generalize ((treeMachine commands current).makeFoldersWithin fuel parent).run tree = ran at inner ⊢
            obtain ⟨result, middle⟩ := ran
            cases result with
            | error fault => exact inner
            | ok =>
                simp only
                rw [run_bind, run_makeFolder]
                cases again : middle.makeFolder current path with
                | ok after => exact step (List.prefix_refl _) inner again
                | error fault =>
                    simp only
                    rw [run_unlessFolder]
                    exact inner
          · rw [run_unlessFolder]
            exact kept

theorem makeFolders_added (path : Path) {tree : Tree} (sound : tree.Numbered) :
    FoldersAdded current path tree (((treeMachine commands current).makeFolders path).run tree).2 := by
  apply makeFoldersWithin_keeps commands current _ _ (FoldersAdded.refl current path tree)
  intro way before after start added made
  exact added.trans ((FoldersAdded.ofMakeFolder (added.numbered sound) made).widen start)

theorem makeFolders_wellFormed (path : Path) {tree : Tree} (sound : tree.WellFormed) :
    (((treeMachine commands current).makeFolders path).run tree).2.WellFormed := by
  apply makeFoldersWithin_keeps commands current _ _ sound
  intro way before after _ kept made
  exact kept.makeFolder made

theorem leadsToFolder_of_makeFolder {path : Path} {tree after : Tree}
    (made : tree.makeFolder current path = .ok after) : after.leadsToFolder current path = true := by
  obtain ⟨folder, name, -, -, rfl, leads⟩ := Tree.makeFolder_ok made
  have found : (tree.put (folder ++ [name]) .folder).find? (folder ++ [name]) = some .folder := by
    rw [Tree.find?_put (by simp), if_pos rfl]
    rfl
  simp only [Tree.leadsToFolder, leads, Tree.isFolder, found, beq_self_eq_true]

theorem leadsToFolder_of_makeFolders {path : Path} {tree after : Tree} (nonempty : path.isEmpty = false)
    (made : ((treeMachine commands current).makeFolders path).run tree = (.ok (), after)) :
    after.leadsToFolder current path = true := by
  -- A folder that could not be made is looked for.
  have looked {fault : IoFault} {tree : Tree}
      (ran : ((treeMachine commands current).unlessFolder path fault).run tree = (.ok (), after)) :
      after.leadsToFolder current path = true := by
    rw [run_unlessFolder] at ran
    obtain ⟨result, rfl⟩ := Prod.mk.inj ran
    by_contra missing
    rw [if_neg missing] at result
    exact absurd result (by simp)
  rw [Machine.makeFolders, Machine.makeFoldersWithin, if_neg (by simp [nonempty]), run_bind, run_makeFolder] at made
  cases first : tree.makeFolder current path with
  | ok changed =>
      rw [first] at made
      cases made
      exact leadsToFolder_of_makeFolder current first
  | error fault =>
      rw [first] at made
      simp only at made
      split at made
      · contradiction
      · split at made
        · exact absurd (congrArg Prod.fst made) (by simp)
        next parent found =>
        rw [run_bind] at made
        generalize ((treeMachine commands current).makeFoldersWithin path.text.length parent).run tree = ran at made
        obtain ⟨result, middle⟩ := ran
        cases result with
        | error fault => exact absurd (congrArg Prod.fst made) (by simp)
        | ok =>
            simp only at made
            rw [run_bind, run_makeFolder] at made
            cases again : middle.makeFolder current path with
            | ok changed =>
                rw [again] at made
                cases made
                exact leadsToFolder_of_makeFolder current again
            | error fault =>
                rw [again] at made
                exact looked made
      · exact looked made

theorem makeFolders_of_leadsToFolder {path : Path} {tree : Tree} (nonempty : path.isEmpty = false)
    (leads : tree.leadsToFolder current path = true) :
    ((treeMachine commands current).makeFolders path).run tree = (.ok (), tree) := by
  have refused : tree.makeFolder current path = .error .alreadyExists := by
    cases located : tree.locate current path with
    | ok place => exact Tree.makeFolder_of_locate located
    | error fault =>
        rw [Tree.leadsToFolder, located] at leads
        exact absurd leads (by simp)
  rw [Machine.makeFolders, Machine.makeFoldersWithin, if_neg (by simp [nonempty]), run_bind, run_makeFolder, refused]
  simp only
  rw [run_unlessFolder, if_pos leads]

end Machine

end CommandLine

end UniversalModule
