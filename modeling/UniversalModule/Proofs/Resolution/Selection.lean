import UniversalModule.Emission.Module
import UniversalModule.Proofs.Resolution.Providers
import UniversalModule.Proofs.Resolution.Statements

/-!
The statements of a branch say what the branch selects. Named modules are numbered as they are
met, and looking a parameter up by the name of its requirement finds that number, because names
are distinct; so every requirement gets the value of its own provider.
-/

namespace UniversalModule.Resolution

/-- The requirements that have a provider in a branch, by name, with this provider. -/
def selections (requires : List Requirement) (branch : Branch) : List (Text × Provider) :=
  requires.filterMap fun requirement =>
    (branch.select requirement.providers).map fun provider => (requirement.name, provider)

/-- The value carries what the provider gives; parameters stand for the given modules. -/
inductive Carries (modules : List Text) : Provider → Access → Prop where
  | global (segments : List Text) : Carries modules (.global segments) (.global segments)
  | bundled (package : Text) : Carries modules (.bundled package) (.bundled package)
  | named {module : Text} {index : Nat} (found : modules[index]? = some module) :
      Carries modules (.named module) (.parameter index)

/-- One assignment for each selection, in order, under its name and with what its provider gives. -/
inductive Renders (modules : List Text) : List (Text × Provider) → List Assignment → Prop where
  | nil : Renders modules [] []
  | cons {name : Text} {provider : Provider} {value : Access} {rest : List (Text × Provider)}
      {assignments : List Assignment} (carries : Carries modules provider value)
      (others : Renders modules rest assignments) :
      Renders modules ((name, provider) :: rest) (⟨name, value⟩ :: assignments)

/-- What a provider gives; a named module gives the parameter with the next number. -/
def valueAt (next : Nat) : Provider → Access
  | .global segments => .global segments
  | .bundled package => .bundled package
  | .named _ => .parameter next

/-- The assignments of a branch when named modules are numbered as they are met. -/
def numbered (branch : Branch) (next : Nat) : List Requirement → List Assignment
  | [] => []
  | requirement :: rest =>
      let following := numbered branch (next + (module? requirement).toList.length) rest
      match branch.select requirement.providers with
      | none => following
      | some provider => ⟨requirement.name, valueAt next provider⟩ :: following

/-- The number of a named module is the number of those before it. -/
theorem parameterIndex?_append {before after : List Requirement} {requirement : Requirement} {module : Text}
    (named : module? requirement = some module)
    (fresh : requirement.name ∉ before.map Requirement.name) :
    parameterIndex? (before ++ requirement :: after) requirement.name = some (namedModules before).length := by
  -- The search by name passes over the modules before, which belong to other names.
  have missing : (namedModules before).findIdx? (·.1 == requirement.name) = none := by
    rw [List.findIdx?_eq_none_iff]
    intro entry member
    rw [namedModules_eq] at member
    obtain ⟨other, among, made⟩ := List.mem_filterMap.mp member
    obtain ⟨-, -, rfl⟩ := Option.map_eq_some_iff.mp made
    have apart : other.name ≠ requirement.name := fun same =>
      fresh (same ▸ List.mem_map_of_mem among)
    simpa using apart
  have found : (namedModules (requirement :: after)).findIdx? (·.1 == requirement.name) = some 0 := by
    rw [namedModules_cons_some named, List.findIdx?_cons, if_pos (by simp)]
  unfold parameterIndex?
  rw [namedModules_append, List.findIdx?_append, missing, found]
  simp

/-- What a requirement gets depends on the named modules before it only. -/
theorem access?_append {before after : List Requirement} {requirement : Requirement}
    (fresh : requirement.name ∉ before.map Requirement.name) (branch : Branch) :
    access? (before ++ requirement :: after) branch requirement =
      (branch.select requirement.providers).map (valueAt (namedModules before).length) := by
  unfold access?
  cases selected : branch.select requirement.providers with
  | none => rfl
  | some provider =>
      cases provider with
      | global segments => rfl
      | bundled package => rfl
      | named module =>
          simp only [parameterIndex?_append (module?_of_selected selected) fresh]
          rfl

/-- The assignments of a branch are numbered in the order of the requirements. The induction is on
the requirements that are left; the number that is reached is that of the named modules so far. -/
theorem assignments_numbered {before rest requires : List Requirement} (whole : requires = before ++ rest)
    (distinct : (requires.map Requirement.name).Nodup) (branch : Branch) :
    (rest.filterMap fun requirement =>
      (access? requires branch requirement).map (Assignment.mk requirement.name)) =
        numbered branch (namedModules before).length rest := by
  induction rest generalizing before with
  | nil => rfl
  | cons requirement rest induction =>
      have fresh : requirement.name ∉ before.map Requirement.name := by
        rw [whole, List.map_append, List.map_cons] at distinct
        intro member
        exact (List.nodup_append.mp distinct).2.2 _ member _ List.mem_cons_self rfl
      have others := @induction (before ++ [requirement]) (by simp [whole])
      rw [length_namedModules_concat] at others
      have here : access? requires branch requirement =
          (branch.select requirement.providers).map (valueAt (namedModules before).length) := by
        rw [whole]
        exact access?_append fresh branch
      cases selected : branch.select requirement.providers with
      | none =>
          rw [selected] at here
          rw [List.filterMap_cons_none (by rw [here]; rfl), others, numbered, selected]
      | some provider =>
          rw [selected] at here
          rw [List.filterMap_cons_some (by rw [here]; rfl), others, numbered, selected]

theorem assignments_eq_numbered {requires : List Requirement}
    (distinct : (requires.map Requirement.name).Nodup) (branch : Branch) :
    assignments requires branch = numbered branch 0 requires :=
  @assignments_numbered [] requires requires rfl distinct branch

def modules (requires : List Requirement) : List Text := (namedModules requires).map Prod.snd

theorem numbered_renders {before rest requires : List Requirement} (whole : requires = before ++ rest)
    (branch : Branch) :
    Renders (modules requires) (selections rest branch)
      (numbered branch (namedModules before).length rest) := by
  induction rest generalizing before with
  | nil => exact .nil
  | cons requirement rest induction =>
      have others := @induction (before ++ [requirement]) (by simp [whole])
      rw [length_namedModules_concat] at others
      cases selected : branch.select requirement.providers with
      | none =>
          rw [selections, List.filterMap_cons_none (by rw [selected]; rfl), numbered, selected]
          exact others
      | some provider =>
          rw [selections, List.filterMap_cons_some (by rw [selected]; rfl), numbered, selected]
          refine .cons ?_ others
          cases provider with
          | global segments => exact .global segments
          | bundled package => exact .bundled package
          | named module =>
              refine .named ?_
              rw [modules, whole, namedModules_append, namedModules_cons_some (module?_of_selected selected),
                List.getElem?_map, List.getElem?_append_right (Nat.le_refl _), Nat.sub_self]
              rfl

def parameters (assignments : List Assignment) : List Nat :=
  assignments.filterMap fun assignment =>
    match assignment.value with
    | .parameter index => some index
    | _ => none

/-- In the branch of named modules every parameter is used, each once and in order. -/
theorem parameters_numbered_named (next : Nat) (requires : List Requirement) :
    parameters (numbered .namedModule next requires) =
      List.range' next (namedModules requires).length := by
  induction requires generalizing next with
  | nil => rfl
  | cons requirement rest induction =>
      have others := induction (next + (module? requirement).toList.length)
      rw [numbered, length_namedModules_cons]
      cases selected : Branch.namedModule.select requirement.providers with
      | none =>
          have absent : module? requirement = none := by rw [module?, selected]
          rw [absent] at others ⊢
          simpa using others
      | some provider =>
          cases provider with
          | named module =>
              rw [module?_of_selected selected] at others ⊢
              rw [Option.toList_some, List.length_singleton] at others ⊢
              rw [Nat.add_comm 1, List.range'_succ, ← others]
              rfl
          | _ =>
              have absent : module? requirement = none := by rw [module?, selected]
              rw [absent] at others ⊢
              simpa [parameters, valueAt] using others

theorem parameters_numbered_other {branch : Branch} (other : branch ≠ .namedModule) (next : Nat)
    (requires : List Requirement) : parameters (numbered branch next requires) = [] := by
  induction requires generalizing next with
  | nil => rfl
  | cons requirement rest induction =>
      have others := induction (next + (module? requirement).toList.length)
      rw [numbered]
      cases selected : branch.select requirement.providers with
      | none => exact others
      | some provider =>
          cases provider with
          | named module => exact absurd (branch_of_named selected) other
          | global segments => exact others
          | bundled package => exact others

theorem sublist_numbered (branch : Branch) (next : Nat) (requires : List Requirement) :
    ((numbered branch next requires).map Assignment.name).Sublist (requires.map Requirement.name) := by
  induction requires generalizing next with
  | nil => exact .slnil
  | cons requirement rest induction =>
      rw [numbered, List.map_cons]
      cases branch.select requirement.providers with
      | none => exact (induction _).cons _
      | some provider => exact (induction _).cons_cons _

theorem proper_of_mem_assignments {requires : List Requirement} {branch : Branch}
    {assignment : Assignment} (member : assignment ∈ assignments requires branch) :
    assignment.value ≠ .global [] := by
  obtain ⟨requirement, -, made⟩ := List.mem_filterMap.mp member
  obtain ⟨value, given, rfl⟩ := Option.map_eq_some_iff.mp made
  unfold access? at given
  rintro rfl
  split at given
  · next segments selected =>
      cases given
      have filled := requirement.wellFormed.filled _ (select_kind selected).1
      exact absurd filled (by decide)
  · exact absurd given (by simp)
  · obtain ⟨index, -, made⟩ := Option.map_eq_some_iff.mp given
    exact absurd made (by simp)
  · exact absurd given (by simp)

structure Faithful (requires : List Requirement) (branch : Branch) (entries : List Assignment) : Prop where
  renders : Renders (modules requires) (selections requires branch) entries
  /-- Every parameter is used once, in order, in the branch of named modules, and none in the others. -/
  parameters : parameters entries = if branch = .namedModule then List.range (modules requires).length else []
  distinct : (entries.map Assignment.name).Nodup

theorem faithful_assignments {requires : List Requirement}
    (distinct : (requires.map Requirement.name).Nodup) (branch : Branch) :
    Faithful requires branch (assignments requires branch) where
  renders := by
    rw [assignments_eq_numbered distinct]
    exact @numbered_renders [] requires requires rfl branch
  parameters := by
    rw [assignments_eq_numbered distinct]
    by_cases named : branch = .namedModule
    · rw [if_pos named, named, parameters_numbered_named, modules, List.length_map, List.range_eq_range']
    · rw [if_neg named, parameters_numbered_other named]
  distinct := by
    rw [assignments_eq_numbered distinct]
    exact (sublist_numbered branch 0 requires).nodup distinct

end UniversalModule.Resolution
