import UniversalModule.Resolution

/-!
Which providers the branches select. A selected provider is one of those that are given, of a kind
that the branch looks for; so named modules are left to their own branch, and something is bundled
as soon as one requirement can come as a package.
-/

namespace UniversalModule.Resolution

theorem select_kind {branch : Branch} {providers : List Provider} {provider : Provider}
    (selected : branch.select providers = some provider) :
    provider ∈ providers ∧ provider.kind ∈ branch.preference := by
  unfold Branch.select at selected
  obtain ⟨kind, wanted, found⟩ := List.exists_of_findSome?_eq_some selected
  have same : provider.kind = kind := by simpa using List.find?_some found
  exact ⟨List.mem_of_find?_eq_some found, same ▸ wanted⟩

theorem branch_of_named {branch : Branch} {providers : List Provider} {module : Text}
    (selected : branch.select providers = some (.named module)) : branch = .namedModule := by
  have wanted : Provider.Kind.named ∈ branch.preference := (select_kind selected).2
  cases branch with
  | namedModule => rfl
  | commonJs => exact absurd wanted (by decide)
  | plain => exact absurd wanted (by decide)

theorem select_bundled {providers : List Provider} {package : Text}
    (given : .bundled package ∈ providers) :
    ∃ chosen, Branch.commonJs.select providers = some (.bundled chosen) := by
  have isSome : (providers.find? (·.kind == .bundled)).isSome = true := by
    rw [List.find?_isSome]
    exact ⟨_, given, rfl⟩
  obtain ⟨provider, found⟩ := Option.isSome_iff_exists.mp isSome
  have kind : provider.kind = .bundled := by simpa using List.find?_some found
  have selected : Branch.commonJs.select providers = some provider := by
    unfold Branch.select Branch.preference
    rw [List.findSome?_cons, found]
  cases provider with
  | bundled chosen => exact ⟨chosen, selected⟩
  | named module => exact absurd kind (by simp [Provider.kind])
  | global segments => exact absurd kind (by simp [Provider.kind])

/-- The module that a requirement comes as, in the branch of named modules. -/
def module? (requirement : Requirement) : Option Text :=
  match Branch.namedModule.select requirement.providers with
  | some (.named module) => some module
  | _ => none

theorem namedModules_eq (requires : List Requirement) :
    namedModules requires =
      requires.filterMap fun requirement => (module? requirement).map fun module => (requirement.name, module) := by
  unfold namedModules
  congr
  funext requirement
  unfold module?
  cases Branch.namedModule.select requirement.providers with
  | none => rfl
  | some provider => cases provider <;> rfl

theorem namedModules_append (first second : List Requirement) :
    namedModules (first ++ second) = namedModules first ++ namedModules second := List.filterMap_append

theorem namedModules_cons_some {requirement : Requirement} {module : Text}
    (named : module? requirement = some module) (rest : List Requirement) :
    namedModules (requirement :: rest) = (requirement.name, module) :: namedModules rest := by
  rw [namedModules_eq, namedModules_eq, List.filterMap_cons_some (by rw [named]; rfl)]

theorem length_namedModules_cons (requirement : Requirement) (rest : List Requirement) :
    (namedModules (requirement :: rest)).length =
      (module? requirement).toList.length + (namedModules rest).length := by
  cases named : module? requirement with
  | none =>
      rw [namedModules_eq, List.filterMap_cons_none (by rw [named]; rfl), ← namedModules_eq]
      exact (Nat.zero_add _).symm
  | some module =>
      rw [namedModules_cons_some named]
      exact Nat.add_comm _ 1

theorem length_namedModules_concat (before : List Requirement) (requirement : Requirement) :
    (namedModules (before ++ [requirement])).length =
      (namedModules before).length + (module? requirement).toList.length := by
  rw [namedModules_append, List.length_append, length_namedModules_cons]
  rfl

theorem module?_of_selected {branch : Branch} {requirement : Requirement} {module : Text}
    (selected : branch.select requirement.providers = some (.named module)) :
    module? requirement = some module := by
  rw [branch_of_named selected] at selected
  rw [module?, selected]

/-- Something is bundled when one of the requirements can come as a package. -/
theorem bundledPackages_ne_nil_iff (requires : List Requirement) :
    bundledPackages requires ≠ [] ↔
      ∃ requirement ∈ requires, ∃ package, .bundled package ∈ requirement.providers := by
  constructor
  · intro present
    obtain ⟨package, member⟩ := List.exists_mem_of_ne_nil _ present
    rw [bundledPackages, List.mem_eraseDups] at member
    obtain ⟨requirement, among, made⟩ := List.mem_filterMap.mp member
    refine ⟨requirement, among, package, ?_⟩
    split at made
    · next chosen selected =>
        cases made
        exact (select_kind selected).1
    · exact absurd made (by simp)
  · rintro ⟨requirement, among, package, given⟩ absent
    obtain ⟨chosen, selected⟩ := select_bundled given
    have member : chosen ∈ bundledPackages requires := by
      rw [bundledPackages, List.mem_eraseDups]
      exact List.mem_filterMap.mpr ⟨requirement, among, by rw [selected]⟩
    rw [absent] at member
    exact absurd member (by simp)

end UniversalModule.Resolution
