import UniversalModule.Project.Override

/-!
Overrides one after another. Of each field the last override that sets it counts, so a list of overrides does
what one override does. The variable of the runtime and the dependencies stay as they are.
-/

namespace UniversalModule

namespace Override

variable {α β : Type} {field : Override → Option α}

/-- What a field is set to by the last of the overrides that set it. -/
def lastSet (field : Override → Option α) (changes : List Override) : Option α :=
  (changes.filterMap field).getLast?

/-- The override that sets what any of the overrides sets, as the last one does. -/
def combined (changes : List Override) : Override where
  filename := lastSet Override.filename changes
  dirname := lastSet Override.dirname changes
  coreFilename := lastSet Override.coreFilename changes
  exportName := lastSet Override.exportName changes
  exportAliases := lastSet Override.exportAliases changes
  scopeTemplates := lastSet Override.scopeTemplates changes
  sourceMap := lastSet Override.sourceMap changes
  coreOptions := lastSet Override.coreOptions changes
  bundler := lastSet Override.bundler changes

theorem lastSet_cons (change : Override) (rest : List Override) :
    lastSet field (change :: rest) = (lastSet field rest).or (field change) := by
  unfold lastSet
  cases given : field change with
  | none => rw [List.filterMap_cons_none given, Option.or_none]
  | some value =>
      rw [List.filterMap_cons_some given, List.getLast?_cons]
      cases (rest.filterMap field).getLast? <;> rfl

theorem lastSet_twice (change : Override) : lastSet field [change, change] = field change := by
  rw [lastSet_cons, lastSet_cons]
  cases field change <;> rfl

theorem combined_twice (change : Override) : combined [change, change] = change := by
  simp only [combined, lastSet_twice]

/-- How a part of a project is settled override by override is how it is settled by what is set last. -/
theorem foldl_merge {part : Project → β} {settle : Option α → β → β}
    (unset : ∀ before, settle none before = before)
    (chain : ∀ later earlier before, settle later (settle earlier before) = settle (later.or earlier) before)
    (one : ∀ project change, part (project.merge change) = settle (field change) (part project))
    (project : Project) (changes : List Override) :
    part (changes.foldl Project.merge project) = settle (lastSet field changes) (part project) := by
  induction changes generalizing project with
  | nil => exact (unset (part project)).symm
  | cons change rest induction => rw [List.foldl_cons, induction, one, chain, lastSet_cons]

theorem foldl_merge_kept {part : Project → β} (one : ∀ project change, part (project.merge change) = part project)
    (project : Project) (changes : List Override) : part (changes.foldl Project.merge project) = part project := by
  induction changes generalizing project with
  | nil => rfl
  | cons change rest induction => rw [List.foldl_cons, induction, one]

end Override

open Override (lastSet)

/-- Each field is as the last override that sets it has it, and as it was where none does. -/
structure Overridden (project : Project) (changes : List Override) (result : Project) : Prop where
  filename : result.filename = (lastSet Override.filename changes).or project.filename
  dirname : result.dirname = (lastSet Override.dirname changes).or project.dirname
  coreFilename : result.coreFilename = (lastSet Override.coreFilename changes).or project.coreFilename
  exportName : result.exportName = (lastSet Override.exportName changes).getD project.exportName
  runtimeVar : result.runtimeVar = project.runtimeVar
  exportAliases : result.exportAliases = (lastSet Override.exportAliases changes).getD project.exportAliases
  scopeTemplates : result.scopeTemplates = (lastSet Override.scopeTemplates changes).getD project.scopeTemplates
  sourceMap : result.sourceMap = (lastSet Override.sourceMap changes).getD project.sourceMap
  coreOptions : result.coreOptions = (lastSet Override.coreOptions changes).getD project.coreOptions
  requires : result.requires = project.requires
  bundler : result.bundler = (lastSet Override.bundler changes).getD project.bundler

namespace Overridden

variable {project result other : Project} {changes : List Override}

theorem unique (first : Overridden project changes result) (second : Overridden project changes other) :
    result = other := by
  cases result
  cases other
  rw [Project.mk.injEq]
  exact ⟨first.filename.trans second.filename.symm, first.dirname.trans second.dirname.symm,
    first.coreFilename.trans second.coreFilename.symm, first.exportName.trans second.exportName.symm,
    first.runtimeVar.trans second.runtimeVar.symm, first.exportAliases.trans second.exportAliases.symm,
    first.scopeTemplates.trans second.scopeTemplates.symm, first.sourceMap.trans second.sourceMap.symm,
    first.coreOptions.trans second.coreOptions.symm, first.requires.trans second.requires.symm,
    first.bundler.trans second.bundler.symm⟩

end Overridden

namespace Project

variable (project : Project) (changes : List Override)

theorem overridden_foldl : Overridden project changes (changes.foldl merge project) := by
  have optional {field : Override → Option Text} {part : Project → Option Text}
      (one : ∀ project change, part (project.merge change) = (field change).or (part project)) :
      part (changes.foldl merge project) = (lastSet field changes).or (part project) :=
    Override.foldl_merge (fun _ => Option.none_or) (fun _ _ _ => Option.or_assoc.symm) one project changes
  have valued {α : Type} {field : Override → Option α} {part : Project → α}
      (one : ∀ project change, part (project.merge change) = (field change).getD (part project)) :
      part (changes.foldl merge project) = (lastSet field changes).getD (part project) :=
    Override.foldl_merge (fun _ => rfl) (fun later _ _ => by cases later <;> rfl) one project changes
  exact {
    filename := optional fun _ _ => Option.orElse_eq_or
    dirname := optional fun _ _ => Option.orElse_eq_or
    coreFilename := optional fun _ _ => Option.orElse_eq_or
    exportName := valued fun _ _ => rfl
    runtimeVar := Override.foldl_merge_kept (fun _ _ => rfl) project changes
    exportAliases := valued fun _ _ => rfl
    scopeTemplates := valued fun _ _ => rfl
    sourceMap := valued fun _ _ => rfl
    coreOptions := valued fun _ _ => rfl
    requires := Override.foldl_merge_kept (fun _ _ => rfl) project changes
    bundler := valued fun _ _ => rfl }

theorem overridden_merge : Overridden project changes (project.merge (Override.combined changes)) where
  filename := Option.orElse_eq_or
  dirname := Option.orElse_eq_or
  coreFilename := Option.orElse_eq_or
  exportName := rfl
  runtimeVar := rfl
  exportAliases := rfl
  scopeTemplates := rfl
  sourceMap := rfl
  coreOptions := rfl
  requires := rfl
  bundler := rfl

theorem foldl_merge_eq : changes.foldl merge project = project.merge (Override.combined changes) :=
  (overridden_foldl project changes).unique (overridden_merge project changes)

theorem merge_merge_self (change : Override) : (project.merge change).merge change = project.merge change := by
  have twice := foldl_merge_eq project [change, change]
  rw [Override.combined_twice] at twice
  exact twice

end Project

end UniversalModule
