import Mathlib.Data.List.Forall2
import UniversalModule.Proofs.Compile.Requests
import UniversalModule.Proofs.Requirement
import UniversalModule.Proofs.Resolution.Bundling

/-!
The order of a requirement's providers. A requirement has at most one provider of each kind, so a
branch selects the same one whatever their order; the statements of all branches, the packages and the
compiled module only depend on what is selected.
-/

namespace UniversalModule

namespace Requirement

variable {name : Text} {first second : List Provider}

theorem WellFormed.of_perm (formed : WellFormed name first) (permuted : first.Perm second) :
    WellFormed name second where
  named := formed.named
  provided := by
    rintro rfl
    exact formed.provided permuted.eq_nil
  distinct := (permuted.map Provider.kind).nodup_iff.mp formed.distinct
  filled provider member := formed.filled provider (permuted.mem_iff.mpr member)

theorem exists_make_perm (name : Text) (permuted : first.Perm second) :
    (∃ requirement, make name first = .ok requirement) ↔ ∃ requirement, make name second = .ok requirement := by
  rw [exists_make_iff, exists_make_iff]
  exact ⟨fun formed => formed.of_perm permuted, fun formed => formed.of_perm permuted.symm⟩

structure Reordered (requirement other : Requirement) : Prop where
  name : requirement.name = other.name
  providers : requirement.providers.Perm other.providers

end Requirement

namespace Resolution

theorem find?_kind_iff {providers : List Provider} (distinct : (providers.map Provider.kind).Nodup)
    {kind : Provider.Kind} {provider : Provider} :
    providers.find? (·.kind == kind) = some provider ↔ provider ∈ providers ∧ provider.kind = kind := by
  constructor
  · intro found
    exact ⟨List.mem_of_find?_eq_some found, by simpa using List.find?_some found⟩
  · rintro ⟨given, rfl⟩
    have isSome : (providers.find? (·.kind == provider.kind)).isSome = true := by
      rw [List.find?_isSome]
      exact ⟨provider, given, by simp⟩
    obtain ⟨chosen, found⟩ := Option.isSome_iff_exists.mp isSome
    have same : chosen.kind = provider.kind := by simpa using List.find?_some found
    rw [found, unique_of_kind distinct (List.mem_of_find?_eq_some found) given same]

/-- A branch selects by kind, and of each kind there is one provider at most. -/
theorem select_perm (branch : Branch) {first second : List Provider}
    (distinct : (first.map Provider.kind).Nodup) (permuted : first.Perm second) :
    branch.select first = branch.select second := by
  have otherDistinct := (permuted.map Provider.kind).nodup_iff.mp distinct
  have found (kind : Provider.Kind) : first.find? (·.kind == kind) = second.find? (·.kind == kind) := by
    apply Option.ext
    intro provider
    rw [find?_kind_iff distinct, find?_kind_iff otherDistinct, permuted.mem_iff]
  unfold Branch.select
  simp only [found]

theorem filterMap_forall₂ {α β γ : Type} {related : α → β → Prop} {first : α → Option γ}
    {second : β → Option γ} (same : ∀ a b, related a b → first a = second b) {items : List α}
    {others : List β} (each : List.Forall₂ related items others) :
    items.filterMap first = others.filterMap second := by
  induction each with
  | nil => rfl
  | cons known _ induction => rw [List.filterMap_cons, List.filterMap_cons, same _ _ known, induction]

variable {requirement other : Requirement} {requires others : List Requirement}

theorem select_reordered (reordered : requirement.Reordered other) (branch : Branch) :
    branch.select requirement.providers = branch.select other.providers :=
  select_perm branch requirement.wellFormed.distinct reordered.providers

theorem bundledPackages_reordered (reordered : List.Forall₂ Requirement.Reordered requires others) :
    bundledPackages requires = bundledPackages others := by
  apply congrArg List.eraseDups
  apply filterMap_forall₂ _ reordered
  intro requirement other same
  rw [select_reordered same]

theorem namedModules_reordered (reordered : List.Forall₂ Requirement.Reordered requires others) :
    namedModules requires = namedModules others := by
  apply filterMap_forall₂ _ reordered
  intro requirement other same
  rw [select_reordered same, same.name]

theorem access?_reordered (reordered : List.Forall₂ Requirement.Reordered requires others)
    (same : requirement.Reordered other) (branch : Branch) :
    access? requires branch requirement = access? others branch other := by
  have index : parameterIndex? requires requirement.name = parameterIndex? others other.name := by
    rw [parameterIndex?, parameterIndex?, namedModules_reordered reordered, same.name]
  rw [access?, access?, select_reordered same, index]

theorem assignments_reordered (reordered : List.Forall₂ Requirement.Reordered requires others)
    (branch : Branch) : assignments requires branch = assignments others branch := by
  apply filterMap_forall₂ _ reordered
  intro requirement other same
  rw [access?_reordered reordered same, same.name]

end Resolution

section Compiled

open Emission Resolution

variable {requires others : List Requirement}

theorem repeatedName?_reordered (reordered : List.Forall₂ Requirement.Reordered requires others)
    (seen : List Text) : Options.repeatedName? seen requires = Options.repeatedName? seen others := by
  induction reordered generalizing seen with
  | nil => rfl
  | cons same _ induction => rw [Options.repeatedName?, Options.repeatedName?, same.name, induction]

variable (reordered : List.Forall₂ Requirement.Reordered requires others) (options : Options)

include reordered

theorem validate_reordered :
    { options with requires }.validate = { options with requires := others }.validate := by
  unfold Options.validate
  rw [repeatedName?_reordered reordered]
  rfl

theorem obtainBundle_reordered {m : Type → Type} [Monad m] (supplies : Supplies m) :
    Compile.obtainBundle supplies { options with requires } =
      Compile.obtainBundle supplies { options with requires := others } := by
  unfold Compile.obtainBundle
  rw [bundledPackages_reordered reordered]
  rfl

theorem assignmentLines_reordered (branch : Branch) :
    assignmentLines { options with requires } branch =
      assignmentLines { options with requires := others } branch := by
  unfold assignmentLines
  rw [assignments_reordered reordered]

theorem namedModuleBranch_reordered :
    namedModuleBranch { options with requires } = namedModuleBranch { options with requires := others } := by
  unfold namedModuleBranch
  rw [assignmentLines_reordered reordered, namedModules_reordered reordered]
  rfl

theorem exportsPart_reordered (bundle : Option Text) :
    exportsPart { options with requires } bundle = exportsPart { options with requires := others } bundle := by
  have commonJs : commonJsBranch { options with requires } =
      commonJsBranch { options with requires := others } := by
    unfold commonJsBranch
    rw [assignmentLines_reordered reordered]
    rfl
  have plain : plainBranch { options with requires } = plainBranch { options with requires := others } := by
    unfold plainBranch
    rw [assignmentLines_reordered reordered]
    rfl
  unfold exportsPart
  rw [namedModuleBranch_reordered reordered, commonJs, plain]

theorem emit_reordered (outputFile : Path) (core : Source) (fragments : List Fragment)
    (bundle : Option Text) :
    emit { options with requires } outputFile core fragments bundle =
      emit { options with requires := others } outputFile core fragments bundle := by
  have steps (sources : List Source) : moduleSteps { options with requires } core sources bundle =
      moduleSteps { options with requires := others } core sources bundle := by
    unfold moduleSteps
    rw [exportsPart_reordered reordered]
    rfl
  unfold emit
  simp only [steps]

theorem compile_reordered {m : Type → Type} [Monad m] (supplies : Supplies m) (schedule : Schedule)
    (fragments : List Fragment) :
    compile supplies schedule { options with requires } fragments =
      compile supplies schedule { options with requires := others } fragments := by
  have obtained : Compile.obtain supplies schedule { options with requires } =
      Compile.obtain supplies schedule { options with requires := others } := by
    unfold Compile.obtain
    rw [obtainBundle_reordered reordered]
  have finished : Compile.finish { options with requires } = Compile.finish { options with requires := others } := by
    funext outputFile fragments core bundle
    unfold Compile.finish
    simp only [emit_reordered reordered]
  unfold compile
  rw [validate_reordered reordered, obtained, finished]

end Compiled

open Emission Resolution

/-- The order in which the providers of a dependency are listed never matters: whether a requirement is
accepted, what is bundled, the statements of every branch, the definition of the named module, and what a
compilation asks for and makes. -/
theorem compile_provider_order :
    (∀ (name : Text) (first second : List Provider), first.Perm second →
      ((∃ requirement, Requirement.make name first = .ok requirement) ↔
        ∃ requirement, Requirement.make name second = .ok requirement)) ∧
    ∀ requires others : List Requirement, List.Forall₂ Requirement.Reordered requires others →
      bundledPackages requires = bundledPackages others ∧
      namedModules requires = namedModules others ∧
      (∀ branch, assignments requires branch = assignments others branch) ∧
      ∀ options : Options,
        (∀ branch, assignmentLines { options with requires } branch =
          assignmentLines { options with requires := others } branch) ∧
        namedModuleBranch { options with requires } = namedModuleBranch { options with requires := others } ∧
        ∀ (m : Type → Type) [Monad m] (supplies : Supplies m),
          Compile.obtainBundle supplies { options with requires } =
            Compile.obtainBundle supplies { options with requires := others } ∧
          ∀ schedule fragments, compile supplies schedule { options with requires } fragments =
            compile supplies schedule { options with requires := others } fragments := by
  refine ⟨fun name _ _ permuted => Requirement.exists_make_perm name permuted, ?_⟩
  intro requires others reordered
  refine ⟨bundledPackages_reordered reordered, namedModules_reordered reordered,
    assignments_reordered reordered, ?_⟩
  intro options
  refine ⟨assignmentLines_reordered reordered options, namedModuleBranch_reordered reordered options, ?_⟩
  intro m _ supplies
  exact ⟨obtainBundle_reordered reordered options supplies, compile_reordered reordered options supplies⟩

theorem compile_provider_order_three :
    ∃ first second : Requirement,
      first.providers = [.bundled "jquery", .global ["$"], .named "jq"] ∧
      second.providers = [.global ["$"], .named "jq", .bundled "jquery"] ∧
      List.Forall₂ Requirement.Reordered [first] [second] ∧
      compile (Supplies.ofTexts "core" "bundle") .coreFirst { Options.least with requires := [first] } [] =
        compile (Supplies.ofTexts "core" "bundle") .coreFirst { Options.least with requires := [second] } [] := by
  have formed : Requirement.WellFormed "$" [.bundled "jquery", .global ["$"], .named "jq"] :=
    Requirement.fault?_eq_none_iff.mp (by decide)
  have otherFormed : Requirement.WellFormed "$" [.global ["$"], .named "jq", .bundled "jquery"] :=
    Requirement.fault?_eq_none_iff.mp (by decide)
  have permuted : [Provider.bundled "jquery", .global ["$"], .named "jq"].Perm
      [.global ["$"], .named "jq", .bundled "jquery"] := by decide
  have same : Requirement.Reordered ⟨_, _, formed⟩ ⟨_, _, otherFormed⟩ := ⟨rfl, permuted⟩
  have reordered := List.Forall₂.cons same .nil
  obtain ⟨-, -, -, compiled⟩ := compile_provider_order.2 _ _ reordered
  obtain ⟨-, -, supplied⟩ := compiled Options.least
  exact ⟨_, _, rfl, rfl, reordered, (supplied Id (Supplies.ofTexts "core" "bundle")).2 .coreFirst []⟩

end UniversalModule
