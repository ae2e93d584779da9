import UniversalModule.DottedPath
import UniversalModule.Provider

/-!
Requirements: a dependency's name with its providers. Main statement: `fault?` finds a fault
exactly when the requirement is not well formed.
-/

namespace UniversalModule

namespace Requirement

inductive Fault where
  | blankName
  | noProvider
  | repeated (kind : Provider.Kind)
  | void (kind : Provider.Kind)
  | badPath (dotted : Text)
  | declaredTwice
deriving DecidableEq

def Fault.reason : Fault → Text
  | .blankName => "dependency name cannot be empty"
  | .noProvider => "at least one of `globals`, `commonJS` or `ym` is required"
  | .repeated kind => "`" ++ kind.key ++ "` is given more than once"
  | .void kind => "`" ++ kind.key ++ "` cannot be empty"
  | .badPath dotted => "invalid global path `" ++ dotted ++ "`"
  | .declaredTwice => "declared more than once"

structure WellFormed (name : Text) (providers : List Provider) : Prop where
  named : name.allBlank = false
  provided : providers ≠ []
  distinct : (providers.map Provider.kind).Nodup
  filled : ∀ provider ∈ providers, provider.isVoid = false

/-- The first fault of the providers, given the kinds that came before. -/
def providerFault? (seen : List Provider.Kind) : List Provider → Option Fault
  | [] => none
  | provider :: rest =>
      if provider.kind ∈ seen then some (.repeated provider.kind)
      else if provider.isVoid then some (.void provider.kind)
      else providerFault? (provider.kind :: seen) rest

def fault? (name : Text) (providers : List Provider) : Option Fault :=
  if name.allBlank then some .blankName
  else if providers.isEmpty then some .noProvider
  else providerFault? [] providers

theorem providerFault?_eq_none_iff {seen : List Provider.Kind} {providers : List Provider} :
    providerFault? seen providers = none ↔
      (providers.map Provider.kind).Nodup ∧ (∀ provider ∈ providers, provider.kind ∉ seen) ∧
        ∀ provider ∈ providers, provider.isVoid = false := by
  induction providers generalizing seen with
  | nil => simp [providerFault?]
  | cons provider rest induction =>
      simp only [providerFault?]
      split
      · next known => simp [known]
      · next fresh =>
          split
          · next isVoid => simp [isVoid]
          · next filled =>
              rw [induction]
              simp only [List.map_cons, List.nodup_cons, List.mem_map, List.mem_cons, not_or,
                forall_eq_or_imp, fresh, filled]
              constructor
              · rintro ⟨distinct, unseen, others⟩
                refine ⟨⟨?_, distinct⟩, ⟨by simp, fun p member => (unseen p member).2⟩, by simp, others⟩
                rintro ⟨p, member, same⟩
                exact (unseen p member).1 same
              · rintro ⟨⟨apart, distinct⟩, ⟨_, unseen⟩, _, others⟩
                exact ⟨distinct, fun p member => ⟨fun same => apart ⟨p, member, same⟩, unseen p member⟩,
                  others⟩

theorem fault?_eq_none_iff {name : Text} {providers : List Provider} :
    fault? name providers = none ↔ WellFormed name providers := by
  unfold fault?
  split
  · next blank => simpa using fun formed : WellFormed name providers => by simp [formed.named] at blank
  · next named =>
      split
      · next empty =>
          simpa using fun formed : WellFormed name providers => formed.provided (by simpa using empty)
      · next provided =>
          rw [providerFault?_eq_none_iff]
          constructor
          · rintro ⟨distinct, -, filled⟩
            exact ⟨by simpa using named, by simpa using provided, distinct, filled⟩
          · rintro formed
            exact ⟨formed.distinct, by simp, formed.filled⟩

end Requirement

structure Requirement where
  name : Text
  providers : List Provider
  wellFormed : Requirement.WellFormed name providers
deriving DecidableEq

namespace Requirement

def make (name : Text) (providers : List Provider) : Except Fault Requirement :=
  match found : fault? name providers with
  | some fault => .error fault
  | none => .ok ⟨name, providers, fault?_eq_none_iff.mp found⟩

theorem make_eq_ok_iff {name : Text} {providers : List Provider} {requirement : Requirement} :
    make name providers = .ok requirement ↔
      requirement.name = name ∧ requirement.providers = providers := by
  unfold make
  split
  · next fault found =>
      simp only [reduceCtorEq, false_iff, not_and]
      rintro rfl rfl
      rw [fault?_eq_none_iff.mpr requirement.wellFormed] at found
      exact absurd found (by simp)
  · next found =>
      cases requirement
      simp [eq_comm]

/-- A requirement that is met by a value on the ambient object. -/
def ofGlobal (name dotted : Text) : Except Fault Requirement :=
  match DottedPath.segments? dotted with
  | none => .error (.badPath dotted)
  | some segments => make name [.global segments]

/-- A requirement that is met by a bundled package. -/
def ofPackage (name package : Text) : Except Fault Requirement := make name [.bundled package]

end Requirement

end UniversalModule
