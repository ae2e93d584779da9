import Mathlib.Data.List.Nodup
import UniversalModule.Dependencies
import UniversalModule.Proofs.DottedPath

/-!
Which dependencies are accepted. A requirement can be made of exactly those providers that are of different
kinds and not void; an entry of a project file gives the providers of its keys, and is refused for the path on
the ambient object before anything else.
-/

namespace UniversalModule

namespace Requirement

variable {name : Text} {providers : List Provider} {requirement : Requirement}

theorem exists_make_iff :
    (∃ requirement, make name providers = .ok requirement) ↔ WellFormed name providers := by
  constructor
  · rintro ⟨requirement, made⟩
    obtain ⟨rfl, rfl⟩ := make_eq_ok_iff.mp made
    exact requirement.wellFormed
  · intro formed
    exact ⟨⟨name, providers, formed⟩, make_eq_ok_iff.mpr ⟨rfl, rfl⟩⟩

structure Acceptable (name : Text) (providers : List Provider) : Prop where
  named : name.allBlank = false
  provided : providers ≠ []
  single : ∀ kind, (providers.map Provider.kind).count kind ≤ 1
  packages : ∀ package, .bundled package ∈ providers → package.allBlank = false
  modules : ∀ module, .named module ∈ providers → module.allBlank = false
  paths : ∀ segments, .global segments ∈ providers → segments ≠ [] ∧ [] ∉ segments

theorem isVoid_global (segments : List Text) :
    (Provider.global segments).isVoid = false ↔ segments ≠ [] ∧ [] ∉ segments := by
  have absent : (∀ segment ∈ segments, segment ≠ []) ↔ [] ∉ segments :=
    ⟨fun each member => each [] member rfl, fun absent segment member same => absent (same ▸ member)⟩
  simp [Provider.isVoid, absent]

theorem wellFormed_iff_acceptable : WellFormed name providers ↔ Acceptable name providers := by
  constructor
  · intro formed
    refine ⟨formed.named, formed.provided, List.nodup_iff_count_le_one.mp formed.distinct, ?_, ?_, ?_⟩
    · exact fun package given => formed.filled (.bundled package) given
    · exact fun module given => formed.filled (.named module) given
    · exact fun segments given => (isVoid_global segments).mp (formed.filled (.global segments) given)
  · intro acceptable
    refine ⟨acceptable.named, acceptable.provided, List.nodup_iff_count_le_one.mpr acceptable.single, ?_⟩
    intro provider given
    cases provider with
    | bundled package => exact acceptable.packages package given
    | named module => exact acceptable.modules module given
    | global segments => exact (isVoid_global segments).mpr (acceptable.paths segments given)

theorem make_eq_error_iff {fault : Fault} :
    make name providers = .error fault ↔ fault? name providers = some fault := by
  unfold make
  split
  · next found => simp [found]
  · next found => simp [found]

/-- Providers of different kinds are at fault for the first void one. -/
theorem providerFault?_of_distinct {seen : List Provider.Kind} (distinct : (providers.map Provider.kind).Nodup)
    (fresh : ∀ provider ∈ providers, provider.kind ∉ seen) :
    providerFault? seen providers =
      (providers.find? Provider.isVoid).map fun provider => .void provider.kind := by
  induction providers generalizing seen with
  | nil => rfl
  | cons provider rest induction =>
      obtain ⟨apart, others⟩ := List.nodup_cons.mp distinct
      obtain ⟨unseen, later⟩ := List.forall_mem_cons.mp fresh
      rw [providerFault?, if_neg unseen]
      cases void : provider.isVoid with
      | true =>
          rw [if_pos rfl, List.find?_cons_of_pos void]
          rfl
      | false =>
          have stillFresh : ∀ other ∈ rest, other.kind ∉ provider.kind :: seen := by
            intro other member
            rw [List.mem_cons, not_or]
            refine ⟨fun same => apart ?_, later other member⟩
            exact List.mem_map.mpr ⟨other, member, same⟩
          rw [if_neg (by simp), List.find?_cons_of_neg (by simp [void])]
          exact induction others stillFresh

theorem fault?_of_void {provider : Provider} (named : name.allBlank = false)
    (distinct : (providers.map Provider.kind).Nodup) (void : providers.find? Provider.isVoid = some provider) :
    fault? name providers = some (.void provider.kind) := by
  have provided : providers.isEmpty = false := by
    cases providers with
    | nil => exact absurd void (by simp)
    | cons provider rest => rfl
  rw [fault?, if_neg (by simp [named]), if_neg (by simp [provided]),
    providerFault?_of_distinct distinct (by simp), void]
  rfl

end Requirement

namespace DottedPath

def Shown (dotted : Text) : Prop := ∀ piece ∈ Text.splitAt '.' dotted, Text.allBlank piece = false

def trimmedPieces (dotted : Text) : List Text := (Text.splitAt '.' dotted).map Text.trim

theorem segments?_of_shown {dotted : Text} (shown : Shown dotted) :
    segments? dotted = some (trimmedPieces dotted) := segments?_eq_some_iff.mpr ⟨shown, rfl⟩

theorem segments?_of_blank {dotted : Text} (blank : ¬Shown dotted) : segments? dotted = none := by
  cases found : segments? dotted with
  | none => rfl
  | some segments => exact absurd (segments?_eq_some_iff.mp found).1 blank

end DottedPath

namespace DependencyEntry

open Requirement (Fault)

variable {entry : DependencyEntry} {name : Text}

def providers (entry : DependencyEntry) : List Provider :=
  entry.ym.toList.map .named ++ entry.commonJs.toList.map .bundled ++
    entry.globals.toList.map fun dotted => .global (DottedPath.trimmedPieces dotted)

def PathShown (entry : DependencyEntry) : Prop := ∀ dotted, entry.globals = some dotted → DottedPath.Shown dotted

structure Sound (entry : DependencyEntry) (name : Text) : Prop where
  named : name.allBlank = false
  present : entry.globals.isSome ∨ entry.commonJs.isSome ∨ entry.ym.isSome
  package : ∀ package, entry.commonJs = some package → package.allBlank = false
  module : ∀ module, entry.ym = some module → module.allBlank = false
  path : entry.PathShown

inductive Refused (entry : DependencyEntry) (name : Text) : Fault → Prop where
  | badPath {dotted : Text} (given : entry.globals = some dotted) (blank : ¬DottedPath.Shown dotted) :
      Refused entry name (.badPath dotted)
  | blankName (path : entry.PathShown) (blank : name.allBlank = true) : Refused entry name .blankName
  | noProvider (named : name.allBlank = false) (nothing : entry = ⟨none, none, none⟩) :
      Refused entry name .noProvider
  | blankModule {module : Text} (path : entry.PathShown) (named : name.allBlank = false)
      (given : entry.ym = some module) (blank : module.allBlank = true) : Refused entry name (.void .named)
  | blankPackage {package : Text} (path : entry.PathShown) (named : name.allBlank = false)
      (shown : ∀ module, entry.ym = some module → module.allBlank = false)
      (given : entry.commonJs = some package) (blank : package.allBlank = true) :
      Refused entry name (.void .bundled)

theorem toRequirement_of_path (path : entry.PathShown) :
    entry.toRequirement name = Requirement.make name entry.providers := by
  unfold toRequirement providers
  cases given : entry.globals with
  | none =>
      simp only
      rw [Option.toList_none, List.map_nil, List.append_nil]
  | some dotted =>
      have read := DottedPath.segments?_of_shown (path dotted given)
      simp only [read]
      rfl

theorem toRequirement_of_badPath {dotted : Text} (given : entry.globals = some dotted)
    (blank : ¬DottedPath.Shown dotted) : entry.toRequirement name = .error (.badPath dotted) := by
  unfold toRequirement
  rw [given]
  simp only [DottedPath.segments?_of_blank blank]

theorem isVoid_path (path : entry.PathShown) {dotted : Text} (given : entry.globals = some dotted) :
    (Provider.global (DottedPath.trimmedPieces dotted)).isVoid = false := by
  have read := DottedPath.segments?_of_shown (path dotted given)
  rw [Requirement.isVoid_global]
  refine ⟨DottedPath.segments_ne_nil read, ?_⟩
  intro member
  exact ((DottedPath.segments?_iff_padded.mp read).1 [] member).nonempty rfl

theorem nodup_kinds (entry : DependencyEntry) : (entry.providers.map Provider.kind).Nodup := by
  obtain ⟨globals, commonJs, ym⟩ := entry
  cases ym <;> cases commonJs <;> cases globals <;> simp [providers, Provider.kind]

theorem find?_toList {wrap : Text → Provider} (void : ∀ text, (wrap text).isVoid = text.allBlank)
    (key : Option Text) :
    (key.toList.map wrap).find? Provider.isVoid = (key.filter Text.allBlank).map wrap := by
  cases key with
  | none => rfl
  | some text => cases blank : text.allBlank <;> simp [Option.filter, void, blank]

/-- The first provider that is void is the module or the package: a path that is one is never void. -/
theorem find?_isVoid (path : entry.PathShown) :
    entry.providers.find? Provider.isVoid =
      ((entry.ym.filter Text.allBlank).map Provider.named).or
        ((entry.commonJs.filter Text.allBlank).map Provider.bundled) := by
  have filled : (entry.globals.toList.map fun dotted =>
      Provider.global (DottedPath.trimmedPieces dotted)).find? Provider.isVoid = none := by
    cases given : entry.globals with
    | none => rfl
    | some dotted => simp [isVoid_path path given]
  rw [providers, List.find?_append, List.find?_append, find?_toList fun _ => rfl, find?_toList fun _ => rfl,
    filled, Option.or_none]

theorem providers_eq_nil_iff : entry.providers = [] ↔ entry = ⟨none, none, none⟩ := by
  obtain ⟨globals, commonJs, ym⟩ := entry
  cases ym <;> cases commonJs <;> cases globals <;> simp [providers]

theorem void_iff (path : entry.PathShown) {provider : Provider} :
    entry.providers.find? Provider.isVoid = some provider ↔
      (∃ module, entry.ym = some module ∧ module.allBlank = true ∧ .named module = provider) ∨
      ((∀ module, entry.ym = some module → module.allBlank = false) ∧
        ∃ package, entry.commonJs = some package ∧ package.allBlank = true ∧ .bundled package = provider) := by
  rw [find?_isVoid path, Option.or_eq_some_iff, Option.map_eq_some_iff, Option.map_eq_none_iff,
    Option.map_eq_some_iff, Option.filter_eq_none_iff]
  simp only [Option.filter_eq_some_iff, Bool.not_eq_true, and_assoc]

/-- An entry is refused for its path, else for its name, else for having no key, else for a blank module, else
for a blank package. -/
theorem toRequirement_eq_error_iff {fault : Fault} :
    entry.toRequirement name = .error fault ↔ entry.Refused name fault := by
  constructor
  · intro failed
    by_cases path : entry.PathShown
    · rw [toRequirement_of_path path, Requirement.make_eq_error_iff, Requirement.fault?] at failed
      split at failed
      · next blank =>
          cases failed
          exact .blankName path blank
      next named =>
      have named := Bool.eq_false_iff.mpr named
      split at failed
      · next nothing =>
          cases failed
          exact .noProvider named (providers_eq_nil_iff.mp (List.isEmpty_iff.mp nothing))
      rw [Requirement.providerFault?_of_distinct entry.nodup_kinds (by simp)] at failed
      obtain ⟨provider, void, rfl⟩ := Option.map_eq_some_iff.mp failed
      rcases (void_iff path).mp void with ⟨module, given, blank, rfl⟩ | ⟨shown, package, given, blank, rfl⟩
      · exact .blankModule path named given blank
      · exact .blankPackage path named shown given blank
    · obtain ⟨dotted, refused⟩ := Classical.not_forall.mp path
      obtain ⟨given, blank⟩ := Classical.not_imp.mp refused
      rw [toRequirement_of_badPath given blank] at failed
      cases failed
      exact .badPath given blank
  · intro refused
    cases refused with
    | badPath given blank => exact toRequirement_of_badPath given blank
    | blankName path blank =>
        rw [toRequirement_of_path path, Requirement.make_eq_error_iff, Requirement.fault?, if_pos blank]
    | noProvider named nothing =>
        subst nothing
        have path : PathShown ⟨none, none, none⟩ := fun _ given => absurd given (by simp)
        rw [toRequirement_of_path path, Requirement.make_eq_error_iff, Requirement.fault?,
          if_neg (by simp [named])]
        rfl
    | blankModule path named given blank =>
        have void := (void_iff path).mpr (.inl ⟨_, given, blank, rfl⟩)
        rw [toRequirement_of_path path, Requirement.make_eq_error_iff]
        exact Requirement.fault?_of_void named entry.nodup_kinds void
    | blankPackage path named shown given blank =>
        have void := (void_iff path).mpr (.inr ⟨shown, _, given, blank, rfl⟩)
        rw [toRequirement_of_path path, Requirement.make_eq_error_iff]
        exact Requirement.fault?_of_void named entry.nodup_kinds void

theorem no_void_iff (path : entry.PathShown) :
    (∀ provider ∈ entry.providers, provider.isVoid = false) ↔
      (∀ module, entry.ym = some module → module.allBlank = false) ∧
        ∀ package, entry.commonJs = some package → package.allBlank = false := by
  have none_iff : entry.providers.find? Provider.isVoid = none ↔
      ∀ provider ∈ entry.providers, provider.isVoid = false := by
    simp only [List.find?_eq_none, Bool.not_eq_true]
  rw [← none_iff, find?_isVoid path, Option.or_eq_none_iff, Option.map_eq_none_iff, Option.map_eq_none_iff,
    Option.filter_eq_none_iff, Option.filter_eq_none_iff]
  simp only [Bool.not_eq_true]

theorem present_iff :
    entry.providers ≠ [] ↔ entry.globals.isSome ∨ entry.commonJs.isSome ∨ entry.ym.isSome := by
  rw [Ne, providers_eq_nil_iff]
  obtain ⟨globals, commonJs, ym⟩ := entry
  cases ym <;> cases commonJs <;> cases globals <;> simp

theorem sound_iff : entry.Sound name ↔ entry.PathShown ∧ Requirement.WellFormed name entry.providers := by
  constructor
  · intro sound
    refine ⟨sound.path, sound.named, present_iff.mpr sound.present, entry.nodup_kinds, ?_⟩
    exact (no_void_iff sound.path).mpr ⟨sound.module, sound.package⟩
  · rintro ⟨path, formed⟩
    obtain ⟨module, package⟩ := (no_void_iff path).mp formed.filled
    exact ⟨formed.named, present_iff.mp formed.provided, package, module, path⟩

theorem toRequirement_eq_ok_iff {requirement : Requirement} :
    entry.toRequirement name = .ok requirement ↔
      entry.PathShown ∧ requirement.name = name ∧ requirement.providers = entry.providers := by
  constructor
  · intro made
    have path : entry.PathShown := by
      intro dotted given
      by_contra blank
      rw [toRequirement_of_badPath given blank] at made
      exact absurd made (by simp)
    rw [toRequirement_of_path path] at made
    exact ⟨path, Requirement.make_eq_ok_iff.mp made⟩
  · rintro ⟨path, same⟩
    rw [toRequirement_of_path path]
    exact Requirement.make_eq_ok_iff.mpr same

/-- An entry with one key is what the shorter ways to a requirement take. -/
theorem ofGlobal_eq (name dotted : Text) :
    Requirement.ofGlobal name dotted = toRequirement ⟨some dotted, none, none⟩ name := rfl

theorem ofPackage_eq (name package : Text) :
    Requirement.ofPackage name package = toRequirement ⟨none, some package, none⟩ name := rfl

theorem exists_toRequirement_iff :
    (∃ requirement, entry.toRequirement name = .ok requirement) ↔ entry.Sound name := by
  rw [sound_iff, ← Requirement.exists_make_iff]
  constructor
  · rintro ⟨requirement, made⟩
    have path := (toRequirement_eq_ok_iff.mp made).1
    rw [toRequirement_of_path path] at made
    exact ⟨path, requirement, made⟩
  · rintro ⟨path, requirement, made⟩
    rw [← toRequirement_of_path path] at made
    exact ⟨requirement, made⟩

end DependencyEntry

inductive Requirement.Obtained (requirement : Requirement) : Prop where
  | make {name : Text} {providers : List Provider} (made : Requirement.make name providers = .ok requirement)
  | ofGlobal {name dotted : Text} (made : Requirement.ofGlobal name dotted = .ok requirement)
  | ofPackage {name package : Text} (made : Requirement.ofPackage name package = .ok requirement)
  | ofEntry {entry : DependencyEntry} {name : Text} (made : entry.toRequirement name = .ok requirement)

theorem Requirement.Obtained.acceptable {requirement : Requirement} (obtained : requirement.Obtained) :
    Acceptable requirement.name requirement.providers := by
  have ofEntry {entry : DependencyEntry} {name : Text} (made : entry.toRequirement name = .ok requirement) :
      Acceptable requirement.name requirement.providers := by
    obtain ⟨-, rfl, same⟩ := DependencyEntry.toRequirement_eq_ok_iff.mp made
    have sound := DependencyEntry.exists_toRequirement_iff.mp ⟨requirement, made⟩
    rw [same]
    exact wellFormed_iff_acceptable.mp (DependencyEntry.sound_iff.mp sound).2
  cases obtained with
  | make made =>
      obtain ⟨rfl, rfl⟩ := make_eq_ok_iff.mp made
      exact wellFormed_iff_acceptable.mp (exists_make_iff.mp ⟨requirement, made⟩)
  | ofGlobal made => exact ofEntry (DependencyEntry.ofGlobal_eq _ _ ▸ made)
  | ofPackage made => exact ofEntry (DependencyEntry.ofPackage_eq _ _ ▸ made)
  | ofEntry made => exact ofEntry made

open DependencyEntry in
/-- Entries are accepted when the name shows something, a key is there and no key is blank in whole or, for
the path, between dots; the requirement then has what the keys say, in a fixed order. An entry that is refused
is refused in the name of its dependency, and for a bad path first. The other ways to a requirement have
the same limits. -/
theorem toRequirement_exact :
    (∀ (entry : DependencyEntry) (name : Text),
      (∃ requirement, entry.toRequirement name = .ok requirement) ↔ entry.Sound name) ∧
    (∀ (entry : DependencyEntry) (name : Text) (requirement : Requirement),
      entry.toRequirement name = .ok requirement →
        requirement.name = name ∧ requirement.providers = entry.providers) ∧
    (∀ (entry : DependencyEntry) (name : Text) (fault : Requirement.Fault),
      entry.toRequirement name = .error fault ↔ entry.Refused name fault) ∧
    (∀ (entry : DependencyEntry) (name : Text) (fault : Requirement.Fault) (rest : List (Text × DependencyEntry)),
      entry.toRequirement name = .error fault →
        Dependencies.requirementsOf ((name, entry) :: rest) = .error (.invalidRequire name fault)) ∧
    (∀ name dotted, Requirement.ofGlobal name dotted = toRequirement ⟨some dotted, none, none⟩ name) ∧
    (∀ name package, Requirement.ofPackage name package = toRequirement ⟨none, some package, none⟩ name) ∧
    (∀ (name : Text) (providers : List Provider),
      (∃ requirement, Requirement.make name providers = .ok requirement) ↔
        Requirement.Acceptable name providers) ∧
    ∀ requirement : Requirement, requirement.Obtained →
      Requirement.Acceptable requirement.name requirement.providers := by
  refine ⟨fun _ _ => exists_toRequirement_iff, ?_, fun _ _ _ => toRequirement_eq_error_iff, ?_, ofGlobal_eq,
    ofPackage_eq, ?_, fun _ obtained => obtained.acceptable⟩
  · intro entry name requirement made
    exact (toRequirement_eq_ok_iff.mp made).2
  · intro entry name fault rest failed
    rw [Dependencies.requirementsOf, failed]
  · intro name providers
    rw [Requirement.exists_make_iff, Requirement.wellFormed_iff_acceptable]

/-- An entry with all three keys, and one whose name, package and path are all blank somewhere. -/
theorem toRequirement_exact_three :
    (∃ requirement, DependencyEntry.toRequirement ⟨some " $ . fn", some "jquery", some "jq"⟩ "$" = .ok requirement ∧
      requirement.providers = [.named "jq", .bundled "jquery", .global ["$", "fn"]]) ∧
    Dependencies.requirementsOf [("\u3000", ⟨some "a..b", some " ", none⟩)] =
      .error (.invalidRequire "\u3000" (.badPath "a..b")) := by
  obtain ⟨accepted, given, refused, reported, -⟩ := toRequirement_exact
  constructor
  · have sound : DependencyEntry.Sound ⟨some " $ . fn", some "jquery", some "jq"⟩ "$" := by
      refine ⟨by decide, .inl rfl, ?_, ?_, ?_⟩
      · rintro _ ⟨⟩
        decide
      · rintro _ ⟨⟩
        decide
      · rintro _ ⟨⟩
        unfold DottedPath.Shown
        decide
    obtain ⟨requirement, made⟩ := (accepted _ _).mpr sound
    exact ⟨requirement, made, (given _ _ _ made).2⟩
  · have blank : ¬DottedPath.Shown "a..b" := by
      unfold DottedPath.Shown
      decide
    exact reported _ _ _ [] ((refused _ _ _).mpr (.badPath rfl blank))

end UniversalModule
