import Mathlib.Data.List.Induction
import Mathlib.Data.List.Nodup
import UniversalModule.Proofs.Resolution.Selection

/-!
The packages that branches take from the bundle. The list of bundled packages keeps the first
occurrence of each package that the CommonJS branch selects, and a plain script, which prefers the
ambient object, selects no other packages.
-/

namespace UniversalModule

/-- The items that are kept of a list when repetitions are left out, in the order of their first
occurrences. -/
structure FirstOccurrences (all kept : List Text) : Prop where
  nodup : kept.Nodup
  mem_iff : ∀ text, text ∈ kept ↔ text ∈ all
  ordered : kept.Pairwise fun first second => all.idxOf first < all.idxOf second

theorem FirstOccurrences.nil : FirstOccurrences [] [] where
  nodup := List.nodup_nil
  mem_iff _ := Iff.rfl
  ordered := .nil

variable {all kept : List Text} {text : Text}

/-- The order of what is kept does not change when the list goes on. -/
theorem FirstOccurrences.ordered_concat (kepts : FirstOccurrences all kept) (text : Text) :
    kept.Pairwise fun first second => (all ++ [text]).idxOf first < (all ++ [text]).idxOf second := by
  refine kepts.ordered.imp_of_mem fun {first second} firstKept secondKept before => ?_
  rw [List.idxOf_append_of_mem ((kepts.mem_iff first).mp firstKept),
    List.idxOf_append_of_mem ((kepts.mem_iff second).mp secondKept)]
  exact before

theorem FirstOccurrences.concat_known (kepts : FirstOccurrences all kept) (known : text ∈ all) :
    FirstOccurrences (all ++ [text]) kept where
  nodup := kepts.nodup
  mem_iff other := by
    rw [kepts.mem_iff, List.mem_append, List.mem_singleton]
    constructor
    · exact Or.inl
    · rintro (member | rfl)
      · exact member
      · exact known
  ordered := kepts.ordered_concat text

theorem FirstOccurrences.concat_new (kepts : FirstOccurrences all kept) (new : text ∉ all) :
    FirstOccurrences (all ++ [text]) (kept ++ [text]) where
  nodup := by
    rw [List.nodup_append]
    refine ⟨kepts.nodup, List.nodup_singleton text, ?_⟩
    intro other member last isLast same
    rw [List.mem_singleton.mp isLast] at same
    exact new ((kepts.mem_iff text).mp (same ▸ member))
  mem_iff other := by
    rw [List.mem_append, List.mem_append, kepts.mem_iff]
  ordered := by
    refine List.pairwise_append.mpr ⟨kepts.ordered_concat text, List.pairwise_singleton _ text, ?_⟩
    intro other member last isLast
    have known := (kepts.mem_iff other).mp member
    rw [List.mem_singleton.mp isLast, List.idxOf_append_of_mem known, List.idxOf_append_of_notMem new]
    exact Nat.lt_of_lt_of_le (List.idxOf_lt_length_of_mem known) (Nat.le_add_right _ _)

/-- Erasing repetitions keeps first occurrences. The induction is on the end of the list, where a
text is new or has a first occurrence before it. -/
theorem firstOccurrences_eraseDups (all : List Text) : FirstOccurrences all all.eraseDups := by
  induction all using List.reverseRecOn with
  | nil => exact .nil
  | append_singleton all text kepts =>
      rw [List.eraseDups_append]
      by_cases known : text ∈ all
      · have removed : [text].removeAll all = [] := by simp [List.removeAll, known]
        rw [removed, List.eraseDups_nil, List.append_nil]
        exact kepts.concat_known known
      · have remains : [text].removeAll all = [text] := by simp [List.removeAll, known]
        rw [remains]
        exact kepts.concat_new known

namespace Resolution

/-- The packages that a branch selects, in the order of the requirements. -/
def selectedPackages (requires : List Requirement) (branch : Branch) : List Text :=
  requires.filterMap fun requirement =>
    match branch.select requirement.providers with
    | some (.bundled package) => some package
    | _ => none

theorem bundledPackages_eq (requires : List Requirement) :
    bundledPackages requires = (selectedPackages requires .commonJs).eraseDups := rfl

theorem mem_selectedPackages {requires : List Requirement} {branch : Branch} {package : Text} :
    package ∈ selectedPackages requires branch ↔
      ∃ requirement ∈ requires, branch.select requirement.providers = some (.bundled package) := by
  unfold selectedPackages
  rw [List.mem_filterMap]
  constructor
  · rintro ⟨requirement, member, made⟩
    refine ⟨requirement, member, ?_⟩
    split at made
    · next chosen selected =>
        cases made
        exact selected
    · exact absurd made (by simp)
  · rintro ⟨requirement, member, selected⟩
    exact ⟨requirement, member, by rw [selected]⟩

theorem mem_bundledPackages {requires : List Requirement} {package : Text} :
    package ∈ bundledPackages requires ↔
      ∃ requirement ∈ requires, Branch.commonJs.select requirement.providers = some (.bundled package) := by
  rw [bundledPackages_eq, List.mem_eraseDups, mem_selectedPackages]

theorem unique_of_kind {providers : List Provider} (distinct : (providers.map Provider.kind).Nodup)
    {first second : Provider} (firstGiven : first ∈ providers) (secondGiven : second ∈ providers)
    (same : first.kind = second.kind) : first = second :=
  List.inj_on_of_nodup_map distinct firstGiven secondGiven same

/-- A package that any branch selects is what CommonJS gets for the same requirement: only one
package is given, and CommonJS prefers it. -/
theorem select_commonJs {branch : Branch} {requirement : Requirement} {package : Text}
    (selected : branch.select requirement.providers = some (.bundled package)) :
    Branch.commonJs.select requirement.providers = some (.bundled package) := by
  have given := (select_kind selected).1
  obtain ⟨chosen, chosenSelected⟩ := select_bundled given
  have same : Provider.bundled chosen = .bundled package :=
    unique_of_kind requirement.wellFormed.distinct (select_kind chosenSelected).1 given rfl
  rw [chosenSelected, same]

theorem mem_bundledPackages_of_selected {requires : List Requirement} {branch : Branch}
    {package : Text} (member : package ∈ selectedPackages requires branch) :
    package ∈ bundledPackages requires := by
  obtain ⟨requirement, among, selected⟩ := mem_selectedPackages.mp member
  exact mem_bundledPackages.mpr ⟨requirement, among, select_commonJs selected⟩

theorem selectedPackages_namedModule (requires : List Requirement) :
    selectedPackages requires .namedModule = [] := by
  rw [List.eq_nil_iff_forall_not_mem]
  intro package member
  obtain ⟨requirement, -, selected⟩ := mem_selectedPackages.mp member
  have wanted : Provider.Kind.bundled ∈ Branch.preference .namedModule := (select_kind selected).2
  exact absurd wanted (by decide)

theorem access?_eq_bundled_iff {requires : List Requirement} {branch : Branch}
    {requirement : Requirement} {package : Text} :
    access? requires branch requirement = some (.bundled package) ↔
      branch.select requirement.providers = some (.bundled package) := by
  unfold access?
  cases selected : branch.select requirement.providers with
  | none => simp
  | some provider => cases provider <;> simp

/-- The packages of the assignments of a branch are those that it selects. -/
theorem exists_mem_assignments_bundled_iff {requires : List Requirement} {branch : Branch}
    {package : Text} :
    (∃ name, ⟨name, .bundled package⟩ ∈ assignments requires branch) ↔
      package ∈ selectedPackages requires branch := by
  rw [mem_selectedPackages]
  constructor
  · rintro ⟨name, member⟩
    obtain ⟨requirement, among, made⟩ := List.mem_filterMap.mp member
    obtain ⟨value, given, whole⟩ := Option.map_eq_some_iff.mp made
    cases whole
    exact ⟨requirement, among, access?_eq_bundled_iff.mp given⟩
  · rintro ⟨requirement, among, selected⟩
    refine ⟨requirement.name, List.mem_filterMap.mpr ⟨requirement, among, ?_⟩⟩
    rw [access?_eq_bundled_iff.mpr selected]
    rfl

/-- A parameter is only assigned in the branch of named modules, where there is one with its number. -/
theorem index_lt_of_mem_assignments {requires : List Requirement} {branch : Branch} {name : Text}
    {index : Nat} (member : ⟨name, .parameter index⟩ ∈ assignments requires branch) :
    branch = .namedModule ∧ index < (namedModules requires).length := by
  obtain ⟨requirement, -, made⟩ := List.mem_filterMap.mp member
  obtain ⟨value, given, whole⟩ := Option.map_eq_some_iff.mp made
  cases whole
  unfold access? at given
  split at given
  · exact absurd given (by simp)
  · exact absurd given (by simp)
  · next module selected =>
      obtain ⟨found, isFound, same⟩ := Option.map_eq_some_iff.mp given
      cases same
      exact ⟨branch_of_named selected, (List.findIdx?_eq_some_iff_findIdx_eq.mp isFound).1⟩
  · exact absurd given (by simp)

end Resolution

end UniversalModule
