import UniversalModule.Proofs.Compile.Exports
import UniversalModule.Proofs.Compile.Requests
import UniversalModule.Proofs.Project.Overriding
import UniversalModule.Proofs.Project.Reading
import UniversalModule.Proofs.Requirement

/-!
The order of dependencies, from the entries of a project file to the module. A name keeps the place where it
first comes and counts with what is given for it last; overrides leave the entries alone, options are made of
them one by one, and every branch assigns the dependencies that it provides in the same order.
-/

namespace UniversalModule

namespace Keyed

variable {κ α : Type} {key : κ} {value : α} {given : List (κ × α)}

/-- The value is what a list in which keys may repeat gives last for the key. -/
def LastGiven (given : List (κ × α)) (key : κ) (value : α) : Prop :=
  ∃ before after, given = before ++ (key, value) :: after ∧ key ∉ after.map Prod.fst

/-- The list goes on: what was given last for another key stays so. -/
theorem lastGiven_concat_iff {other : κ} {new : α} :
    LastGiven (given ++ [(other, new)]) key value ↔
      (key, value) = (other, new) ∨ LastGiven given key value ∧ key ≠ other := by
  constructor
  · rintro ⟨before, after, whole, fresh⟩
    rcases List.eq_nil_or_concat' after with rfl | ⟨later, last, rfl⟩
    · obtain ⟨-, same⟩ := List.append_inj' whole rfl
      exact .inl (List.singleton_inj.mp same).symm
    · have regrouped : before ++ (key, value) :: (later ++ [last]) = (before ++ (key, value) :: later) ++ [last] :=
        (List.append_assoc before ((key, value) :: later) [last]).symm
      rw [regrouped] at whole
      obtain ⟨rfl, same⟩ := List.append_inj' whole rfl
      cases same
      rw [List.map_append, List.mem_append, not_or] at fresh
      exact .inr ⟨⟨before, later, rfl, fresh.1⟩, fun same => fresh.2 (List.mem_singleton.mpr same)⟩
  · rintro (same | ⟨⟨before, after, rfl, fresh⟩, differs⟩)
    · exact ⟨given, [], by rw [same], List.not_mem_nil⟩
    · exact ⟨before, after ++ [(other, new)], by simp, by simpa using ⟨by simpa using fresh, differs⟩⟩

variable [DecidableEq κ]

theorem ofList_concat (given : List (κ × α)) (key : κ) (value : α) :
    ofList (given ++ [(key, value)]) = put key value (ofList given) := by
  unfold ofList
  rw [List.foldl_append]
  rfl

theorem mem_put_iff {entries : Keyed κ α} (distinct : entries.keys.Nodup) {entry : κ × α} :
    entry ∈ put key value entries ↔ entry = (key, value) ∨ entry ∈ entries ∧ entry.1 ≠ key := by
  induction entries with
  | nil => simp [put]
  | cons first rest induction =>
      obtain ⟨other, old⟩ := first
      obtain ⟨apart, distinct⟩ := List.nodup_cons.mp distinct
      rw [put]
      split
      · next same =>
          subst same
          have others (member : entry ∈ rest) : entry.1 ≠ other := by
            intro same
            have known := List.mem_map_of_mem (f := Prod.fst) member
            exact apart (same ▸ known)
          constructor
          · intro member
            rcases List.mem_cons.mp member with rfl | member
            · exact .inl rfl
            · exact .inr ⟨List.mem_cons_of_mem _ member, others member⟩
          · rintro (rfl | ⟨member, differs⟩)
            · exact List.mem_cons_self
            · rcases List.mem_cons.mp member with rfl | member
              · exact absurd rfl differs
              · exact List.mem_cons_of_mem _ member
      · next differs =>
          rw [List.mem_cons, List.mem_cons, induction distinct]
          constructor
          · rintro (rfl | rfl | ⟨member, apart⟩)
            · exact .inr ⟨.inl rfl, differs⟩
            · exact .inl rfl
            · exact .inr ⟨.inr member, apart⟩
          · rintro (rfl | ⟨rfl | member, apart⟩)
            · exact .inr (.inl rfl)
            · exact .inl rfl
            · exact .inr (.inr ⟨member, apart⟩)

theorem mem_ofList_iff : (key, value) ∈ ofList given ↔ LastGiven given key value := by
  induction given using List.reverseRecOn with
  | nil => simp [ofList, LastGiven]
  | append_singleton given entry induction =>
      obtain ⟨other, new⟩ := entry
      rw [ofList_concat, mem_put_iff (nodup_keys_ofList given), induction, lastGiven_concat_iff]

theorem firstOccurrences_keys (given : List (Text × α)) :
    FirstOccurrences (given.map Prod.fst) (keys (ofList given)) := by
  induction given using List.reverseRecOn with
  | nil => exact .nil
  | append_singleton given entry kepts =>
      obtain ⟨name, value⟩ := entry
      rw [ofList_concat, keys_put, List.map_append]
      split
      · next known => exact kepts.concat_known ((kepts.mem_iff name).mp known)
      · next new => exact kepts.concat_new fun known => new ((kepts.mem_iff name).mpr known)

end Keyed

namespace Dependencies

def Converts (entry : Text × DependencyEntry) : Prop :=
  ∃ requirement, entry.2.toRequirement entry.1 = .ok requirement

/-- The error of the first entry of which no requirement can be made. -/
def FirstError (entries : List (Text × DependencyEntry)) (error : CompileError) : Prop :=
  ∃ before name entry fault after, entries = before ++ (name, entry) :: after ∧
    (∀ other ∈ before, Converts other) ∧ entry.toRequirement name = .error fault ∧
    error = .invalidRequire name fault

variable {entries : List (Text × DependencyEntry)}

/-- There are requirements of all entries, or there is a first error. -/
theorem requirementsOf_cases (entries : List (Text × DependencyEntry)) :
    (∃ requirements, requirementsOf entries = .ok requirements ∧
      List.Forall₂ (fun entry requirement => entry.2.toRequirement entry.1 = .ok requirement) entries
        requirements) ∨
    ∃ error, requirementsOf entries = .error error ∧ FirstError entries error := by
  induction entries with
  | nil => exact .inl ⟨[], rfl, .nil⟩
  | cons entry rest induction =>
      obtain ⟨name, entry⟩ := entry
      cases made : entry.toRequirement name with
      | error fault =>
          refine .inr ⟨.invalidRequire name fault, ?_, [], name, entry, fault, rest, rfl, by simp, made, rfl⟩
          rw [requirementsOf, made]
      | ok requirement =>
          rcases induction with ⟨others, found, each⟩ | ⟨error, failed, before, other, faulty, fault, after, rfl,
            sound, refused, same⟩
          · refine .inl ⟨requirement :: others, ?_, .cons made each⟩
            rw [requirementsOf, made, found]
            rfl
          · refine .inr ⟨error, ?_, (name, entry) :: before, other, faulty, fault, after, rfl, ?_, refused, same⟩
            · rw [requirementsOf, made, failed]
              rfl
            · exact List.forall_mem_cons.mpr ⟨⟨requirement, made⟩, sound⟩

theorem made_of_requirementsOf {requirements : List Requirement} (made : requirementsOf entries = .ok requirements) :
    List.Forall₂ (fun entry requirement => entry.2.toRequirement entry.1 = .ok requirement) entries
      requirements := by
  rcases requirementsOf_cases entries with ⟨others, found, each⟩ | ⟨error, failed, -⟩
  · rw [made] at found
    cases found
    exact each
  · rw [made] at failed
    exact absurd failed (by simp)

theorem exists_requirementsOf_iff :
    (∃ requirements, requirementsOf entries = .ok requirements) ↔ ∀ entry ∈ entries, Converts entry := by
  constructor
  · rintro ⟨requirements, made⟩
    have both := (made_of_requirementsOf made).imp fun entry requirement first =>
      (⟨⟨requirement, first⟩, first⟩ : Converts entry ∧ entry.2.toRequirement entry.1 = .ok requirement)
    exact ((List.forall₂_and_left _ _).mp both).1
  · exact requirementsOf_sound

theorem requirementsOf_eq_error_iff {error : CompileError} :
    requirementsOf entries = .error error ↔ FirstError entries error := by
  constructor
  · intro refused
    rcases requirementsOf_cases entries with ⟨requirements, found, -⟩ | ⟨other, failed, first⟩
    · rw [refused] at found
      exact absurd found (by simp)
    · rw [refused] at failed
      cases failed
      exact first
  · rintro ⟨before, name, entry, fault, after, rfl, sound, refused, rfl⟩
    exact requirementsOf_faulty sound refused

end Dependencies

namespace Resolution

theorem Renders.names {modules : List Text} {selected : List (Text × Provider)} {assignments : List Assignment}
    (renders : Renders modules selected assignments) :
    assignments.map Assignment.name = selected.map Prod.fst := by
  induction renders with
  | nil => rfl
  | cons _ _ induction => rw [List.map_cons, List.map_cons, induction]

theorem names_selections (requires : List Requirement) (branch : Branch) :
    (selections requires branch).map Prod.fst =
      (requires.filter fun requirement => (branch.select requirement.providers).isSome).map Requirement.name := by
  induction requires with
  | nil => rfl
  | cons requirement rest induction =>
      unfold selections at induction ⊢
      cases selected : branch.select requirement.providers with
      | none =>
          rw [List.filterMap_cons_none (by rw [selected]; rfl), List.filter_cons_of_neg (by simp [selected]), induction]
      | some provider =>
          rw [List.filterMap_cons_some (by rw [selected]; rfl), List.filter_cons_of_pos (by simp [selected]),
            List.map_cons, List.map_cons, induction]

/-- A branch assigns the dependencies that it has a provider for, in their order. -/
theorem names_assignments {requires : List Requirement} (distinct : (requires.map Requirement.name).Nodup)
    (branch : Branch) :
    (assignments requires branch).map Assignment.name =
      (requires.filter fun requirement => (branch.select requirement.providers).isSome).map Requirement.name := by
  rw [(faithful_assignments distinct branch).renders.names, names_selections]

end Resolution

open Emission

theorem Emission.assignments_statements (options : Options) (branch : Branch) :
    (statements options branch).filterMap Statement.assignment? = Resolution.assignments options.requires branch := by
  obtain ⟨before, after, whole, -, -, assigned, unassigned⟩ := statements_call options branch
  rw [whole, List.filterMap_append, List.filterMap_cons_none rfl, assigned, unassigned, List.append_nil]

/-- The assignments can be read off the branches of a compiled module. -/
theorem compile_assignments {options : Options} {outputFile : Path} (accepted : options.validate = .ok outputFile)
    (core bundle : Text) (schedule : Schedule) (fragments : List Fragment) :
    ∃ output, compile (Supplies.ofTexts core bundle) schedule options fragments = .ok output ∧
      ∀ branch, (branchStatements branch output.code).filterMap (Assignment.parse? options.runtimeVar) =
        Resolution.assignments options.requires branch := by
  have faultless := (Options.validate_eq_ok_iff.mp accepted).faultless
  have identifier := whole_of_isIdentifier faultless.runtimeVar
  refine ⟨_, compile_ofTexts accepted core bundle schedule fragments, ?_⟩
  intro branch
  obtain ⟨more, whole, comments⟩ := rows_emit options outputFile (options.coreSource core) fragments
    (options.embeddedBundle bundle)
  have comment : ∀ row ∈ more, row.head? = some '/' := by
    intro row member
    obtain ⟨map, rfl⟩ := comments row member
    rfl
  rw [branchStatements_of_rows identifier whole comment, filterMap_text fun statement member =>
    statement.parse?_text identifier (proper_of_mem_statements identifier branch statement member)]
  exact assignments_statements options branch

namespace Project

variable {project : Project}

theorem toOptions_eq_error_iff {error : CompileError} :
    project.toOptions = .error error ↔ Dependencies.FirstError project.requires.entries error := by
  rw [← Dependencies.requirementsOf_eq_error_iff]
  unfold toOptions Dependencies.requirements
  cases Dependencies.requirementsOf project.requires.entries with
  | error found => simp [bind, Except.bind]
  | ok requirements => simp [bind, Except.bind, pure, Except.pure]

theorem requirementsOf_of_toOptions {options : Options} (made : project.toOptions = .ok options) :
    Dependencies.requirementsOf project.requires.entries = .ok options.requires := by
  unfold toOptions Dependencies.requirements at made
  cases found : Dependencies.requirementsOf project.requires.entries with
  | error error =>
      rw [found] at made
      exact absurd made (by simp [bind, Except.bind])
  | ok requirements =>
      rw [found] at made
      cases made
      rfl

theorem exists_toOptions_iff :
    (∃ options, project.toOptions = .ok options) ↔
      ∀ entry ∈ project.requires.entries, Dependencies.Converts entry := by
  rw [← Dependencies.exists_requirementsOf_iff]
  constructor
  · rintro ⟨options, made⟩
    exact ⟨options.requires, requirementsOf_of_toOptions made⟩
  · rintro ⟨requirements, made⟩
    unfold toOptions Dependencies.requirements
    rw [made]
    exact ⟨_, rfl⟩

end Project

/-- The entries that count of a list in which names may repeat: each name where it first comes, with what is
given for it last. -/
structure Remaining (given kept : List (Text × DependencyEntry)) : Prop where
  order : FirstOccurrences (given.map Prod.fst) (kept.map Prod.fst)
  last : ∀ name entry, (name, entry) ∈ kept ↔ Keyed.LastGiven given name entry

theorem remaining_ofList (given : List (Text × DependencyEntry)) :
    Remaining given (Dependencies.ofList given).entries where
  order := Keyed.firstOccurrences_keys given
  last _ _ := Keyed.mem_ofList_iff

/-- Options whose dependencies are those that a list of entries gives, in its order, up to the branches of the
modules that are compiled with them. -/
structure Ordered (given : List (Text × DependencyEntry)) (project : Project) (options : Options) : Prop where
  order : FirstOccurrences (given.map Prod.fst) (options.requires.map Requirement.name)
  made : List.Forall₂ (fun entry requirement => entry.2.toRequirement entry.1 = .ok requirement)
    project.requires.entries options.requires
  unrepeated : ∀ name, options.validate ≠ .error (.invalidRequire name .declaredTwice)
  assigned : ∀ branch, (Resolution.assignments options.requires branch).map Assignment.name =
    (options.requires.filter fun requirement => (branch.select requirement.providers).isSome).map Requirement.name
  emitted : ∀ outputFile, options.validate = .ok outputFile → ∀ core bundle schedule fragments,
    ∃ output, project.compile (Supplies.ofTexts core bundle) schedule fragments = .ok output ∧
      ∀ branch, (branchStatements branch output.code).filterMap (Assignment.parse? options.runtimeVar) =
        Resolution.assignments options.requires branch

theorem ordered_of_toOptions {given : List (Text × DependencyEntry)} {project : Project} {options : Options}
    (remaining : Remaining given project.requires.entries) (converted : project.toOptions = .ok options) :
    Ordered given project options := by
  have found := Project.requirementsOf_of_toOptions converted
  have names := Dependencies.map_name_requirementsOf found
  have order : FirstOccurrences (given.map Prod.fst) (options.requires.map Requirement.name) :=
    names ▸ remaining.order
  refine ⟨order, Dependencies.made_of_requirementsOf found, fun name =>
    Options.validate_ne_invalidRequire order.nodup name .declaredTwice, Resolution.names_assignments order.nodup, ?_⟩
  intro outputFile accepted core bundle schedule fragments
  unfold Project.compile
  rw [converted]
  exact compile_assignments accepted core bundle schedule fragments

/-- A project that makes options of the entries of a list, or gives the first fault among those that count. -/
structure KeepsOrder (given : List (Text × DependencyEntry)) (project : Project) : Prop where
  remaining : Remaining given project.requires.entries
  accepted : (∃ options, project.toOptions = .ok options) ↔
    ∀ entry ∈ project.requires.entries, Dependencies.Converts entry
  refused : ∀ error, project.toOptions = .error error ↔ Dependencies.FirstError project.requires.entries error
  ordered : ∀ options, project.toOptions = .ok options → Ordered given project options

/-- Whatever entries a project has been given and whatever has overridden it, its dependencies are in the order in
which their names first came; and the entries of a file are given in its order. -/
theorem toOptions_keepsOrder :
    (∀ (base : Project) (given : List (Text × DependencyEntry)) (changes : List Override),
      KeepsOrder given (changes.foldl Project.merge { base with requires := .ofList given })) ∧
    ∀ (τ : Type) (reading : Reading τ) (node : τ) (dependencies : Dependencies),
      Yaml.Attempt.Gives (reading.requires node) dependencies →
        ∃ members given, Yaml.Attempt.Gives (reading.members node) members ∧ reading.Lists members given ∧
          dependencies = .ofList given := by
  refine ⟨?_, fun τ reading node dependencies => Reading.lists_of_gives⟩
  intro base given changes
  have kept := (Project.overridden_foldl { base with requires := .ofList given } changes).requires
  have remaining : Remaining given
      (changes.foldl Project.merge { base with requires := .ofList given }).requires.entries := by
    rw [kept]
    exact remaining_ofList given
  exact ⟨remaining, Project.exists_toOptions_iff, fun _ => Project.toOptions_eq_error_iff,
    fun _ => ordered_of_toOptions remaining⟩

def Dependencies.repeating : List (Text × DependencyEntry) :=
  [("$", ⟨some "jQuery", none, none⟩), ("vow", ⟨none, some "vow", none⟩), ("$", ⟨none, none, some "jq"⟩)]

def Dependencies.refusable : List (Text × DependencyEntry) :=
  [("vow", ⟨none, some "vow", none⟩), ("b", ⟨some "a..b", none, none⟩), ("c", ⟨none, none, none⟩)]

def Override.elsewhere : Override := ⟨some "out.js", none, none, none, none, none, none, none, none⟩

theorem toOptions_keepsOrder_repeating :
    (∃ options, ([Override.elsewhere].foldl Project.merge
        { Project.default with requires := .ofList Dependencies.repeating }).toOptions = .ok options ∧
      options.requires.map Requirement.name = ["$", "vow"] ∧
      ∀ name, options.validate ≠ .error (.invalidRequire name .declaredTwice)) ∧
    { Project.default with requires := .ofList Dependencies.refusable }.toOptions =
      .error (.invalidRequire "b" (.badPath "a..b")) := by
  obtain ⟨keeps, -⟩ := toOptions_keepsOrder
  have vowFormed : Requirement.WellFormed "vow" [.bundled "vow"] := Requirement.fault?_eq_none_iff.mp (by decide)
  have jqFormed : Requirement.WellFormed "$" [.named "jq"] := Requirement.fault?_eq_none_iff.mp (by decide)
  have vow : Dependencies.Converts ("vow", ⟨none, some "vow", none⟩) := Requirement.exists_make_iff.mpr vowFormed
  have jq : Dependencies.Converts ("$", ⟨none, none, some "jq"⟩) := Requirement.exists_make_iff.mpr jqFormed
  constructor
  · have kept := keeps Project.default Dependencies.repeating [Override.elsewhere]
    have sound : ∀ entry ∈ (Dependencies.ofList Dependencies.repeating).entries, Dependencies.Converts entry :=
      List.forall_mem_cons.mpr ⟨jq, List.forall_mem_cons.mpr ⟨vow, by simp⟩⟩
    obtain ⟨options, converted⟩ := kept.accepted.mpr sound
    have names := Dependencies.map_name_requirementsOf (Project.requirementsOf_of_toOptions converted)
    exact ⟨options, converted, names, (kept.ordered options converted).unrepeated⟩
  · have kept := keeps Project.default Dependencies.refusable []
    refine (kept.refused _).mpr ⟨[("vow", ⟨none, some "vow", none⟩)], "b", ⟨some "a..b", none, none⟩, .badPath "a..b",
      [("c", ⟨none, none, none⟩)], by decide, ?_, by rfl, rfl⟩
    exact List.forall_mem_cons.mpr ⟨vow, by simp⟩

end UniversalModule
