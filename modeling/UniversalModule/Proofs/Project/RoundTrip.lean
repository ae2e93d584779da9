import UniversalModule.Project.Reading
import UniversalModule.Proofs.Json.Values

/-!
A project written as keys and values and read again. The reader takes each field back from what the writer
makes of it, and what it takes where a key is absent is what the default project writes there. So fields
that say no more than the default may be left out, and keys that are no fields may stand among them.
-/

namespace UniversalModule

open Json (Value)
open Yaml (Attempt)

namespace Keyed

variable {κ α : Type} [DecidableEq κ]

theorem get?_filter (keep : κ → Bool) (key : κ) (entries : Keyed κ α) :
    get? key (entries.filter fun entry => keep entry.1) = if keep key then get? key entries else none := by
  induction entries with
  | nil => simp [get?]
  | cons entry rest induction =>
      rw [List.filter_cons]
      by_cases same : entry.1 = key
      · subst same
        cases kept : keep entry.1 with
        | true => simp [get?]
        | false => simpa [kept] using induction
      · cases kept : keep entry.1 with
        | true => simpa [get?, same] using induction
        | false => simpa [get?, same] using induction

omit [DecidableEq κ] in
theorem nodup_keys_filter {entries : Keyed κ α} (distinct : (keys entries).Nodup) (keep : κ × α → Bool) :
    (keys (entries.filter keep)).Nodup :=
  distinct.sublist (List.filter_sublist.map Prod.fst)

end Keyed

namespace Reading

variable {α β : Type}

theorem mapM_map {read : β → Attempt α} {write : α → β} {items : List α}
    (each : ∀ item ∈ items, read (write item) = pure item) : (items.map write).mapM read = pure items := by
  induction items with
  | nil => rfl
  | cons item rest induction =>
      obtain ⟨first, others⟩ := List.forall_mem_cons.mp each
      rw [List.map_cons, List.mapM_cons, first, induction others, pure_bind, pure_bind]

theorem text_string (text : Text) : Value.reading.text (.string text) = pure text := rfl

theorem flag_boolean (value : Bool) : Value.reading.flag (.boolean value) = pure value := rfl

theorem value_value (value : Value) : Value.reading.value value = pure value := rfl

theorem optionalText_optionalText (text : Option Text) :
    Value.reading.optionalText (UniversalModule.optionalText text) = pure text := by
  cases text <;> rfl

theorem texts_array (texts : List Text) : Value.reading.texts (.array (texts.map .string)) = pure texts :=
  mapM_map fun text _ => text_string text

theorem members_object (members : List (Text × Value)) : Value.reading.members (.object members) = pure members := by
  have items : Value.reading.members (.object members) =
      (members.map fun member => (Value.string member.1, member.2)).mapM fun member =>
        (return (← Value.reading.text member.1, member.2) : Attempt (Text × Value)) := rfl
  rw [items]
  exact mapM_map fun member _ => rfl

theorem entry_toJson (entry : DependencyEntry) : Value.reading.entry entry.toJson = pure entry := by
  obtain ⟨globals, commonJs, ym⟩ := entry
  cases globals <;> cases commonJs <;> cases ym <;> rfl

theorem requires_entries (dependencies : Dependencies) :
    Value.reading.requires (.object (dependencies.entries.map fun (name, entry) => (name, entry.toJson))) =
      pure dependencies := by
  have each : (dependencies.entries.map fun (name, entry) => (name, entry.toJson)).mapM
      (fun member => return (member.1, ← Value.reading.entry member.2)) =
        (pure dependencies.entries : Attempt (List (Text × DependencyEntry))) := by
    refine mapM_map ?_
    rintro ⟨name, entry⟩ _
    rw [entry_toJson, pure_bind]
  have whole : Dependencies.ofList dependencies.entries = dependencies := by
    obtain ⟨entries, distinct⟩ := dependencies
    exact Dependencies.mk.injEq .. ▸ Keyed.ofList_of_nodup distinct
  rw [requires, members_object, pure_bind, each, pure_bind, whole]

theorem fields_object {known : List Text} {members : List (Text × Value)}
    (distinct : (Keyed.keys (members.filter fun member => known.contains member.1)).Nodup) :
    Value.reading.fields known (.object members) =
      pure (members.filter fun member => known.contains member.1) := by
  rw [fields, members_object, pure_bind, if_pos distinct]

/-- A field that says what an absent one stands for may as well be absent. -/
theorem field_shown {known : List Text} {members : Keyed Text Value} {key : Text} {written standard : Value}
    {value absent : α} {read : Value → Attempt α} (isKnown : key ∈ known) (reads : read written = pure value)
    (readsStandard : read standard = pure absent)
    (shown : members.get? key = some written ∨ members.get? key = none ∧ written = standard) :
    field (members.filter fun member => known.contains member.1) key absent read = pure value := by
  have found : Keyed.get? key (members.filter fun member => known.contains member.1) = members.get? key := by
    rw [Keyed.get?_filter, if_pos (List.contains_iff_mem.mpr isKnown)]
  unfold field
  rw [found]
  obtain given | ⟨missing, rfl⟩ := shown
  · rw [given]
    exact reads
  · rw [missing]
    exact readsStandard.symm.trans reads

end Reading

namespace Project

variable (project : Project)

def written (key : Text) : Option Value :=
  match project.optionsJson with
  | .object members => Keyed.get? key members
  | _ => none

/-- Members that say what a project says: under each key stands what the writer puts there, or nothing where
the default project would have the same. Other keys count for nothing. -/
structure ShownBy (members : Keyed Text Value) : Prop where
  distinct : (Keyed.keys (members.filter fun member => ProjectKey.known.contains member.1)).Nodup
  shown : ∀ key ∈ ProjectKey.known, members.get? key = project.written key ∨
    members.get? key = none ∧ project.written key = default.written key

variable {project}

theorem ShownBy.options_object {members : Keyed Text Value} (shownBy : project.ShownBy members) :
    Value.reading.options (.object members) = pure project := by
  have shown {key : Text} {value standard : Value} (isKnown : key ∈ ProjectKey.known)
      (written : project.written key = some value) (standardWritten : default.written key = some standard) :
      members.get? key = some value ∨ members.get? key = none ∧ value = standard := by
    obtain given | ⟨missing, same⟩ := shownBy.shown key isKnown
    · exact .inl (given.trans written)
    · exact .inr ⟨missing, Option.some.inj (written.symm.trans (same.trans standardWritten))⟩
  have field {α : Type} {key : Text} {value standard : Value} {said absent : α} {read : Value → Attempt α}
      (isKnown : key ∈ ProjectKey.known) (written : project.written key = some value)
      (standardWritten : default.written key = some standard) (reads : read value = pure said)
      (readsStandard : read standard = pure absent) :=
    Reading.field_shown isKnown reads readsStandard (shown isKnown written standardWritten)
  have filename := field (by decide) (rfl : project.written ProjectKey.filename = _) rfl
    (Reading.optionalText_optionalText project.filename) (Reading.optionalText_optionalText default.filename)
  have dirname := field (by decide) (rfl : project.written ProjectKey.dirname = _) rfl
    (Reading.optionalText_optionalText project.dirname) (Reading.optionalText_optionalText default.dirname)
  have coreFilename := field (by decide) (rfl : project.written ProjectKey.coreFilename = _) rfl
    (Reading.optionalText_optionalText project.coreFilename)
    (Reading.optionalText_optionalText default.coreFilename)
  have exportName := field (by decide) (rfl : project.written ProjectKey.exportName = _) rfl
    (Reading.text_string project.exportName) (Reading.text_string default.exportName)
  have runtimeVar := field (by decide) (rfl : project.written ProjectKey.runtimeVar = _) rfl
    (Reading.text_string project.runtimeVar) (Reading.text_string default.runtimeVar)
  have exportAliases := field (by decide) (rfl : project.written ProjectKey.exportAliases = _) rfl
    (Reading.texts_array project.exportAliases) (Reading.texts_array default.exportAliases)
  have scopeTemplates := field (by decide) (rfl : project.written ProjectKey.scopeTemplates = _) rfl
    (Reading.flag_boolean project.scopeTemplates) (Reading.flag_boolean default.scopeTemplates)
  have sourceMap := field (by decide) (rfl : project.written ProjectKey.sourceMap = _) rfl
    (Reading.flag_boolean project.sourceMap) (Reading.flag_boolean default.sourceMap)
  have coreOptions := field (by decide) (rfl : project.written ProjectKey.coreOptions = _) rfl
    (Reading.value_value project.coreOptions) (Reading.value_value default.coreOptions)
  have requires := field (by decide) (rfl : project.written ProjectKey.requires = _) rfl
    (Reading.requires_entries project.requires) (Reading.requires_entries default.requires)
  have bundler := field (by decide) (rfl : project.written ProjectKey.bundler = _) rfl
    (Reading.text_string project.bundler) (Reading.text_string default.bundler)
  rw [Reading.options, Reading.fields_object shownBy.distinct, pure_bind]
  simp only [filename, dirname, coreFilename, exportName, runtimeVar, exportAliases, scopeTemplates, sourceMap,
    coreOptions, requires, bundler, pure_bind]

/-- A project is read from every tree that shows it, whatever other keys stand around its options. -/
theorem ShownBy.ofJson?_object {outer members : Keyed Text Value} (shownBy : project.ShownBy members)
    (once : (Keyed.keys (outer.filter fun member => [ProjectKey.options].contains member.1)).Nodup)
    (under : outer.get? ProjectKey.options = some (.object members)) : ofJson? (.object outer) = some project := by
  have options : Reading.field (outer.filter fun member => [ProjectKey.options].contains member.1)
      ProjectKey.options default Value.reading.options = pure project := by
    rw [Reading.field, Keyed.get?_filter, if_pos (by decide), under]
    exact shownBy.options_object
  rw [ofJson?, Reading.project, Reading.fields_object once, pure_bind, options]
  rfl

/-- The members of a project's options, each as the writer puts it. -/
theorem exists_shownBy (project : Project) :
    ∃ members, project.optionsJson = .object members ∧ project.ShownBy members := by
  have known : ProjectKey.known.Nodup := by decide
  refine ⟨_, rfl, ?_, fun key _ => .inl rfl⟩
  refine Keyed.nodup_keys_filter ?_ _
  exact known

/-- What is written of a project is read as this very project, its dependencies in their order. -/
theorem ofJson?_toJson (project : Project) : ofJson? project.toJson = some project := by
  obtain ⟨members, written, shownBy⟩ := project.exists_shownBy
  have once : [ProjectKey.options].Nodup := by decide
  rw [toJson, written]
  refine shownBy.ofJson?_object ?_ rfl
  refine Keyed.nodup_keys_filter ?_ _
  exact once

end Project

end UniversalModule
