import Mathlib.Data.List.Forall2
import UniversalModule.Project.Reading

/-!
What a project file gives. A field of the project is what is read under its key, and that of the default
project where the key is absent; the dependencies are those of the entries in the order of the file.
-/

namespace UniversalModule

namespace Yaml.Attempt

variable {α β : Type}

def Gives (attempt : Attempt α) (value : α) : Prop := ∃ before after, attempt.run before = some (value, after)

theorem Gives.bind {first : Attempt α} {next : α → Attempt β} {value : β} (gives : Gives (first >>= next) value) :
    ∃ middle, Gives first middle ∧ Gives (next middle) value := by
  obtain ⟨before, after, ran⟩ := gives
  rw [StateT.run_bind] at ran
  obtain ⟨⟨middle, left⟩, ranFirst, ranNext⟩ := Option.bind_eq_some_iff.mp ran
  exact ⟨middle, ⟨before, left, ranFirst⟩, ⟨left, after, ranNext⟩⟩

theorem Gives.of_pure {first value : α} (gives : Gives (pure first) value) : first = value := by
  obtain ⟨before, after, ran⟩ := gives
  exact congrArg Prod.fst (Option.some.inj ran)

theorem Gives.mapM {read : α → Attempt β} {items : List α} {values : List β}
    (gives : Gives (items.mapM read) values) :
    List.Forall₂ (fun item value => Gives (read item) value) items values := by
  induction items generalizing values with
  | nil =>
      rw [List.mapM_nil] at gives
      rw [← gives.of_pure]
      exact .nil
  | cons item rest induction =>
      rw [List.mapM_cons] at gives
      obtain ⟨value, first, gives⟩ := gives.bind
      obtain ⟨others, more, gives⟩ := gives.bind
      rw [← gives.of_pure]
      exact .cons first (induction more)

end Yaml.Attempt

namespace Reading

open Yaml (Attempt)
open Yaml.Attempt (Gives)

variable {τ α : Type} {reading : Reading τ} {node : τ}

/-- What is read under a key, and what stands for it where the key is absent. -/
inductive Takes (fields : Keyed Text τ) (key : Text) (absent : α) (read : τ → Attempt α) : α → Prop where
  | absent (missing : fields.get? key = none) : Takes fields key absent read absent
  | given {node : τ} {value : α} (found : fields.get? key = some node) (gives : Gives (read node) value) :
      Takes fields key absent read value

theorem takes_of_gives {fields : Keyed Text τ} {key : Text} {absent value : α} {read : τ → Attempt α}
    (gives : Gives (field fields key absent read) value) : Takes fields key absent read value := by
  unfold field at gives
  cases found : fields.get? key with
  | none =>
      rw [found] at gives
      rw [← gives.of_pure]
      exact .absent found
  | some node =>
      rw [found] at gives
      exact .given found gives

/-- A project whose fields are read under their keys, and are those of the default project elsewhere. -/
structure Filled (reading : Reading τ) (fields : Keyed Text τ) (project : Project) : Prop where
  filename : Takes fields ProjectKey.filename Project.default.filename reading.optionalText project.filename
  dirname : Takes fields ProjectKey.dirname Project.default.dirname reading.optionalText project.dirname
  coreFilename : Takes fields ProjectKey.coreFilename Project.default.coreFilename reading.optionalText
    project.coreFilename
  exportName : Takes fields ProjectKey.exportName Project.default.exportName reading.text project.exportName
  runtimeVar : Takes fields ProjectKey.runtimeVar Project.default.runtimeVar reading.text project.runtimeVar
  exportAliases : Takes fields ProjectKey.exportAliases Project.default.exportAliases reading.texts
    project.exportAliases
  scopeTemplates : Takes fields ProjectKey.scopeTemplates Project.default.scopeTemplates reading.flag
    project.scopeTemplates
  sourceMap : Takes fields ProjectKey.sourceMap Project.default.sourceMap reading.flag project.sourceMap
  coreOptions : Takes fields ProjectKey.coreOptions Project.default.coreOptions reading.value project.coreOptions
  requires : Takes fields ProjectKey.requires Project.default.requires reading.requires project.requires
  bundler : Takes fields ProjectKey.bundler Project.default.bundler reading.text project.bundler

theorem filled_of_gives {project : Project} (gives : Gives (reading.options node) project) :
    ∃ fields, Gives (reading.fields ProjectKey.known node) fields ∧ reading.Filled fields project := by
  unfold options at gives
  obtain ⟨fields, known, gives⟩ := gives.bind
  obtain ⟨filename, filenameGiven, gives⟩ := gives.bind
  obtain ⟨dirname, dirnameGiven, gives⟩ := gives.bind
  obtain ⟨coreFilename, coreFilenameGiven, gives⟩ := gives.bind
  obtain ⟨exportName, exportNameGiven, gives⟩ := gives.bind
  obtain ⟨runtimeVar, runtimeVarGiven, gives⟩ := gives.bind
  obtain ⟨exportAliases, exportAliasesGiven, gives⟩ := gives.bind
  obtain ⟨scopeTemplates, scopeTemplatesGiven, gives⟩ := gives.bind
  obtain ⟨sourceMap, sourceMapGiven, gives⟩ := gives.bind
  obtain ⟨coreOptions, coreOptionsGiven, gives⟩ := gives.bind
  obtain ⟨requires, requiresGiven, gives⟩ := gives.bind
  obtain ⟨bundler, bundlerGiven, gives⟩ := gives.bind
  cases gives.of_pure
  refine ⟨fields, known, ?_⟩
  exact {
    filename := takes_of_gives filenameGiven
    dirname := takes_of_gives dirnameGiven
    coreFilename := takes_of_gives coreFilenameGiven
    exportName := takes_of_gives exportNameGiven
    runtimeVar := takes_of_gives runtimeVarGiven
    exportAliases := takes_of_gives exportAliasesGiven
    scopeTemplates := takes_of_gives scopeTemplatesGiven
    sourceMap := takes_of_gives sourceMapGiven
    coreOptions := takes_of_gives coreOptionsGiven
    requires := takes_of_gives requiresGiven
    bundler := takes_of_gives bundlerGiven }

def Lists (reading : Reading τ) (members : List (Text × τ)) (given : List (Text × DependencyEntry)) : Prop :=
  List.Forall₂ (fun member entry => entry.1 = member.1 ∧ Gives (reading.entry member.2) entry.2) members given

theorem lists_of_gives {dependencies : Dependencies} (gives : Gives (reading.requires node) dependencies) :
    ∃ members given, Gives (reading.members node) members ∧ reading.Lists members given ∧
      dependencies = .ofList given := by
  unfold requires at gives
  obtain ⟨members, read, gives⟩ := gives.bind
  obtain ⟨given, each, gives⟩ := gives.bind
  refine ⟨members, given, read, each.mapM.imp ?_, gives.of_pure.symm⟩
  intro member entry gives
  obtain ⟨found, first, gives⟩ := gives.bind
  rw [← gives.of_pure]
  exact ⟨rfl, first⟩

end Reading

namespace Project

open Yaml.Attempt (Gives)

/-- A project as a file says it: the fields stand under the key of the options. -/
inductive Holds (text : Text) : Project → Prop where
  | blank (blank : text.allBlank = true) : Holds text default
  | bare {document : Yaml.Document} {members : Keyed Text Yaml.Node}
      (parsed : Yaml.Document.ofText? text = some document)
      (outer : Gives (document.reading.fields [ProjectKey.options] document.root) members)
      (missing : members.get? ProjectKey.options = none) : Holds text default
  | options {document : Yaml.Document} {members fields : Keyed Text Yaml.Node} {node : Yaml.Node} {project : Project}
      (parsed : Yaml.Document.ofText? text = some document)
      (outer : Gives (document.reading.fields [ProjectKey.options] document.root) members)
      (found : members.get? ProjectKey.options = some node)
      (inner : Gives (document.reading.fields ProjectKey.known node) fields)
      (filled : document.reading.Filled fields project) : Holds text project

theorem holds_of_text {text : Text} {project : Project} (read : ofText? text = some project) :
    Holds text project := by
  unfold ofText? at read
  split at read
  · next blank =>
      cases read
      exact .blank blank
  obtain ⟨document, parsed, read⟩ := Option.bind_eq_some_iff.mp read
  obtain ⟨⟨loaded, after⟩, ran, same⟩ := Option.map_eq_some_iff.mp read
  cases same
  have gives : Gives (document.reading.project document.root) loaded := ⟨document.allowance, after, ran⟩
  unfold Reading.project at gives
  obtain ⟨members, outer, gives⟩ := gives.bind
  cases Reading.takes_of_gives gives with
  | absent missing => exact .bare parsed outer missing
  | given found gives =>
      obtain ⟨fields, inner, filled⟩ := Reading.filled_of_gives gives
      exact .options parsed outer found inner filled

end Project

end UniversalModule
