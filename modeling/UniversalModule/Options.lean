import UniversalModule.Failure
import UniversalModule.Identifier
import UniversalModule.Json.Value
import UniversalModule.WrapperNames

/-!
The options of one compilation and the checks that need nothing but them.
-/

namespace UniversalModule

def defaultExportName : Text := "BT"

def defaultRuntimeVar : Text := "bt"

structure Options where
  /-- The output file; it has to be given. -/
  filename : Option Path
  /-- The directory in which packages are bundled. -/
  dirname : Option Path
  coreFilename : Path
  /-- The constructor that the core defines and the first name under which the runtime is known. -/
  exportName : Text
  /-- The variable that holds the runtime. -/
  runtimeVar : Text
  exportAliases : List Text
  /-- Whether each fragment runs in a function of its own. -/
  scopeTemplates : Bool
  sourceMap : Bool
  coreOptions : Json.Value
  requires : List Requirement

namespace Options

def default : Options where
  filename := none
  dirname := none
  coreFilename := ⟨[]⟩
  exportName := defaultExportName
  runtimeVar := defaultRuntimeVar
  exportAliases := []
  scopeTemplates := true
  sourceMap := false
  coreOptions := .emptyObject
  requires := []

/-- The first requirement whose name came before. -/
def repeatedName? (seen : List Text) : List Requirement → Option Text
  | [] => none
  | requirement :: rest =>
      if requirement.name ∈ seen then some requirement.name
      else repeatedName? (requirement.name :: seen) rest

theorem repeatedName?_eq_none_iff {seen : List Text} {requires : List Requirement} :
    repeatedName? seen requires = none ↔
      (requires.map Requirement.name).Nodup ∧ ∀ requirement ∈ requires, requirement.name ∉ seen := by
  induction requires generalizing seen with
  | nil => simp [repeatedName?]
  | cons requirement rest induction =>
      simp only [repeatedName?]
      split
      · next known => simp [known]
      · next fresh =>
          rw [induction]
          simp only [List.map_cons, List.nodup_cons, List.mem_map, List.mem_cons, not_or,
            forall_eq_or_imp, fresh]
          constructor
          · rintro ⟨distinct, unseen⟩
            refine ⟨⟨?_, distinct⟩, by simp, fun r member => (unseen r member).2⟩
            rintro ⟨r, member, same⟩
            exact (unseen r member).1 same
          · rintro ⟨⟨apart, distinct⟩, _, unseen⟩
            exact ⟨distinct, fun r member => ⟨fun same => apart ⟨r, member, same⟩, unseen r member⟩⟩

/-- The first fault of the names, aliases and paths, the output file aside. -/
def fault? (options : Options) : Option OptionFault :=
  if !isIdentifier options.exportName then some (.notIdentifier .exportName options.exportName)
  else if !isIdentifier options.runtimeVar then some (.notIdentifier .runtimeVar options.runtimeVar)
  else if options.runtimeVar = options.exportName then some .sameNames
  else if options.exportName ∈ wrapperNames then some (.usedByWrapper .exportName options.exportName)
  else if options.runtimeVar ∈ wrapperNames then some (.usedByWrapper .runtimeVar options.runtimeVar)
  else if isParameterName options.runtimeVar then some (.looksLikeParameter options.runtimeVar)
  else if options.exportAliases.any Text.allBlank then some .blankAlias
  else if options.coreFilename.isEmpty then some .noCore
  else none

/-- Checks the options and gives the output file. -/
def validate (options : Options) : Except CompileError Path :=
  match options.filename with
  | none => .error .missingOutput
  | some filename =>
      if filename.isEmpty then .error .missingOutput
      else
        match options.fault? with
        | some fault => .error (.invalidOption fault)
        | none =>
            match repeatedName? [] options.requires with
            | some name => .error (.invalidRequire name .declaredTwice)
            | none => .ok filename

/-- The directory in which packages are bundled: the one that is set, else the output file's
parent, else the current one. -/
def bundleDir (options : Options) : Path :=
  match options.dirname with
  | some dirname => dirname
  | none =>
      match options.filename.bind Path.parent? with
      | none => ⟨['.']⟩
      | some parent => if parent.isEmpty then ⟨['.']⟩ else parent

/-- The aliases without the export name and without repetitions, in order. -/
def effectiveAliases (options : Options) : List Text :=
  (options.exportAliases.filter (· != options.exportName)).eraseDups

end Options

end UniversalModule
