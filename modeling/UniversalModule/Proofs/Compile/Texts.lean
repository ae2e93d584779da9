import UniversalModule.Compile

/-!
What an emitted module is with and without a map, and compilations that are given their texts:
reading gives the core's text and bundling gives the bundle's, whatever is asked for. Such a
compilation succeeds for all accepted options, in either order of its two jobs, and the bundle is
embedded exactly when a package is needed.
-/

namespace UniversalModule

def Fragment.source (fragment : Fragment) : Source := ⟨fragment.label, fragment.content⟩

def Emission.mapOf (file : Option Text) (steps : List Step) : SourceMap :=
  (track 0 { SourceMap.Builder.empty with file } steps).build

section Emitted

open Emission (Step moduleSteps render mapOf)

variable {options : Options} {core : Source} {fragments : List Fragment} {bundle : Option Text}
  {steps : List Step}

theorem emit_mapped (mapped : options.sourceMap = true) (outputFile : Path)
    (made : moduleSteps options core (fragments.map Fragment.source) bundle = steps) :
    emit options outputFile core fragments bundle =
      ⟨render 0 steps ++ (mapOf outputFile.fileName? steps).comment ++ ['\n'],
        some (mapOf outputFile.fileName? steps)⟩ := by
  unfold emit
  rw [if_pos mapped, ← made]
  rfl

theorem emit_unmapped (unmapped : options.sourceMap = false) (outputFile : Path)
    (made : moduleSteps options core (fragments.map Fragment.source) bundle = steps) :
    emit options outputFile core fragments bundle = ⟨render 0 steps, none⟩ := by
  unfold emit
  rw [if_neg (by simp [unmapped]), ← made]
  rfl

def mapEnding : Option SourceMap → Text
  | none => []
  | some map => map.comment ++ ['\n']

theorem emit_code (options : Options) (outputFile : Path) (core : Source) (fragments : List Fragment)
    (bundle : Option Text) :
    (emit options outputFile core fragments bundle).code =
      render 0 (moduleSteps options core (fragments.map Fragment.source) bundle) ++
        mapEnding (emit options outputFile core fragments bundle).sourceMap := by
  cases mapped : options.sourceMap with
  | true =>
      rw [emit_mapped mapped outputFile rfl]
      exact List.append_assoc _ _ _
  | false =>
      rw [emit_unmapped mapped outputFile rfl]
      exact (List.append_nil _).symm

theorem isSome_sourceMap_emit (options : Options) (outputFile : Path) (core : Source) (fragments : List Fragment)
    (bundle : Option Text) :
    (emit options outputFile core fragments bundle).sourceMap.isSome = options.sourceMap := by
  cases mapped : options.sourceMap with
  | true =>
      rw [emit_mapped mapped outputFile rfl]
      rfl
  | false =>
      rw [emit_unmapped mapped outputFile rfl]
      rfl

theorem emit_code_ne_nil (options : Options) (outputFile : Path) (core : Source) (fragments : List Fragment)
    (bundle : Option Text) : (emit options outputFile core fragments bundle).code ≠ [] := by
  have opening (more : List Step) : render 0 (.line "(function (global) \x7b" :: more) ≠ [] := by
    simp [render, Step.textAt]
  rw [emit_code]
  exact List.append_ne_nil_of_left_ne_nil (opening _) _

end Emitted

def Supplies.ofTexts (core bundle : Text) : Supplies Id where
  read _ := .ok core
  bundle _ _ := .ok bundle

namespace Options

def coreSource (options : Options) (content : Text) : Source := ⟨options.coreFilename.text, content⟩

def needsBundle (options : Options) : Bool := !(Resolution.bundledPackages options.requires).isEmpty

def embeddedBundle (options : Options) (bundle : Text) : Option Text :=
  if options.needsBundle then some bundle else none

def least : Options :=
  { Options.default with filename := some ⟨"module.js"⟩, coreFilename := ⟨"core.js"⟩ }

theorem validate_least : least.validate = .ok ⟨"module.js"⟩ := by
  have faultless : least.fault? = none := by decide +kernel
  have distinct : repeatedName? [] least.requires = none := rfl
  have named : (⟨"module.js"⟩ : Path).isEmpty = false := rfl
  unfold validate
  rw [faultless, distinct]
  simp only [least, named]
  rfl

theorem validate_sourceMap (options : Options) (sourceMap : Bool) :
    { options with sourceMap }.validate = options.validate := by
  simp only [validate, fault?]

end Options

/-- A module comes out where both the core and the bundle were obtained. -/
theorem Compile.finish_eq_ok_iff {options : Options} {outputFile : Path} {fragments : List Fragment}
    {core : Except IoFault Text} {bundle : Except BundleError (Option Text)} {output : Output} :
    finish options outputFile fragments core bundle = .ok output ↔
      ∃ content bundle?, core = .ok content ∧ bundle = .ok bundle? ∧
        emit options outputFile (options.coreSource content) fragments bundle? = output := by
  cases core with
  | error fault => simp [finish]
  | ok content =>
      cases bundle with
      | error error => simp [finish]
      | ok bundle? => simp [finish, Options.coreSource]

theorem compile_ofTexts {options : Options} {outputFile : Path}
    (accepted : options.validate = .ok outputFile) (core bundle : Text) (schedule : Schedule)
    (fragments : List Fragment) :
    compile (Supplies.ofTexts core bundle) schedule options fragments =
      .ok (emit options outputFile (options.coreSource core) fragments
        (options.embeddedBundle bundle)) := by
  have bundled : Compile.obtainBundle (Supplies.ofTexts core bundle) options =
      (.ok (options.embeddedBundle bundle) : Except BundleError (Option Text)) := by
    unfold Compile.obtainBundle Options.embeddedBundle Options.needsBundle
    cases Resolution.bundledPackages options.requires <;> rfl
  have obtained : Compile.obtain (Supplies.ofTexts core bundle) schedule options =
      ((.ok core, .ok (options.embeddedBundle bundle)) :
        Except IoFault Text × Except BundleError (Option Text)) := by
    unfold Compile.obtain
    rw [bundled]
    cases schedule <;> rfl
  unfold compile
  rw [accepted, obtained]
  rfl

end UniversalModule
