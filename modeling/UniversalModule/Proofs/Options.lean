import UniversalModule.Options

/-!
Which options are accepted: those with an output file and without a fault, whose requirements have
distinct names.
-/

namespace UniversalModule.Options

structure Faultless (options : Options) : Prop where
  exportName : isIdentifier options.exportName = true
  runtimeVar : isIdentifier options.runtimeVar = true
  different : options.runtimeVar ≠ options.exportName
  exportFree : options.exportName ∉ wrapperNames
  runtimeFree : options.runtimeVar ∉ wrapperNames
  noParameter : isParameterName options.runtimeVar = false
  aliases : options.exportAliases.any Text.allBlank = false
  core : options.coreFilename.isEmpty = false

/-- A check is passed when it finds nothing and the checks after it are passed. -/
theorem check_eq_none_iff {found : Prop} [Decidable found] {fault : OptionFault}
    {others : Option OptionFault} :
    (if found then some fault else others) = none ↔ ¬found ∧ others = none := by
  split
  · next isFound => simp [isFound]
  · next missing => simp [missing]

theorem fault?_eq_none_iff {options : Options} : options.fault? = none ↔ options.Faultless := by
  unfold fault?
  simp only [check_eq_none_iff, Bool.not_eq_true', Bool.not_eq_false, Bool.not_eq_true, and_true]
  constructor
  · rintro ⟨exportName, runtimeVar, different, exportFree, runtimeFree, noParameter, aliases, core⟩
    exact ⟨exportName, runtimeVar, different, exportFree, runtimeFree, noParameter, aliases, core⟩
  · rintro ⟨exportName, runtimeVar, different, exportFree, runtimeFree, noParameter, aliases, core⟩
    exact ⟨exportName, runtimeVar, different, exportFree, runtimeFree, noParameter, aliases, core⟩

structure Accepted (options : Options) (outputFile : Path) : Prop where
  file : options.filename = some outputFile
  nonempty : outputFile.isEmpty = false
  faultless : options.Faultless
  distinct : (options.requires.map Requirement.name).Nodup

theorem repeatedName?_nil_eq_none_iff {requires : List Requirement} :
    repeatedName? [] requires = none ↔ (requires.map Requirement.name).Nodup := by
  rw [repeatedName?_eq_none_iff]
  exact ⟨And.left, fun distinct => ⟨distinct, fun _ _ => List.not_mem_nil⟩⟩

theorem validate_eq_ok_iff {options : Options} {outputFile : Path} :
    options.validate = .ok outputFile ↔ options.Accepted outputFile := by
  unfold validate
  constructor
  · intro validated
    split at validated
    · exact absurd validated (by simp)
    · next filename file =>
        split at validated
        · exact absurd validated (by simp)
        · next nonempty =>
            split at validated
            · exact absurd validated (by simp)
            · next faultless =>
                split at validated
                · exact absurd validated (by simp)
                · next distinct =>
                    cases validated
                    exact ⟨file, by simpa using nonempty, fault?_eq_none_iff.mp faultless,
                      repeatedName?_nil_eq_none_iff.mp distinct⟩
  · intro accepted
    rw [accepted.file]
    simp only [accepted.nonempty, fault?_eq_none_iff.mpr accepted.faultless,
      repeatedName?_nil_eq_none_iff.mpr accepted.distinct, Bool.false_eq_true, if_false]

/-- Requirements with distinct names are no reason to refuse options. -/
theorem validate_ne_invalidRequire {options : Options} (distinct : (options.requires.map Requirement.name).Nodup)
    (name : Text) (fault : Requirement.Fault) : options.validate ≠ .error (.invalidRequire name fault) := by
  intro refused
  unfold validate at refused
  rw [repeatedName?_nil_eq_none_iff.mpr distinct] at refused
  split at refused
  · exact absurd refused (by simp)
  · split at refused
    · exact absurd refused (by simp)
    · split at refused <;> exact absurd refused (by simp)

/-- Any requirements with distinct names are accepted where others are. -/
theorem validate_requires {options : Options} {outputFile : Path}
    (accepted : options.validate = .ok outputFile) {requires : List Requirement}
    (distinct : (requires.map Requirement.name).Nodup) :
    { options with requires }.validate = .ok outputFile := by
  obtain ⟨file, nonempty, faultless, -⟩ := validate_eq_ok_iff.mp accepted
  refine validate_eq_ok_iff.mpr ⟨file, nonempty, ?_, distinct⟩
  obtain ⟨exportName, runtimeVar, different, exportFree, runtimeFree, noParameter, aliases, core⟩ := faultless
  exact ⟨exportName, runtimeVar, different, exportFree, runtimeFree, noParameter, aliases, core⟩

theorem validate_filename {options : Options} {outputFile other : Path}
    (accepted : options.validate = .ok outputFile) (nonempty : other.isEmpty = false) :
    { options with filename := some other }.validate = .ok other := by
  obtain ⟨-, -, faultless, distinct⟩ := validate_eq_ok_iff.mp accepted
  have same : ({ options with filename := some other } : Options).Faultless := { faultless with }
  exact validate_eq_ok_iff.mpr ⟨rfl, nonempty, same, distinct⟩

end UniversalModule.Options
