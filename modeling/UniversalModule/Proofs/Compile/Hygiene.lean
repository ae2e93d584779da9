import UniversalModule.Proofs.Compile.Texts
import UniversalModule.Proofs.Emission.Hygiene
import UniversalModule.Proofs.Identifier

/-!
Hygiene of emitted modules. The names that options give are of the plain sort and differ from all
names that a module binds or expects around them, handlers bind distinct names, and so every name in
a module's own text leads to what it stands for.
-/

namespace UniversalModule

/-- Letters and digits of ASCII, `_` and `$`, with no digit in front. -/
def IsPlainName (name : Text) : Prop :=
  (∀ c ∈ name, ('a' ≤ c ∧ c ≤ 'z') ∨ ('A' ≤ c ∧ c ≤ 'Z') ∨ ('0' ≤ c ∧ c ≤ '9') ∨ c = '_' ∨ c = '$') ∧
    ∃ first rest, name = first :: rest ∧ ¬('0' ≤ first ∧ first ≤ '9')

theorem isPlainName_of_isIdentifier {name : Text} (identifier : isIdentifier name = true) :
    IsPlainName name := by
  cases name with
  | nil => exact absurd identifier (by decide)
  | cons first rest =>
      simp only [isIdentifier, Bool.and_eq_true] at identifier
      obtain ⟨⟨start, others⟩, -⟩ := identifier
      refine ⟨?_, first, rest, rfl, not_digit_of_isIdentifierStart start⟩
      intro c member
      rcases List.mem_cons.mp member with rfl | later
      · rcases range_of_isIdentifierStart start with lower | upper | other
        · exact .inl lower
        · exact .inr (.inl upper)
        · exact .inr (.inr (.inr other))
      · exact range_of_isIdentifierPart (List.all_eq_true.mp others c later)

/-- The names that a module's function and the function around its bundle bind, apart from the
runtime's. -/
def boundNames : List Text := [globalName, initName, flagName, requireName, "require"]

def freeNames : List Text := ["modules", "module", "exports"]

namespace Options

/-- The parameters of the handler that defines the runtime as a named module. -/
def handlerParameters (options : Options) : List Text :=
  provideName :: Emission.parameterNames (Resolution.namedModules options.requires).length

structure Hygienic (options : Options) : Prop where
  parameters : options.handlerParameters.Nodup
  runtime : options.runtimeVar ∉ options.handlerParameters ++ boundNames ++ freeNames
  exported : options.exportName ≠ options.runtimeVar ∧ options.exportName ∉ boundNames ++ freeNames
  /-- The handler does not hide what its statements use of the names around it. -/
  handler : ∀ parameter ∈ options.handlerParameters,
    parameter ∉ [globalName, initName, options.runtimeVar]
  plain : IsPlainName options.exportName ∧ IsPlainName options.runtimeVar

theorem boundNames_append_freeNames_subset : ∀ name ∈ boundNames ++ freeNames, name ∈ wrapperNames := by
  decide

theorem runtimeVar_notMem_handlerParameters {options : Options} (faultless : options.Faultless) :
    options.runtimeVar ∉ options.handlerParameters := by
  intro member
  rcases List.mem_cons.mp member with provide | parameter
  · exact faultless.runtimeFree (provide ▸ (by decide : provideName ∈ wrapperNames))
  · obtain ⟨index, -, same⟩ := Emission.mem_parameterNames.mp parameter
    exact parameterName_ne faultless.noParameter index same

theorem Faultless.hygienic {options : Options} (faultless : options.Faultless) : options.Hygienic where
  parameters := Emission.nodup_handlerNames _
  runtime := by
    rw [List.append_assoc, List.mem_append, not_or]
    exact ⟨runtimeVar_notMem_handlerParameters faultless,
      fun member => faultless.runtimeFree (boundNames_append_freeNames_subset _ member)⟩
  exported := ⟨Ne.symm faultless.different,
    fun member => faultless.exportFree (boundNames_append_freeNames_subset _ member)⟩
  handler := by
    intro parameter member used
    simp only [List.mem_cons, List.not_mem_nil, or_false] at used
    rcases List.mem_cons.mp member with rfl | numbered
    · rcases used with same | same | same
      · exact absurd same (by decide)
      · exact absurd same (by decide)
      · exact runtimeVar_notMem_handlerParameters faultless (same ▸ member)
    · obtain ⟨index, -, rfl⟩ := Emission.mem_parameterNames.mp numbered
      rcases used with same | same | same
      · exact parameterName_ne (by decide) index same
      · exact parameterName_ne (by decide) index same
      · exact runtimeVar_notMem_handlerParameters faultless (same ▸ member)
  plain := ⟨isPlainName_of_isIdentifier faultless.exportName,
    isPlainName_of_isIdentifier faultless.runtimeVar⟩

def script (options : Options) (core bundle : Text) (fragments : List Fragment) : Emission.Named :=
  Emission.moduleScript options (options.coreSource core) (fragments.map Fragment.source)
    (options.embeddedBundle bundle)

theorem isSome_embeddedBundle {options : Options}
    (needed : Resolution.bundledPackages options.requires ≠ []) (bundle : Text) :
    (options.embeddedBundle bundle).isSome = true := by
  rw [embeddedBundle, needsBundle, if_pos (by simp [needed])]
  rfl

end Options

/-- Accepted options give names that no binding of the module takes away: those of its handlers'
parameters, of its functions' variables and of what it expects around it are all different from them.
In every module that is made, each name of its own text leads to what it stands for. -/
theorem compile_hygienic {options : Options} {outputFile : Path}
    (accepted : options.validate = .ok outputFile) :
    options.Hygienic ∧
    ∀ (core bundle : Text) (schedule : Schedule) (fragments : List Fragment), ∃ output,
      compile (Supplies.ofTexts core bundle) schedule options fragments = .ok output ∧
      output.code = (options.script core bundle fragments).text options.naming ++ mapEnding output.sourceMap ∧
      output.sourceMap.isSome = options.sourceMap ∧
      (options.script core bundle fragments).isExplicit = true ∧
      Script.Resolved options.naming Referent.isBound [] (options.script core bundle fragments) := by
  have faultless := (Options.validate_eq_ok_iff.mp accepted).faultless
  refine ⟨faultless.hygienic, fun core bundle schedule fragments => ?_⟩
  have fits : Emission.Fitting options [] [] (options.script core bundle fragments) :=
    Emission.fitting_moduleScript faultless (fun needed => Options.isSome_embeddedBundle needed bundle) _ _
  refine ⟨_, compile_ofTexts accepted core bundle schedule fragments, ?_, isSome_sourceMap_emit _ _ _ _ _,
    fits.explicit, fits.resolved⟩
  rw [emit_code, (Emission.shows_moduleSteps options _ _ _).text]
  rfl

def Options.modular : Options :=
  { least with requires := [
      ⟨"$", [.global ["jQuery"], .named "jquery"], Requirement.fault?_eq_none_iff.mp (by decide)⟩,
      ⟨"vow", [.named "vow"], Requirement.fault?_eq_none_iff.mp (by decide)⟩] }

theorem compile_hygienic_modular :
    Options.modular.validate = .ok ⟨"module.js"⟩ ∧
    Options.modular.handlerParameters = ["provide", "__dep0", "__dep1"].map String.toList ∧
    Options.modular.Hygienic ∧
    ∃ output,
      compile (Supplies.ofTexts "core" []) .coreFirst Options.modular [] = .ok output ∧
      output.code = (Options.modular.script "core" [] []).text Options.modular.naming ∧
      Script.Resolved Options.modular.naming Referent.isBound [] (Options.modular.script "core" [] []) := by
  have accepted : Options.modular.validate = .ok ⟨"module.js"⟩ :=
    Options.validate_requires Options.validate_least (by decide)
  obtain ⟨hygienic, modules⟩ := compile_hygienic accepted
  obtain ⟨output, made, code, mapped, -, resolved⟩ := modules "core" [] .coreFirst []
  have unmapped := Option.not_isSome_iff_eq_none.mp (Bool.eq_false_iff.mp mapped)
  rw [unmapped, mapEnding, List.append_nil] at code
  exact ⟨accepted, by decide, hygienic, output, made, code, resolved⟩

end UniversalModule
