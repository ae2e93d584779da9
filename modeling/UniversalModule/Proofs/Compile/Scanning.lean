import UniversalModule.Proofs.Compile.Texts
import UniversalModule.Proofs.Emission.Scanning
import UniversalModule.Proofs.Options
import UniversalModule.Proofs.SourceMap.Script

/-!
Nothing that is written into a module gets out of its place there: the scanner takes the whole
module, whatever the options, names and labels are, if it takes the embedded texts.
-/

namespace UniversalModule

open Scanner (Neutral Accepted)

theorem Options.identifiers_of_accepted {options : Options} {outputFile : Path}
    (accepted : options.validate = .ok outputFile) :
    isIdentifier options.exportName = true ∧ isIdentifier options.runtimeVar = true := by
  have faultless := (validate_eq_ok_iff.mp accepted).faultless
  exact ⟨faultless.exportName, faultless.runtimeVar⟩

theorem isLineEnd_of_isWritten {c : Char} (written : Base64.isWritten c = true) :
    Scanner.isLineEnd c = false := by
  rw [← Bool.not_eq_true]
  intro ended
  simp only [Scanner.isLineEnd, Bool.or_eq_true, beq_iff_eq] at ended
  rcases ended with ((rfl | rfl) | rfl) | rfl <;> exact absurd written (by decide +kernel)

/-- The comment that carries a map stays on its line, whatever the map's names and texts are. -/
theorem isLineEnd_mapComment (map : SourceMap) : ∀ c ∈ map.comment, Scanner.isLineEnd c = false := by
  have fixed : (SourceMap.commentStart ++ SourceMap.uriStart).all (fun c => !Scanner.isLineEnd c) = true := by
    decide
  intro c member
  rw [SourceMap.comment, SourceMap.dataUri, ← List.append_assoc, List.mem_append] at member
  rcases member with start | digit
  · simpa using List.all_eq_true.mp fixed c start
  · exact isLineEnd_of_isWritten (Base64.isWritten_of_mem_encode digit)

theorem neutral_mapComment (map : SourceMap) : Neutral (map.comment ++ ['\n']) := by
  have single : ∀ c ∈ ("# sourceMappingURL=" : Text) ++ map.dataUri, Scanner.isLineEnd c = false := by
    intro c member
    exact isLineEnd_mapComment map c (List.mem_cons_of_mem '/' (List.mem_cons_of_mem '/' member))
  exact Scanner.neutral_comment single

/-- The scanner takes the module of any accepted options and any labels, with the brackets of all
its blocks closed at its end, if it takes the core, the fragments and the bundle. -/
theorem compile_scanned {options : Options} {outputFile : Path}
    (accepted : options.validate = .ok outputFile) {core bundle : Text} {fragments : List Fragment}
    (coreAccepted : Accepted core.terminated)
    (fragmentsAccepted : ∀ fragment ∈ fragments, Accepted fragment.content.terminated)
    (bundleAccepted : Accepted bundle.terminated) (schedule : Schedule) :
    ∃ output, compile (Supplies.ofTexts core bundle) schedule options fragments = .ok output ∧
      Accepted output.code := by
  obtain ⟨exportName, runtime⟩ := Options.identifiers_of_accepted accepted
  have steps : Emission.NeutralSteps (Emission.moduleSteps options (options.coreSource core)
      (fragments.map Fragment.source) (options.embeddedBundle bundle)) := by
    apply Emission.neutral_moduleSteps (Scanner.neutral_of_isIdentifier exportName)
      (Scanner.neutral_of_isIdentifier runtime)
    · exact coreAccepted.neutral (Text.complete_terminated core)
    · intro source member
      obtain ⟨fragment, among, rfl⟩ := List.mem_map.mp member
      exact (fragmentsAccepted fragment among).neutral (Text.complete_terminated fragment.content)
    · intro text embedded
      unfold Options.embeddedBundle at embedded
      split at embedded
      · cases embedded
        exact bundleAccepted.neutral (Text.complete_terminated bundle)
      · exact absurd embedded (by simp)
  refine ⟨_, compile_ofTexts accepted core bundle schedule fragments, Neutral.accepted ?_⟩
  -- The comment with the map follows the module, outside of all its brackets.
  cases mapped : options.sourceMap with
  | true =>
      rw [emit_mapped mapped outputFile rfl, List.append_assoc]
      exact (steps 0).append (neutral_mapComment _)
  | false =>
      rw [emit_unmapped mapped outputFile rfl]
      exact steps 0

theorem compile_scanned_least :
    Options.least.validate = .ok ⟨"module.js"⟩ ∧ Accepted (Text.terminated "function BT() \x7b\x7d") ∧
    (∀ fragment ∈ [Fragment.mk ⟨"a\n(.js"⟩ none "f(1); // ["], Accepted fragment.content.terminated) ∧
    Accepted (Text.terminated []) ∧
    ∃ output, compile (Supplies.ofTexts "function BT() \x7b\x7d" []) .coreFirst Options.least
        [⟨⟨"a\n(.js"⟩, none, "f(1); // ["⟩] = .ok output ∧ Accepted output.code := by
  have core : Accepted (Text.terminated "function BT() \x7b\x7d") := Neutral.accepted (by decide)
  have fragments : ∀ fragment ∈ [Fragment.mk ⟨"a\n(.js"⟩ none "f(1); // ["],
      Accepted fragment.content.terminated := by
    intro fragment member
    rw [List.mem_singleton.mp member]
    exact Neutral.accepted (by decide)
  have bundle : Accepted (Text.terminated []) := Neutral.accepted (by decide)
  exact ⟨Options.validate_least, core, fragments, bundle,
    compile_scanned Options.validate_least core fragments bundle .coreFirst⟩

end UniversalModule
