import UniversalModule.Proofs.Emission.Parts
import UniversalModule.Proofs.Script.Literals

/-!
The scanner over the steps of a module. Every line closes what it opens, apart from the lines that
open or close a block; each such line has its counterpart, and labels stay within their comments.
So the whole module is neutral as soon as the texts that it embeds are.
-/

namespace UniversalModule.Emission

open Scanner

/-- The text of the steps leads from code to code, however deep the steps are indented. -/
def LeadsSteps (before after : List Char) (steps : List Step) : Prop :=
  ∀ depth, Leads before after (render depth steps)

def NeutralSteps (steps : List Step) : Prop := LeadsSteps [] [] steps

namespace LeadsSteps

theorem nil (awaited : List Char) : LeadsSteps awaited awaited [] := fun _ => Leads.nil awaited

theorem append {before middle after : List Char} {first second : List Step}
    (left : LeadsSteps before middle first) (right : LeadsSteps middle after second) :
    LeadsSteps before after (first ++ second) := by
  intro depth
  rw [render_append]
  exact (left depth).append (right (depthAfter depth first))

theorem cons {before middle after : List Char} {step : Step} {rest : List Step}
    (first : LeadsSteps before middle [step]) (others : LeadsSteps middle after rest) :
    LeadsSteps before after (step :: rest) := first.append others

theorem inside {before after : List Char} {steps : List Step} (leads : LeadsSteps before after steps)
    (outer : List Char) : LeadsSteps (before ++ outer) (after ++ outer) steps :=
  fun depth => (leads depth).inside outer

end LeadsSteps

theorem NeutralSteps.leads {steps : List Step} (neutral : NeutralSteps steps) (awaited : List Char) :
    LeadsSteps awaited awaited steps := LeadsSteps.inside neutral awaited

theorem NeutralSteps.append {first second : List Step} (left : NeutralSteps first)
    (right : NeutralSteps second) : NeutralSteps (first ++ second) := LeadsSteps.append left right

theorem neutral_indentation (depth : Nat) : Neutral (indentation depth) := by
  refine neutral_plain fun c member => ?_
  rw [List.eq_of_mem_replicate member]
  decide

theorem leads_endedLine {before after : List Char} {text : Text}
    (leads : Leads before after (text ++ ['\n'])) : LeadsSteps before after [.line text] := by
  intro depth
  have whole := ((neutral_indentation depth).leads before).append leads
  have rendered : render depth [.line text] = indentation depth ++ (text ++ ['\n']) := by
    simp [render, Step.textAt]
  rw [rendered]
  exact whole

theorem leads_line {before after : List Char} {text : Text} (leads : Leads before after text) :
    LeadsSteps before after [.line text] :=
  leads_endedLine (leads.append (Neutral.leads (by decide) after))

theorem neutral_line {text : Text} (neutral : Neutral text) : NeutralSteps [.line text] :=
  leads_line neutral

theorem neutral_indent : NeutralSteps [.indent] := fun _ => Leads.nil []

theorem neutral_outdent : NeutralSteps [.outdent] := fun _ => Leads.nil []

theorem neutral_embed {source : Source} (neutral : Neutral source.content.terminated) :
    NeutralSteps [.embed source] := by
  intro depth
  have text : render depth [.embed source] = source.content.terminated := List.append_nil _
  rw [text]
  exact neutral

theorem neutral_splice {text : Text} (neutral : Neutral text) : NeutralSteps [.splice text] := by
  intro depth
  have rendered : render depth [.splice text] = text := List.append_nil _
  rw [rendered]
  exact neutral

theorem neutral_steps {steps : List Step} (each : ∀ step ∈ steps, NeutralSteps [step]) :
    NeutralSteps steps := by
  induction steps with
  | nil => exact LeadsSteps.nil []
  | cons step rest induction =>
      exact (each step List.mem_cons_self).append
        (induction fun other member => each other (List.mem_cons_of_mem step member))

theorem neutral_lines {α : Type} {items : List α} {text : α → Text}
    (each : ∀ item ∈ items, Neutral (text item)) :
    NeutralSteps (items.map fun item => .line (text item)) := by
  apply neutral_steps
  intro step member
  obtain ⟨item, among, rfl⟩ := List.mem_map.mp member
  exact neutral_line (each item among)

theorem neutral_flatMap {α : Type} {items : List α} {steps : α → List Step}
    (each : ∀ item ∈ items, NeutralSteps (steps item)) : NeutralSteps (items.flatMap steps) := by
  induction items with
  | nil => exact LeadsSteps.nil []
  | cons item rest induction =>
      rw [List.flatMap_cons]
      exact (each item List.mem_cons_self).append
        (induction fun other member => each other (List.mem_cons_of_mem item member))

/-- A block between a line that opens brackets and one that closes them. -/
theorem neutral_block {first last : Text} {inner : List Step} (brackets : List Char)
    (opens : Leads [] brackets first) (neutral : NeutralSteps inner) (closes : Leads brackets [] last) :
    NeutralSteps ([.line first] ++ inner ++ [.line last]) :=
  ((leads_line opens).append (neutral.leads brackets)).append (leads_line closes)

theorem isLineEnd_flatLabel {label : Text} {c : Char} (member : c ∈ flatLabel label) :
    isLineEnd c = false := by
  obtain ⟨d, -, rfl⟩ := List.mem_map.mp member
  split
  · decide
  · next other =>
      simp only [not_or] at other
      simp [isLineEnd, other]

theorem neutral_marker (start : Text) (single : start.all (fun c => !isLineEnd c) = true) (label : Text) :
    NeutralSteps [.line ('/' :: '/' :: (start ++ flatLabel label))] := by
  apply leads_endedLine
  apply neutral_comment
  intro c member
  rcases List.mem_append.mp member with known | shown
  · simpa using List.all_eq_true.mp single c known
  · exact isLineEnd_flatLabel shown

theorem neutral_marked {steps : List Step} (neutral : NeutralSteps steps) (label : Text) :
    NeutralSteps (marked label steps) := by
  have begins : NeutralSteps [.line (beginStart ++ flatLabel label)] :=
    neutral_marker " begin: " (by decide) label
  have ends : NeutralSteps [.line (endStart ++ flatLabel label)] :=
    neutral_marker " end: " (by decide) label
  exact begins.append (neutral.append ends)

theorem neutral_coreBlock {core : Source} (neutral : Neutral core.content.terminated) :
    NeutralSteps (coreBlock core) := neutral_marked (neutral_embed neutral) core.label

theorem neutral_fragmentBlock {fragment : Source} (neutral : Neutral fragment.content.terminated)
    (isolated : Bool) : NeutralSteps (fragmentBlock isolated fragment) := by
  refine neutral_marked ?_ fragment.label
  cases isolated with
  | true => exact neutral_block ['\x7d', ')'] (by decide) (neutral_embed neutral) (by decide)
  | false => exact neutral_embed neutral

theorem neutral_initRoutine {fragments : List Source}
    (neutral : ∀ fragment ∈ fragments, Neutral fragment.content.terminated) (isolated : Bool) :
    NeutralSteps (initRoutine isolated fragments) :=
  neutral_block ['\x7d'] (by decide)
    (neutral_flatMap fun fragment member => neutral_fragmentBlock (neutral fragment member) isolated)
    (by decide)

section Names

variable {options : Options}

theorem neutral_setup (exportName : Neutral options.exportName) (runtime : Neutral options.runtimeVar) :
    NeutralSteps (setup options) := by
  have made : Neutral ("var " ++ options.runtimeVar ++ " = new " ++ options.exportName ++ "();") :=
    Neutral.append (Neutral.append (Neutral.append (Neutral.append (by decide) runtime) (by decide))
      exportName) (by decide)
  have called : Neutral (options.runtimeVar ++ ".setOptions(" ++ options.coreOptions.literal ++ ");") := by
    have call := neutral_between ".setOptions(" ");" [')'] (neutral_render options.coreOptions)
      (by decide) (by decide)
    have whole := runtime.append call
    rw [← List.append_assoc, ← List.append_assoc] at whole
    exact whole
  have library : Neutral (options.runtimeVar ++ ".lib = " ++ options.runtimeVar ++ ".lib || \x7b\x7d;") :=
    Neutral.append (Neutral.append (Neutral.append runtime (by decide)) runtime) (by decide)
  exact ((neutral_line made).append (neutral_line called)).append (neutral_line library)

theorem neutral_assignmentLines (runtime : Neutral options.runtimeVar) (branch : Branch) :
    NeutralSteps (assignmentLines options branch) :=
  neutral_lines fun assignment _ => neutral_assignment runtime assignment

theorem neutral_definition {name : Text} {modules parameters : List Text} {handler : List Step}
    (bound : ∀ parameter ∈ parameters, Neutral parameter) (neutral : NeutralSteps handler) :
    NeutralSteps (definition name modules parameters handler) := by
  have literals : Neutral (Text.joinWith ", " (modules.map Json.stringLiteral)) := by
    refine neutral_joinWith (by decide) fun literal member => ?_
    obtain ⟨dependency, -, rfl⟩ := List.mem_map.mp member
    exact neutral_stringLiteral dependency
  have bindings : Neutral (Text.joinWith ", " (provideName :: parameters)) :=
    neutral_joinWith (by decide) (List.forall_mem_cons.mpr ⟨by decide, bound⟩)
  have named : Leads [] [')'] ("modules.define(" ++ Json.stringLiteral name) :=
    Leads.append (by decide) ((neutral_stringLiteral name).leads [')'])
  have depends : Leads [] [']', ')'] ("modules.define(" ++ Json.stringLiteral name ++ ", [" ++
      Text.joinWith ", " (modules.map Json.stringLiteral)) :=
    (named.append (by decide)).append (literals.leads [']', ')'])
  have head : Leads [] ['\x7d', ')'] ("modules.define(" ++ Json.stringLiteral name ++ ", [" ++
      Text.joinWith ", " (modules.map Json.stringLiteral) ++ "], function (" ++
      Text.joinWith ", " (provideName :: parameters) ++ ") \x7b") :=
    Leads.append (Leads.append (Leads.append depends (by decide)) (bindings.leads [')', ')'])) (by decide)
  have inner := neutral.leads ['\x7d', ')']
  exact (leads_line head).cons ((neutral_indent.leads _).cons (inner.append
    ((neutral_outdent.leads _).cons (leads_line (by decide)))))

theorem neutral_callInit : NeutralSteps [callInit] := neutral_line (by decide)

theorem neutral_lowerFlag : NeutralSteps [lowerFlag] := neutral_line (by decide)

/-- The statement that puts the runtime under a name, on an object. -/
theorem neutral_publication {object runtime : Text} (known : Neutral object) (neutral : Neutral runtime)
    (name : Text) : Neutral (subscriptChain object [name] ++ " = " ++ runtime ++ ";") :=
  Neutral.append (Neutral.append (Neutral.append (neutral_subscriptChain known [name]) (by decide)) neutral)
    (by decide)

theorem neutral_parameterNames (count : Nat) : ∀ parameter ∈ parameterNames count, Neutral parameter := by
  intro parameter member
  obtain ⟨index, -, rfl⟩ := List.mem_map.mp member
  exact neutral_parameterName index

/-- The first branch leaves open the block that the second one closes. -/
theorem leads_namedModuleBranch (runtime : Neutral options.runtimeVar) :
    LeadsSteps [] ['\x7d'] (namedModuleBranch options) := by
  have provided : NeutralSteps [.line (provideName ++ "(" ++ options.runtimeVar ++ ");")] :=
    neutral_line (neutral_between (provideName ++ "(") ");" [')'] runtime (by decide) (by decide))
  have aliases : NeutralSteps (options.effectiveAliases.flatMap fun name =>
      definition name [options.exportName] ["runtime"] [.line (provideName ++ "(runtime);")]) :=
    neutral_flatMap fun name _ => neutral_definition (by decide) (neutral_line (by decide))
  have handler := (neutral_assignmentLines runtime .namedModule).append (neutral_callInit.append provided)
  have opened : LeadsSteps [] ['\x7d'] [.line "if (typeof modules === \"object\") \x7b", .indent] :=
    (leads_line (by decide)).cons (neutral_indent.leads ['\x7d'])
  have closed := (neutral_lowerFlag.append neutral_outdent).leads ['\x7d']
  exact LeadsSteps.append (LeadsSteps.append (opened.append
    ((neutral_definition (neutral_parameterNames _) handler).leads ['\x7d']))
      (aliases.leads ['\x7d'])) closed

theorem leads_commonJsBranch (runtime : Neutral options.runtimeVar) :
    LeadsSteps ['\x7d'] [] (commonJsBranch options) := by
  have aliases : NeutralSteps (options.effectiveAliases.map fun name =>
      .line (subscriptChain options.runtimeVar [name] ++ " = " ++ options.runtimeVar ++ ";")) :=
    neutral_lines fun name _ => neutral_publication runtime runtime name
  have exported : NeutralSteps [.line ("module.exports = " ++ options.runtimeVar ++ ";")] :=
    neutral_line (Neutral.append (Neutral.append (by decide) runtime) (by decide))
  have opened : LeadsSteps ['\x7d'] ['\x7d']
      [.line "\x7d else if (typeof exports === \"object\") \x7b", .indent] :=
    (leads_line (by decide)).cons (neutral_indent.leads ['\x7d'])
  have last : LeadsSteps ['\x7d'] [] [.line "\x7d"] := leads_line (by decide)
  have assigned := (neutral_assignmentLines runtime .commonJs).leads ['\x7d']
  have called := neutral_callInit.leads ['\x7d']
  have closed := ((exported.append (neutral_lowerFlag.append neutral_outdent)).leads ['\x7d']).append last
  exact (((opened.append assigned).append called).append (aliases.leads ['\x7d'])).append closed

theorem neutral_plainBranch (runtime : Neutral options.runtimeVar) : NeutralSteps (plainBranch options) := by
  have names : NeutralSteps ((options.exportName :: options.effectiveAliases).map fun name =>
      .line (subscriptChain globalName [name] ++ " = " ++ options.runtimeVar ++ ";")) :=
    neutral_lines fun name _ => neutral_publication (by decide) runtime name
  have opened : LeadsSteps [] ['\x7d'] [.line ("if (" ++ flagName ++ ") \x7b"), .indent] :=
    (leads_line (by decide)).cons (neutral_indent.leads ['\x7d'])
  have closed : LeadsSteps ['\x7d'] [] [.outdent, .line "\x7d"] :=
    (neutral_outdent.leads ['\x7d']).cons (leads_line (by decide))
  have assigned := (neutral_assignmentLines runtime .plain).leads ['\x7d']
  have called := neutral_callInit.leads ['\x7d']
  exact (((opened.append assigned).append called).append (names.leads ['\x7d'])).append closed

theorem neutral_closed {text : Text} (neutral : Neutral text.terminated) : Neutral text.closed := by
  by_cases empty : text = []
  · rw [empty]
    decide
  · rw [← Text.terminated_eq_closed empty]
    exact neutral

theorem neutral_wrapBundle {bundle : Text} (neutral : Neutral bundle.terminated) :
    Neutral (wrapBundle bundle) := by
  have opened : Leads [] ['\x7d', ')'] ("var " ++ requireName ++ " = (function () \x7b\n" ++ "var require;\n") := by
    decide
  have inner := opened.append ((neutral_closed neutral).leads ['\x7d', ')'])
  have returned : Leads ['\x7d', ')'] ['\x7d', ')'] "return require;\n" := by decide
  exact (inner.append returned).append (show Leads ['\x7d', ')'] [] "\x7d)();\n" by decide)

theorem neutral_exportsPart (runtime : Neutral options.runtimeVar) {bundle : Option Text}
    (neutral : ∀ text, bundle = some text → Neutral text.terminated) :
    NeutralSteps (exportsPart options bundle) := by
  have flag : NeutralSteps [.line ("var " ++ flagName ++ " = true;")] := neutral_line (by decide)
  have shared : NeutralSteps (bundlePart bundle) := by
    cases bundle with
    | none => exact LeadsSteps.nil []
    | some text => exact neutral_splice (neutral_wrapBundle (neutral text rfl))
  have systems := (leads_namedModuleBranch runtime).append (leads_commonJsBranch runtime)
  rw [exportsPart_eq]
  exact (flag.append shared).append (systems.append (neutral_plainBranch runtime))

/-- A module is neutral when its texts are, each with a line feed at its end. -/
theorem neutral_moduleSteps (exportName : Neutral options.exportName) (runtime : Neutral options.runtimeVar)
    {core : Source} {fragments : List Source} {bundle : Option Text}
    (coreNeutral : Neutral core.content.terminated)
    (fragmentsNeutral : ∀ fragment ∈ fragments, Neutral fragment.content.terminated)
    (bundleNeutral : ∀ text, bundle = some text → Neutral text.terminated) :
    NeutralSteps (moduleSteps options core fragments bundle) := by
  have opened : LeadsSteps [] ['\x7d', ')'] [.line "(function (global) \x7b"] := leads_line (by decide)
  have closed : LeadsSteps ['\x7d', ')'] []
      [.line "\x7d)(typeof window !== \"undefined\" ? window : global);"] := leads_line (by decide)
  have coreSteps := (neutral_coreBlock coreNeutral).leads ['\x7d', ')']
  have made := (neutral_setup exportName runtime).leads ['\x7d', ')']
  have routine := (neutral_initRoutine fragmentsNeutral options.scopeTemplates).leads ['\x7d', ')']
  have exports := (neutral_exportsPart runtime bundleNeutral).leads ['\x7d', ')']
  exact ((((opened.append coreSteps).append made).append routine).append exports).append closed

end Names

end UniversalModule.Emission
