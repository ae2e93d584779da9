import UniversalModule.Proofs.Compile.Layout
import UniversalModule.Proofs.Emission.Branches
import UniversalModule.Proofs.SourceMap.Script

/-!
The names under which a module hands out its runtime, read back from the three branches. All three
have the same aliases; the named modules and a plain script have the export name besides, once.
-/

namespace UniversalModule

open Emission

/-- The branches of a module hand its runtime out under the export name and the given names. -/
structure Exports (options : Options) (names : List Text) (code : Text) : Prop where
  fresh : options.exportName ∉ names
  definitions : (branchStatements .namedModule code).filterMap defined? =
    (options.exportName, Resolution.modules options.requires) ::
      names.map fun name => (name, [options.exportName])
  commonJs : (branchStatements .commonJs code).filterMap
    (exported? options.runtimeVar options.runtimeVar) = names
  plain : (branchStatements .plain code).filterMap (exported? globalName options.runtimeVar) =
    options.exportName :: names
  /-- The fragments run once, when all dependencies are in place. -/
  calls : ∀ branch, ∃ before after,
    branchStatements branch code = before ++ initCall :: after ∧
      initCall ∉ before ∧ initCall ∉ after ∧
      before.filterMap (Assignment.parse? options.runtimeVar) =
        Resolution.assignments options.requires branch ∧
      after.filterMap (Assignment.parse? options.runtimeVar) = []

namespace Emission

theorem filterMap_text {α : Type} {runtime : Text} {statements : List Statement}
    {read : Text → Option α} {part : Statement → Option α}
    (each : ∀ statement ∈ statements, read (statement.text runtime) = part statement) :
    (statements.map (Statement.text runtime)).filterMap read = statements.filterMap part := by
  rw [List.filterMap_map]
  exact List.filterMap_congr each

variable {α : Type}

theorem filterMap_assign {part : Statement → Option α} (none : ∀ assignment, part (.assign assignment) = none)
    (assignments : List Assignment) : (assignments.map Statement.assign).filterMap part = [] := by
  rw [List.filterMap_map, List.filterMap_eq_nil_iff]
  intro assignment _
  exact none assignment

theorem filterMap_publish (object : Text) (names : List Text) :
    (names.map (Statement.publish object)).filterMap (Statement.publication? object) = names := by
  rw [List.filterMap_map]
  have known (name : Text) : (Statement.publication? object ∘ Statement.publish object) name = some name :=
    if_pos rfl
  rw [List.filterMap_congr fun name _ => known name]
  exact List.filterMap_some

theorem filterMap_definitionStatements (name : Text) (modules parameters : List Text)
    {handler : List Statement} (plain : handler.filterMap Statement.definition? = []) :
    (definitionStatements name modules parameters handler).filterMap Statement.definition? =
      [(name, modules)] := by
  have shape : definitionStatements name modules parameters handler =
      [.define name modules parameters] ++ (handler ++ [.endDefinition]) := rfl
  rw [shape, List.filterMap_append, List.filterMap_append, plain]
  rfl

theorem filterMap_definitions (names modules : List Text) :
    (names.flatMap fun name =>
        definitionStatements name modules ["runtime"] [.provide "runtime"]).filterMap
      Statement.definition? = names.map fun name => (name, modules) := by
  induction names with
  | nil => rfl
  | cons name rest induction =>
      rw [List.flatMap_cons, List.filterMap_append, induction, filterMap_definitionStatements _ _ _ rfl]
      rfl

section Statements

variable (options : Options)

theorem definitions_statements :
    (statements options .namedModule).filterMap Statement.definition? =
      (options.exportName, Resolution.modules options.requires) ::
        options.effectiveAliases.map fun name => (name, [options.exportName]) := by
  have handler : ((Resolution.assignments options.requires .namedModule).map Statement.assign ++
      [Statement.callInit, .provide options.runtimeVar]).filterMap Statement.definition? = [] := by
    rw [List.filterMap_append, filterMap_assign fun _ => rfl]
    rfl
  rw [statements, List.filterMap_append, List.filterMap_append, filterMap_definitions,
    filterMap_definitionStatements _ _ _ handler]
  exact congrArg _ (List.append_nil _)

theorem publications_commonJs :
    (statements options .commonJs).filterMap (Statement.publication? options.runtimeVar) =
      options.effectiveAliases := by
  have shape : statements options .commonJs =
      (Resolution.assignments options.requires .commonJs).map Statement.assign ++ ([.callInit] ++
        (options.effectiveAliases.map (.publish options.runtimeVar) ++ [.handOver, .lowerFlag])) := rfl
  rw [shape, List.filterMap_append, List.filterMap_append, List.filterMap_append, filterMap_publish,
    filterMap_assign fun _ => rfl]
  exact List.append_nil _

theorem publications_plain :
    (statements options .plain).filterMap (Statement.publication? globalName) =
      options.exportName :: options.effectiveAliases := by
  have shape : statements options .plain =
      (Resolution.assignments options.requires .plain).map Statement.assign ++ ([.callInit] ++
        (options.exportName :: options.effectiveAliases).map (.publish globalName)) := rfl
  rw [shape, List.filterMap_append, List.filterMap_append, filterMap_publish,
    filterMap_assign fun _ => rfl]
  rfl

/-- The routine is called once, below the assignments and above everything else. -/
theorem statements_call (branch : Branch) : ∃ before after,
    statements options branch = before ++ .callInit :: after ∧
      .callInit ∉ before ∧ .callInit ∉ after ∧
      before.filterMap Statement.assignment? = Resolution.assignments options.requires branch ∧
      after.filterMap Statement.assignment? = [] := by
  have assigned (assignments : List Assignment) :
      (assignments.map Statement.assign).filterMap Statement.assignment? = assignments := by
    rw [List.filterMap_map]
    exact List.filterMap_some
  have unassigned (object : Text) (names : List Text) :
      (names.map (Statement.publish object)).filterMap Statement.assignment? = [] := by
    rw [List.filterMap_map, List.filterMap_eq_nil_iff]
    intro name _
    rfl
  have noCall (assignments : List Assignment) : .callInit ∉ assignments.map Statement.assign := by
    simp
  cases branch with
  | namedModule =>
      refine ⟨.define options.exportName (Resolution.modules options.requires)
          (parameterNames (Resolution.modules options.requires).length) ::
            (Resolution.assignments options.requires .namedModule).map Statement.assign,
        .provide options.runtimeVar :: .endDefinition :: (options.effectiveAliases.flatMap (fun name =>
            definitionStatements name [options.exportName] ["runtime"] [.provide "runtime"]) ++
          [.lowerFlag]), ?_, ?_, ?_, ?_, ?_⟩
      · simp only [statements, definitionStatements, List.append_assoc, List.cons_append, List.nil_append]
      · simp
      · simp [definitionStatements]
      · exact assigned _
      · apply List.filterMap_eq_nil_iff.mpr
        intro statement member
        simp only [definitionStatements, List.mem_cons, List.mem_append, List.mem_flatMap,
          List.not_mem_nil, or_false, List.cons_append, List.nil_append] at member
        rcases member with rfl | rfl | ⟨name, _, rfl | rfl | rfl⟩ | rfl <;> rfl
  | commonJs =>
      refine ⟨(Resolution.assignments options.requires .commonJs).map Statement.assign,
        options.effectiveAliases.map (.publish options.runtimeVar) ++ [.handOver, .lowerFlag], rfl,
        noCall _, by simp, assigned _, ?_⟩
      rw [List.filterMap_append, unassigned]
      rfl
  | plain =>
      refine ⟨(Resolution.assignments options.requires .plain).map Statement.assign,
        (options.exportName :: options.effectiveAliases).map (.publish globalName), rfl,
        noCall _, by simp, assigned _, unassigned _ _⟩

end Statements

end Emission

namespace Options

variable {options : Options} {outputFile : Path}

theorem Faultless.exports (faultless : options.Faultless) {code : Text}
    (stated : ∀ branch, branchStatements branch code =
      (statements options branch).map (Statement.text options.runtimeVar)) :
    Exports options options.effectiveAliases code := by
  have identifier := whole_of_isIdentifier faultless.runtimeVar
  have ambient : globalName.all isIdentifierPart = true := by decide
  have proper := proper_of_mem_statements identifier
  constructor
  · intro member
    have kept := List.mem_eraseDups.mp member
    simp at kept
  · rw [stated, filterMap_text fun statement member => statement.defined?_text identifier
      (proper _ statement member)]
    exact definitions_statements options
  · rw [stated, filterMap_text fun statement member => statement.exported?_text identifier
      (proper _ statement member) identifier]
    exact publications_commonJs options
  · rw [stated, filterMap_text fun statement member => statement.exported?_text identifier
      (proper _ statement member) ambient]
    exact publications_plain options
  · intro branch
    obtain ⟨before, after, whole, fresh, once, assigned, unassigned⟩ := statements_call options branch
    have properBranch := proper branch
    rw [whole] at properBranch
    obtain ⟨properBefore, -, properAfter⟩ := by
      rw [List.forall_mem_append, List.forall_mem_cons] at properBranch
      exact properBranch
    have noCall {part : List Statement} (apart : .callInit ∉ part)
        (each : ∀ statement ∈ part, statement.Proper) :
        initCall ∉ part.map (Statement.text options.runtimeVar) := by
      intro member
      obtain ⟨statement, among, same⟩ := List.mem_map.mp member
      rw [(statement.text_eq_initCall_iff identifier (each statement among)).mp same] at among
      exact apart among
    refine ⟨before.map (Statement.text options.runtimeVar), after.map (Statement.text options.runtimeVar),
      ?_, noCall fresh properBefore, noCall once properAfter, ?_, ?_⟩
    · rw [stated, whole, List.map_append]
      rfl
    · rw [← assigned]
      exact filterMap_text fun statement member => statement.parse?_text identifier
        (properBefore statement member)
    · rw [← unassigned]
      exact filterMap_text fun statement member => statement.parse?_text identifier
        (properAfter statement member)

end Options

theorem level_beforeBundle (options : Options) (core : Source) (fragments : List Source) :
    Level (beforeBundle options core fragments) := by
  simp only [beforeBundle, coreBlock, marked, initRoutine, level_append, level_cons, level_line, level_embed,
    level_setup, level_fragmentBlocks, level_nil, implies_true, and_self]

theorem level_aroundBundle (options : Options) (core : Source) (fragments : List Source)
    (bundle : Option Text) : Level (beforeBundle options core fragments ++ bundlePart bundle) :=
  level_append.mpr ⟨level_beforeBundle options core fragments, level_bundlePart bundle⟩

theorem complete_aroundBundle (options : Options) (core : Source) (fragments : List Source)
    (bundle : Option Text) :
    ∀ step ∈ beforeBundle options core fragments ++ bundlePart bundle, step.Complete := by
  intro step member
  apply complete_moduleSteps options core fragments bundle step
  rw [moduleSteps_eq_around]
  exact List.mem_append_left _ member

theorem rows_moduleSteps (options : Options) (core : Source) (fragments : List Source)
    (bundle : Option Text) :
    (render 0 (moduleSteps options core fragments bundle)).rows =
      (render 0 (beforeBundle options core fragments ++ bundlePart bundle)).rows ++
        (render 0 (afterBundle options)).rows := by
  have complete := complete_render (complete_aroundBundle options core fragments bundle) 0
  rw [moduleSteps_eq_around, render_level_append (level_aroundBundle options core fragments bundle),
    Text.rows_append complete]

/-- The rows of a module end with those behind its bundle, and the comment when there is one. -/
theorem rows_emit (options : Options) (outputFile : Path) (core : Source) (fragments : List Fragment)
    (bundle : Option Text) :
    ∃ more, (emit options outputFile core fragments bundle).code.rows =
        (render 0 (beforeBundle options core (fragments.map Fragment.source) ++ bundlePart bundle)).rows ++
          ((render 0 (afterBundle options)).rows ++ more) ∧
      ∀ row ∈ more, ∃ map : SourceMap, row = map.comment := by
  let sources := fragments.map Fragment.source
  have rows := rows_moduleSteps options core sources bundle
  cases mapped : options.sourceMap with
  | true =>
      have whole := complete_render (complete_moduleSteps options core sources bundle) 0
      rw [emit_mapped mapped outputFile rfl, SourceMap.rows_append_comment whole, rows, List.append_assoc]
      refine ⟨_, rfl, ?_⟩
      intro row member
      exact ⟨_, List.mem_singleton.mp member⟩
  | false =>
      rw [emit_unmapped mapped outputFile rfl, rows]
      refine ⟨[], by rw [List.append_nil], ?_⟩
      intro row member
      exact absurd member List.not_mem_nil

/-- The branches of a module export the same names: the export name and the aliases that differ from
it, each where it is first given. -/
theorem compile_exports {options : Options} {outputFile : Path}
    (accepted : options.validate = .ok outputFile) :
    FirstOccurrences (options.exportAliases.filter (· != options.exportName)) options.effectiveAliases ∧
    ∀ core bundle schedule fragments, ∃ output,
      compile (Supplies.ofTexts core bundle) schedule options fragments = .ok output ∧
        Exports options options.effectiveAliases output.code := by
  have faultless := (Options.validate_eq_ok_iff.mp accepted).faultless
  refine ⟨firstOccurrences_eraseDups _, ?_⟩
  intro core bundle schedule fragments
  refine ⟨_, compile_ofTexts accepted core bundle schedule fragments, ?_⟩
  apply faultless.exports
  intro branch
  obtain ⟨more, whole, comments⟩ := rows_emit options outputFile (options.coreSource core)
    fragments (options.embeddedBundle bundle)
  apply branchStatements_of_rows (whole_of_isIdentifier faultless.runtimeVar) whole
  intro row member
  obtain ⟨map, rfl⟩ := comments row member
  rfl

/-- The least options with aliases, one of them given twice and one of them the export name. -/
def Options.aliased : Options :=
  { Options.least with exportAliases := ["second\n", "BT", "\"] = bt", "second\n"] }

theorem compile_exports_aliased :
    Options.aliased.validate = .ok ⟨"module.js"⟩ ∧
    Options.aliased.effectiveAliases = ["second\n", "\"] = bt"] ∧
    ∃ output, compile (Supplies.ofTexts "core" []) .bundleFirst Options.aliased [] = .ok output ∧
      Exports Options.aliased Options.aliased.effectiveAliases output.code := by
  have faultless : Options.aliased.fault? = none := by decide +kernel
  have accepted : Options.aliased.validate = .ok ⟨"module.js"⟩ := by
    have given : Options.aliased.filename = some ⟨"module.js"⟩ := rfl
    have distinct : Options.repeatedName? [] Options.aliased.requires = none := rfl
    have named : (⟨"module.js"⟩ : Path).isEmpty = false := rfl
    unfold Options.validate
    rw [faultless, distinct, given]
    simp only [named]
    rfl
  exact ⟨accepted, by decide +kernel, (compile_exports accepted).2 _ _ _ _⟩

end UniversalModule
