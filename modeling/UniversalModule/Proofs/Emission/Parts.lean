import UniversalModule.Emission.Module
import UniversalModule.Proofs.Emission.Shown

/-!
Which steps of a module embed something: the core's block, the fragments' blocks and the bundle.
All other parts consist of plain steps, which embed nothing and are left alone when sources are
emptied.
-/

namespace UniversalModule.Emission

namespace Step

def isPlain : Step → Bool
  | .line _ => true
  | .indent => true
  | .outdent => true
  | _ => false

theorem complete_of_isPlain {step : Step} (plain : step.isPlain = true) : step.Complete := by
  cases step with
  | splice text => exact absurd plain (by simp [isPlain])
  | _ => trivial

theorem embedded_of_isPlain {step : Step} (plain : step.isPlain = true) : step.embedded = [] := by
  cases step with
  | embed source => exact absurd plain (by simp [isPlain])
  | _ => rfl

theorem emptied_of_isPlain {step : Step} (plain : step.isPlain = true) : step.emptied = step := by
  cases step with
  | embed source => exact absurd plain (by simp [isPlain])
  | _ => rfl

end Step

def Plain (steps : List Step) : Prop := ∀ step ∈ steps, step.isPlain = true

theorem embedded_append (first second : List Step) :
    embedded (first ++ second) = embedded first ++ embedded second := List.flatMap_append

theorem Plain.embedded_eq_nil {steps : List Step} (plain : Plain steps) : embedded steps = [] := by
  rw [embedded, List.flatMap_eq_nil_iff]
  intro step member
  exact Step.embedded_of_isPlain (plain step member)

theorem Plain.map_emptied {steps : List Step} (plain : Plain steps) :
    steps.map Step.emptied = steps := by
  have same : steps.map Step.emptied = steps.map id :=
    List.map_congr_left fun step member => Step.emptied_of_isPlain (plain step member)
  rw [same, List.map_id]

theorem Plain.complete {steps : List Step} (plain : Plain steps) : ∀ step ∈ steps, step.Complete := by
  intro step member
  exact Step.complete_of_isPlain (plain step member)

@[simp] theorem plain_nil : Plain [] := by
  intro step member
  exact absurd member (by simp)

@[simp] theorem plain_cons {step : Step} {rest : List Step} :
    Plain (step :: rest) ↔ step.isPlain = true ∧ Plain rest := List.forall_mem_cons

@[simp] theorem plain_append {first second : List Step} :
    Plain (first ++ second) ↔ Plain first ∧ Plain second := List.forall_mem_append

@[simp] theorem plain_line (text : Text) : (Step.line text).isPlain = true := rfl

@[simp] theorem plain_indent : Step.indent.isPlain = true := rfl

@[simp] theorem plain_outdent : Step.outdent.isPlain = true := rfl

@[simp] theorem plain_map_line {α : Type} (items : List α) (text : α → Text) :
    Plain (items.map fun item => .line (text item)) := by
  intro step member
  obtain ⟨item, _, rfl⟩ := List.mem_map.mp member
  rfl

theorem plain_flatMap {α : Type} {items : List α} {steps : α → List Step}
    (each : ∀ item, Plain (steps item)) : Plain (items.flatMap steps) := by
  intro step member
  obtain ⟨item, _, found⟩ := List.mem_flatMap.mp member
  exact each item step found

theorem plain_setup (options : Options) : Plain (setup options) := by
  simp only [setup, plain_cons, plain_line, plain_nil, and_self]

@[simp] theorem plain_assignmentLines (options : Options) (branch : Branch) :
    Plain (assignmentLines options branch) := plain_map_line _ _

theorem plain_definition {handler : List Step} (plain : Plain handler) (name : Text)
    (modules parameters : List Text) : Plain (definition name modules parameters handler) := by
  simp only [definition, plain_cons, plain_append, plain, plain_line, plain_indent, plain_outdent,
    plain_nil, and_self]

theorem plain_namedModuleBranch (options : Options) : Plain (namedModuleBranch options) := by
  have handler : Plain (assignmentLines options .namedModule ++
      [callInit, .line (provideName ++ "(" ++ options.runtimeVar ++ ");")]) := by
    simp only [callInit, plain_append, plain_assignmentLines, plain_cons, plain_line, plain_nil, and_self]
  have aliases : Plain (options.effectiveAliases.flatMap fun name =>
      definition name [options.exportName] ["runtime"] [.line (provideName ++ "(runtime);")]) :=
    plain_flatMap fun name => plain_definition (by simp only [plain_cons, plain_line, plain_nil, and_self]) _ _ _
  simp only [namedModuleBranch, lowerFlag, plain_append, plain_definition handler, aliases, plain_cons,
    plain_line, plain_indent, plain_outdent, plain_nil, and_self]

theorem plain_commonJsBranch (options : Options) : Plain (commonJsBranch options) := by
  simp only [commonJsBranch, callInit, lowerFlag, plain_append, plain_assignmentLines, plain_map_line,
    plain_cons, plain_line, plain_indent, plain_outdent, plain_nil, and_self]

theorem plain_plainBranch (options : Options) : Plain (plainBranch options) := by
  simp only [plainBranch, callInit, plain_append, plain_assignmentLines, plain_map_line, plain_cons,
    plain_line, plain_indent, plain_outdent, plain_nil, and_self]

def bundlePart : Option Text → List Step
  | none => []
  | some bundle => [.splice (wrapBundle bundle)]

theorem exportsPart_eq (options : Options) (bundle : Option Text) :
    exportsPart options bundle =
      [.line ("var " ++ flagName ++ " = true;")] ++ bundlePart bundle ++
        (namedModuleBranch options ++ commonJsBranch options ++ plainBranch options) := by
  cases bundle <;> simp only [exportsPart, bundlePart, List.append_assoc]

theorem complete_wrapBundle (bundle : Text) : (wrapBundle bundle).Complete := by
  have closing : ("\x7d)();\n" : Text) = "\x7d)();" ++ ['\n'] := by simp
  unfold wrapBundle
  rw [closing, ← List.append_assoc]
  exact Text.complete_append_feed _

theorem plain_branches (options : Options) :
    Plain (namedModuleBranch options ++ commonJsBranch options ++ plainBranch options) := by
  simp only [plain_append, plain_namedModuleBranch, plain_commonJsBranch, plain_plainBranch, and_self]

theorem complete_exportsPart (options : Options) (bundle : Option Text) :
    ∀ step ∈ exportsPart options bundle, step.Complete := by
  rw [exportsPart_eq]
  intro step member
  rcases List.mem_append.mp member with start | branch
  · rcases List.mem_append.mp start with flag | splice
    · rw [List.mem_singleton.mp flag]
      trivial
    · cases bundle with
      | none => exact absurd splice (by simp [bundlePart])
      | some bundle =>
          rw [List.mem_singleton.mp splice]
          exact complete_wrapBundle bundle
  · exact (plain_branches options).complete step branch

theorem complete_marked {steps : List Step} (complete : ∀ step ∈ steps, step.Complete) (label : Text) :
    ∀ step ∈ marked label steps, step.Complete := by
  intro step member
  simp only [marked, List.mem_cons, List.mem_append, List.not_mem_nil, or_false] at member
  rcases member with rfl | found | rfl
  · trivial
  · exact complete step found
  · trivial

theorem complete_fragmentBlock (isolated : Bool) (fragment : Source) :
    ∀ step ∈ fragmentBlock isolated fragment, step.Complete := by
  apply complete_marked
  intro step member
  cases isolated with
  | true =>
      simp only [if_true, List.mem_cons, List.not_mem_nil, or_false] at member
      rcases member with rfl | rfl | rfl <;> trivial
  | false =>
      rw [List.mem_singleton.mp member]
      trivial

theorem complete_moduleSteps (options : Options) (core : Source) (fragments : List Source)
    (bundle : Option Text) : ∀ step ∈ moduleSteps options core fragments bundle, step.Complete := by
  intro step member
  simp only [moduleSteps, initRoutine, List.mem_append, List.mem_cons, List.not_mem_nil, or_false,
    List.mem_flatMap] at member
  rcases member with ((((rfl | found) | found) | rfl | ⟨fragment, _, found⟩ | rfl) | found) | rfl
  · trivial
  · exact complete_marked (by intro step only; rw [List.mem_singleton.mp only]; trivial) _ step found
  · exact (plain_setup options).complete step found
  · trivial
  · exact complete_fragmentBlock options.scopeTemplates fragment step found
  · trivial
  · exact complete_exportsPart options bundle step found
  · trivial

theorem embedded_exportsPart (options : Options) (bundle : Option Text) :
    embedded (exportsPart options bundle) = [] := by
  rw [exportsPart_eq, embedded_append, (plain_branches options).embedded_eq_nil]
  cases bundle <;> rfl

theorem embedded_fragmentBlock (isolated : Bool) (fragment : Source) :
    embedded (fragmentBlock isolated fragment) = [fragment] := by
  cases isolated <;> rfl

theorem embedded_initRoutine (isolated : Bool) (fragments : List Source) :
    embedded (initRoutine isolated fragments) = fragments := by
  have blocks : embedded (fragments.flatMap (fragmentBlock isolated)) = fragments := by
    induction fragments with
    | nil => rfl
    | cons fragment rest induction =>
        rw [List.flatMap_cons, embedded_append, embedded_fragmentBlock, induction, List.singleton_append]
  have whole : embedded (initRoutine isolated fragments) =
      embedded (fragments.flatMap (fragmentBlock isolated) ++ [.line "\x7d;"]) := rfl
  rw [whole, embedded_append, blocks]
  exact List.append_nil fragments

theorem embedded_moduleSteps (options : Options) (core : Source) (fragments : List Source)
    (bundle : Option Text) :
    embedded (moduleSteps options core fragments bundle) = core :: fragments := by
  have coreOnly : embedded (coreBlock core) = [core] := rfl
  have noSource (text : Text) : embedded [.line text] = [] := rfl
  rw [moduleSteps, embedded_append, embedded_append, embedded_append, embedded_append, embedded_append,
    noSource, noSource, coreOnly, (plain_setup options).embedded_eq_nil, embedded_initRoutine,
    embedded_exportsPart, List.append_nil, List.append_nil, List.append_nil, List.nil_append,
    List.singleton_append]

def bare (source : Source) : Source := { source with content := [] }

theorem map_emptied_fragmentBlock (isolated : Bool) (fragment : Source) :
    (fragmentBlock isolated fragment).map Step.emptied = fragmentBlock isolated (bare fragment) := by
  cases isolated <;> rfl

theorem map_emptied_exportsPart (options : Options) (bundle : Option Text) :
    (exportsPart options bundle).map Step.emptied = exportsPart options bundle := by
  rw [exportsPart_eq, List.map_append, (plain_branches options).map_emptied]
  cases bundle <;> rfl

theorem map_emptied_initRoutine (isolated : Bool) (fragments : List Source) :
    (initRoutine isolated fragments).map Step.emptied = initRoutine isolated (fragments.map bare) := by
  simp only [initRoutine, List.map_cons, List.map_append, List.map_flatMap, List.flatMap_map,
    map_emptied_fragmentBlock]
  rfl

/-- Emptying the sources of a module's steps gives the steps of the module of empty sources. -/
theorem map_emptied_moduleSteps (options : Options) (core : Source) (fragments : List Source)
    (bundle : Option Text) :
    (moduleSteps options core fragments bundle).map Step.emptied =
      moduleSteps options (bare core) (fragments.map bare) bundle := by
  simp only [moduleSteps, List.map_append, map_emptied_initRoutine, map_emptied_exportsPart,
    (plain_setup options).map_emptied]
  rfl

end UniversalModule.Emission
