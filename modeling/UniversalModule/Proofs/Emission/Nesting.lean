import UniversalModule.Proofs.Emission.Branches
import UniversalModule.Proofs.Emission.Scanning
import UniversalModule.Proofs.Json.Values

/-!
How the blocks of a module are nested. The depth grows right behind a line that begins a block and in no
other place, and it shrinks right before a line that ends one; so the depth at which a line is written is
the number of blocks around it. Embedded texts stand in no block.
-/

namespace UniversalModule.Emission

/-- The heads of the functions that hold embedded texts. What is in them is not indented for their sake. -/
def shellHeads : List Text :=
  ["(function (global) \x7b", "var " ++ initName ++ " = function () \x7b", "(function () \x7b"]

def shellEnds : List Text := ["\x7d)();", "\x7d;", closingRow]

/-- The text of a line that begins a block: it ends in an opening brace and is neither a comment nor the head
of a function that holds embedded texts. -/
def opensBlock (text : Text) : Bool :=
  text.getLast? == some '\x7b' && text.take 2 != "//".toList && !shellHeads.contains text

/-- The text of a line that ends a block. It may begin the next one. -/
def closesBlock (text : Text) : Bool := text.head? == some '\x7d' && !shellEnds.contains text

namespace Step

def opens : Step → Bool
  | .line text => opensBlock text
  | _ => false

def closes : Step → Bool
  | .line text => closesBlock text
  | _ => false

end Step

/-- A text that stands on one line, and begins where the indentation of the line ends. -/
structure Fits (text : Text) : Prop where
  feedless : '\n' ∉ text
  head : text.head? ≠ some ' '

inductive Mode where
  | inside
  /-- Right behind a line that begins a block. -/
  | opened
  /-- Right before a line that ends a block. -/
  | closed
deriving DecidableEq

def modeBefore (text : Text) : Mode := if closesBlock text then .closed else .inside

def modeAfter (text : Text) : Mode := if opensBlock text then .opened else .inside

structure Nesting where
  mode : Mode
  depth : Nat

inductive Turn : Nesting → Step → Nesting → Prop where
  | line {depth : Nat} {text : Text} {before after : Mode} (fits : Fits text) (ends : before = modeBefore text)
      (begins : after = modeAfter text) : Turn ⟨before, depth⟩ (.line text) ⟨after, depth⟩
  | indent (depth : Nat) : Turn ⟨.opened, depth⟩ .indent ⟨.inside, depth + 1⟩
  | outdent (depth : Nat) : Turn ⟨.inside, depth + 1⟩ .outdent ⟨.closed, depth⟩
  | embed (source : Source) : Turn ⟨.inside, 0⟩ (.embed source) ⟨.inside, 0⟩
  | splice (text : Text) : Turn ⟨.inside, 0⟩ (.splice text) ⟨.inside, 0⟩

inductive Turns : Nesting → List Step → Nesting → Prop where
  | nil (nesting : Nesting) : Turns nesting [] nesting
  | cons {first middle last : Nesting} {step : Step} {rest : List Step} (turn : Turn first step middle)
      (others : Turns middle rest last) : Turns first (step :: rest) last

theorem Turn.depth_eq {first next : Nesting} {step : Step} (turn : Turn first step next) :
    next.depth = step.depthAfter first.depth := by
  cases turn <;> rfl

/-- The blocks that are begun and not yet entered, or left and not yet ended. -/
def Mode.pending : Mode → Nat
  | .inside => 0
  | _ => 1

theorem pending_modeBefore (text : Text) : (modeBefore text).pending = if closesBlock text then 1 else 0 := by
  unfold modeBefore
  split <;> rfl

theorem pending_modeAfter (text : Text) : (modeAfter text).pending = if opensBlock text then 1 else 0 := by
  unfold modeAfter
  split <;> rfl

theorem Turn.balanced {first next : Nesting} {step : Step} (turn : Turn first step next) :
    (if step.opens then 1 else 0) + (first.depth + first.mode.pending) =
      (if step.closes then 1 else 0) + (next.depth + next.mode.pending) := by
  cases turn with
  | @line depth text before after fits ends begins =>
      have opens : (Step.line text).opens = opensBlock text := rfl
      have closes : (Step.line text).closes = closesBlock text := rfl
      rw [opens, closes]
      simp only [ends, begins, pending_modeBefore, pending_modeAfter]
      omega
  | _ => simp [Step.opens, Step.closes, Mode.pending]

theorem modeBefore_eq_closed_iff {text : Text} : .closed = modeBefore text ↔ closesBlock text = true := by
  unfold modeBefore
  cases closesBlock text <;> simp

theorem modeAfter_eq_opened_iff {text : Text} : .opened = modeAfter text ↔ opensBlock text = true := by
  unfold modeAfter
  cases opensBlock text <;> simp

namespace Turns

variable {first middle last : Nesting} {steps others : List Step}

theorem append (left : Turns first steps middle) (right : Turns middle others last) :
    Turns first (steps ++ others) last := by
  induction left with
  | nil => exact right
  | cons turn _ induction => exact .cons turn (induction right)

theorem split {before after : List Step} {step : Step} (turns : Turns first (before ++ step :: after) last) :
    ∃ found next, Turns first before found ∧ Turn found step next ∧ Turns next after last := by
  induction before generalizing first with
  | nil =>
      cases turns with
      | cons turn others => exact ⟨first, _, .nil first, turn, others⟩
  | cons earlier before induction =>
      cases turns with
      | cons turn others =>
          obtain ⟨found, next, reached, here, later⟩ := induction others
          exact ⟨found, next, .cons turn reached, here, later⟩

theorem depth_eq (turns : Turns first steps last) : last.depth = depthAfter first.depth steps := by
  induction turns with
  | nil => rfl
  | cons turn _ induction =>
      rw [induction, turn.depth_eq]
      rfl

/-- Blocks that are begun are ended again, or they are around what follows. -/
theorem balanced (turns : Turns first steps last) :
    steps.countP Step.opens + (first.depth + first.mode.pending) =
      steps.countP Step.closes + (last.depth + last.mode.pending) := by
  induction turns with
  | nil => rfl
  | cons turn _ induction =>
      have one := turn.balanced
      rw [List.countP_cons, List.countP_cons]
      omega

theorem opened (turns : Turns first steps last) (before : first.mode = .inside) (atHead : last.mode = .opened) :
    ∃ earlier head, steps = earlier ++ [.line head] ∧ opensBlock head = true := by
  rcases List.eq_nil_or_concat steps with rfl | ⟨earlier, step, rfl⟩
  · cases turns
    exact absurd (before.symm.trans atHead) (by decide)
  · rw [List.concat_eq_append] at turns ⊢
    obtain ⟨found, next, -, turn, others⟩ := turns.split
    cases others
    cases turn with
    | line fits ends begins => exact ⟨earlier, _, rfl, modeAfter_eq_opened_iff.mp (atHead.symm.trans begins)⟩
    | _ => exact absurd atHead (by simp)

theorem closed (turns : Turns first steps last) (left : first.mode = .closed) (after : last.mode = .inside) :
    ∃ ending later, steps = .line ending :: later ∧ closesBlock ending = true := by
  cases turns with
  | nil => exact absurd (left.symm.trans after) (by decide)
  | cons turn others =>
      cases turn with
      | line fits ends begins => exact ⟨_, _, rfl, modeBefore_eq_closed_iff.mp (left.symm.trans ends)⟩
      | _ => exact absurd left (by simp)

theorem line {depth : Nat} {text : Text} {before after : Mode} (fits : Fits text) (ends : before = modeBefore text)
    (begins : after = modeAfter text) : Turns ⟨before, depth⟩ [.line text] ⟨after, depth⟩ :=
  .cons (.line fits ends begins) (.nil _)

end Turns

def Keeps (depth : Nat) (steps : List Step) : Prop := Turns ⟨.inside, depth⟩ steps ⟨.inside, depth⟩

namespace Keeps

variable {depth : Nat} {steps others : List Step}

theorem nil : Keeps depth [] := Turns.nil _

theorem append (left : Keeps depth steps) (right : Keeps depth others) : Keeps depth (steps ++ others) :=
  Turns.append left right

theorem flatMap {α : Type} {items : List α} {made : α → List Step}
    (each : ∀ item ∈ items, Keeps depth (made item)) : Keeps depth (items.flatMap made) := by
  induction items with
  | nil => exact .nil
  | cons item rest induction =>
      rw [List.flatMap_cons]
      exact (each item List.mem_cons_self).append
        (induction fun other member => each other (List.mem_cons_of_mem item member))

theorem embed (source : Source) : Keeps 0 [.embed source] := .cons (.embed source) (Turns.nil _)

theorem splice (text : Text) : Keeps 0 [.splice text] := .cons (.splice text) (Turns.nil _)

/-- What is between the line that begins a block and the line that ends it. -/
theorem body (inner : Keeps (depth + 1) steps) :
    Turns ⟨.opened, depth⟩ (.indent :: (steps ++ [.outdent])) ⟨.closed, depth⟩ := by
  have left : Turns ⟨.inside, depth + 1⟩ [.outdent] ⟨.closed, depth⟩ := .cons (.outdent depth) (Turns.nil _)
  exact .cons (.indent depth) (Turns.append inner left)

end Keeps

theorem opensBlock_of_last {text : Text} (last : text.getLast? ≠ some '\x7b') : opensBlock text = false := by
  rw [opensBlock, beq_eq_false_iff_ne.mpr last]
  rfl

theorem closesBlock_of_head {text : Text} (head : text.head? ≠ some '\x7d') : closesBlock text = false := by
  rw [closesBlock, beq_eq_false_iff_ne.mpr head]
  rfl

theorem keeps_line {depth : Nat} {text : Text} (fits : Fits text) (last : text.getLast? ≠ some '\x7b')
    (head : text.head? ≠ some '\x7d') : Keeps depth [.line text] := by
  refine Turns.line fits ?_ ?_
  · rw [modeBefore, closesBlock_of_head head]
    rfl
  · rw [modeAfter, opensBlock_of_last last]
    rfl

namespace Statement

variable {runtime : Text}

theorem fits_text (identifier : runtime.all isIdentifierPart = true) {statement : Statement}
    (proper : statement.Proper) : Fits (statement.text runtime) :=
  ⟨feed_notMem_text identifier proper, head_text identifier proper⟩

def isSimple : Statement → Bool
  | .define _ _ _ => false
  | .endDefinition => false
  | _ => true

theorem last_text {statement : Statement} (simple : statement.isSimple = true) :
    (statement.text runtime).getLast? = some ';' := by
  have behind (start : Text) {rest : Text} (last : rest.getLast? = some ';') :
      (start ++ rest).getLast? = some ';' := List.mem_getLast?_append_of_mem_getLast? last
  cases statement with
  | assign assignment => exact behind _ (behind _ (behind _ (behind _ (behind _ rfl))))
  | provide value => exact behind _ (behind ['('] (behind value rfl))
  | publish root name => exact behind _ (behind ['['] (behind (Json.stringLiteral name) (behind _ (behind _ rfl))))
  | handOver => exact behind _ (behind _ (behind _ rfl))
  | define name modules parameters => exact absurd simple (by simp [isSimple])
  | endDefinition => exact absurd simple (by decide)
  | _ => exact of_decide_eq_true rfl

theorem brace_head_text (identifier : runtime.all isIdentifierPart = true) {statement : Statement}
    (proper : statement.Proper) (simple : statement.isSimple = true) :
    (statement.text runtime).head? ≠ some '\x7d' := by
  cases statement with
  | assign assignment => exact head_name_append identifier rfl (of_decide_eq_true rfl)
  | publish root name => exact head_name_append proper rfl (of_decide_eq_true rfl)
  | endDefinition => exact absurd simple (by decide)
  | _ => exact of_decide_eq_true rfl

end Statement

section Branches

variable {runtime : Text} {depth : Nat}

theorem keeps_statement (identifier : runtime.all isIdentifierPart = true) {statement : Statement}
    (proper : statement.Proper) (simple : statement.isSimple = true) :
    Keeps depth [.line (statement.text runtime)] := by
  refine keeps_line (statement.fits_text identifier proper) ?_ (statement.brace_head_text identifier proper simple)
  rw [Statement.last_text simple]
  decide

theorem keeps_statementLines (identifier : runtime.all isIdentifierPart = true) {statements : List Statement}
    (each : ∀ statement ∈ statements, statement.Proper ∧ statement.isSimple = true) :
    Keeps depth (statementLines runtime statements) := by
  have lines : statementLines runtime statements =
      statements.flatMap fun statement => [.line (statement.text runtime)] := List.map_eq_flatMap
  rw [lines]
  exact .flatMap fun statement member => keeps_statement identifier (each statement member).1 (each statement member).2

theorem opensBlock_define (runtime name : Text) (modules parameters : List Text) :
    opensBlock ((Statement.define name modules parameters).text runtime) = true := by
  have last : ((Statement.define name modules parameters).text runtime).getLast? = some '\x7b' := by
    rw [Statement.text_define]
    simp only [List.getLast?_append, List.getLast?_cons]
    rfl
  have first : ((Statement.define name modules parameters).text runtime).take 2 = "mo".toList := rfl
  have others : ∀ head ∈ shellHeads, head.take 2 ≠ "mo".toList := by decide
  have noShell : shellHeads.contains ((Statement.define name modules parameters).text runtime) = false := by
    rw [List.contains_eq_mem, decide_eq_false_iff_not]
    intro member
    exact others _ member first
  rw [opensBlock, last, first, noShell]
  decide

theorem keeps_definition {handler : List Step} {parameters : List Text}
    (whole : ∀ parameter ∈ parameters, parameter.all isIdentifierPart = true)
    (inner : Keeps (depth + 1) handler) (name : Text) (modules : List Text) :
    Keeps depth (definition name modules parameters handler) := by
  have proper : (Statement.define name modules parameters).Proper := whole
  have identifier : ([] : Text).all isIdentifierPart = true := rfl
  have head : Turns ⟨.inside, depth⟩ [.line ((Statement.define name modules parameters).text [])]
      ⟨.opened, depth⟩ :=
    Turns.line (Statement.fits_text identifier proper) rfl
      (modeAfter_eq_opened_iff.mpr (opensBlock_define [] name modules parameters))
  have ending : Turns ⟨.closed, depth⟩ [.line "\x7d);"] ⟨.inside, depth⟩ :=
    Turns.line ⟨by decide +kernel, by decide⟩ (by decide +kernel) (by decide +kernel)
  rw [definition_eq []]
  exact head.append (inner.body.append ending)

end Branches

section Module

variable {options : Options}

theorem keeps_assignmentLines (identifier : options.runtimeVar.all isIdentifierPart = true) (branch : Branch)
    (depth : Nat) : Keeps depth (assignmentLines options branch) := by
  rw [assignmentLines_eq]
  apply keeps_statementLines identifier
  intro statement member
  obtain ⟨assignment, among, rfl⟩ := List.mem_map.mp member
  exact ⟨Resolution.proper_of_mem_assignments among, rfl⟩

theorem keeps_publications (identifier : options.runtimeVar.all isIdentifierPart = true) {object : Text}
    (whole : object.all isIdentifierPart = true) (names : List Text) (depth : Nat) :
    Keeps depth
      (names.map fun name => .line (subscriptChain object [name] ++ " = " ++ options.runtimeVar ++ ";")) := by
  rw [publicationLines_eq]
  apply keeps_statementLines identifier
  intro statement member
  obtain ⟨name, -, rfl⟩ := List.mem_map.mp member
  exact ⟨whole, rfl⟩

theorem keeps_provide (value : Text) (whole : value.all isIdentifierPart = true) (depth : Nat) :
    Keeps depth [.line (provideName ++ "(" ++ value ++ ");")] := by
  have identifier : ([] : Text).all isIdentifierPart = true := rfl
  have proper : (Statement.provide value).Proper := whole
  rw [provideLine_eq []]
  exact keeps_statement identifier proper rfl

theorem keeps_callInit (depth : Nat) : Keeps depth [callInit] :=
  keeps_line ⟨by decide, by decide⟩ (by decide) (by decide)

theorem keeps_lowerFlag (depth : Nat) : Keeps depth [lowerFlag] :=
  keeps_line ⟨by decide, by decide⟩ (by decide) (by decide)

/-- The head of a branch begins a block, and the second one ends that of the first. -/
theorem turns_branchHead (branch : Branch) :
    Turns ⟨if branch = .commonJs then .closed else .inside, 0⟩ [.line (branchHead branch)] ⟨.opened, 0⟩ := by
  have head : (branchHead branch).head? ≠ some ' ' := by cases branch <;> decide
  have ends : (if branch = .commonJs then Mode.closed else .inside) = modeBefore (branchHead branch) := by
    cases branch <;> decide +kernel
  have begins : .opened = modeAfter (branchHead branch) := by cases branch <;> decide +kernel
  exact Turns.line ⟨feed_notMem_branchHead branch, head⟩ ends begins

theorem turns_brace : Turns ⟨.closed, 0⟩ [.line "\x7d"] ⟨.inside, 0⟩ :=
  Turns.line ⟨by decide +kernel, by decide⟩ (by decide +kernel) (by decide +kernel)

/-- The first branch ends in the line that begins the second one. -/
theorem turns_namedModuleBranch (identifier : options.runtimeVar.all isIdentifierPart = true) :
    Turns ⟨.inside, 0⟩ (namedModuleBranch options) ⟨.closed, 0⟩ := by
  have handler := (keeps_assignmentLines identifier .namedModule 2).append
    ((keeps_callInit 2).append (keeps_provide options.runtimeVar identifier 2))
  have canonical := keeps_definition (whole_parameterNames (Resolution.modules options.requires).length) handler
    options.exportName (Resolution.modules options.requires)
  have aliases : Keeps 1 (options.effectiveAliases.flatMap fun name =>
      definition name [options.exportName] ["runtime"] [.line (provideName ++ "(runtime);")]) := by
    apply Keeps.flatMap
    intro name _
    refine keeps_definition ?_ (keeps_provide "runtime" (by decide) 2) name [options.exportName]
    intro parameter member
    rw [List.mem_singleton.mp member]
    decide
  have branch := (turns_branchHead .namedModule).append ((canonical.append aliases).append (keeps_lowerFlag 1)).body
  simp only [List.append_assoc, List.cons_append, List.nil_append] at branch
  simp only [namedModuleBranch, List.append_assoc, List.cons_append, List.nil_append]
  exact branch

theorem turns_commonJsBranch (identifier : options.runtimeVar.all isIdentifierPart = true) :
    Turns ⟨.closed, 0⟩ (commonJsBranch options) ⟨.inside, 0⟩ := by
  have proper : Statement.handOver.Proper := trivial
  have handOver : Keeps 1 [.line (Statement.handOver.text options.runtimeVar)] :=
    keeps_statement identifier proper rfl
  have names := keeps_publications identifier identifier options.effectiveAliases 1
  have inner := (keeps_assignmentLines identifier .commonJs 1).append
    ((keeps_callInit 1).append (names.append (handOver.append (keeps_lowerFlag 1))))
  have branch := (turns_branchHead .commonJs).append (inner.body.append turns_brace)
  simp only [List.append_assoc, List.cons_append, List.nil_append] at branch
  simp only [commonJsBranch, List.append_assoc, List.cons_append, List.nil_append]
  exact branch

theorem keeps_plainBranch (identifier : options.runtimeVar.all isIdentifierPart = true) :
    Keeps 0 (plainBranch options) := by
  have ambient : globalName.all isIdentifierPart = true := by decide
  have names := keeps_publications identifier ambient (options.exportName :: options.effectiveAliases) 1
  have inner := (keeps_assignmentLines identifier .plain 1).append ((keeps_callInit 1).append names)
  have branch := (turns_branchHead .plain).append (inner.body.append turns_brace)
  simp only [List.append_assoc, List.cons_append, List.nil_append] at branch
  simp only [plainBranch, List.append_assoc, List.cons_append, List.nil_append]
  exact branch

theorem keeps_marker (start : Text) (feedless : '\n' ∉ start) (label : Text) :
    Keeps 0 [.line ('/' :: '/' :: (start ++ flatLabel label))] := by
  have fits : Fits ('/' :: '/' :: (start ++ flatLabel label)) := by
    refine ⟨?_, by simp⟩
    simp only [List.mem_cons, List.mem_append, not_or]
    refine ⟨by decide, by decide, feedless, ?_⟩
    intro member
    exact absurd (isLineEnd_flatLabel member) (by decide)
  have flat : opensBlock ('/' :: '/' :: (start ++ flatLabel label)) = false := by simp [opensBlock]
  refine Turns.line fits ?_ ?_
  · rw [modeBefore, closesBlock_of_head (by simp)]
    rfl
  · rw [modeAfter, flat]
    rfl

theorem keeps_marked {steps : List Step} (inner : Keeps 0 steps) (label : Text) : Keeps 0 (marked label steps) := by
  have begins : Keeps 0 [.line (beginStart ++ flatLabel label)] := keeps_marker " begin: " (by decide) label
  have ends : Keeps 0 [.line (endStart ++ flatLabel label)] := keeps_marker " end: " (by decide) label
  exact begins.append (inner.append ends)

theorem fits_of_mem_shells : ∀ text ∈ shellHeads ++ shellEnds, Fits text := by
  have plain : ∀ text ∈ shellHeads ++ shellEnds, '\n' ∉ text ∧ text.head? ≠ some ' ' := by decide +kernel
  exact fun text member => ⟨(plain text member).1, (plain text member).2⟩

/-- What stands in a function that holds embedded texts is not deeper than the function. -/
theorem keeps_shell {head ending : Text} {steps : List Step} (isHead : head ∈ shellHeads)
    (isEnding : ending ∈ shellEnds) (inner : Keeps 0 steps) :
    Keeps 0 (.line head :: (steps ++ [.line ending])) := by
  have noEnding : ∀ text ∈ shellHeads, .inside = modeBefore text := by decide +kernel
  have noHead : ∀ text ∈ shellHeads, .inside = modeAfter text := by decide +kernel
  have heads : ∀ text ∈ shellEnds, .inside = modeBefore text ∧ .inside = modeAfter text := by decide +kernel
  have first : Keeps 0 [.line head] :=
    Turns.line (fits_of_mem_shells head (List.mem_append_left _ isHead)) (noEnding head isHead) (noHead head isHead)
  have last : Keeps 0 [.line ending] :=
    Turns.line (fits_of_mem_shells ending (List.mem_append_right _ isEnding)) (heads ending isEnding).1
      (heads ending isEnding).2
  exact first.append (inner.append last)

theorem keeps_fragmentBlock (isolated : Bool) (fragment : Source) : Keeps 0 (fragmentBlock isolated fragment) := by
  apply keeps_marked
  cases isolated with
  | true => exact keeps_shell (by decide) (by decide) (.embed fragment)
  | false => exact .embed fragment

theorem keeps_initRoutine (isolated : Bool) (fragments : List Source) : Keeps 0 (initRoutine isolated fragments) :=
  keeps_shell (by decide) (by decide)
    (.flatMap fun fragment _ => keeps_fragmentBlock isolated fragment)

theorem keeps_setup (faultless : options.Faultless) : Keeps 0 (setup options) := by
  have each {step : Step} (member : step ∈ setup options) : Keeps 0 [step] := by
    obtain ⟨text, rfl, feedless, last, head⟩ := line_of_mem_setup faultless member
    refine keeps_line ⟨feedless, head ' ' rfl (by decide)⟩ ?_ (head '\x7d' rfl (by decide))
    rw [last]
    decide
  exact (each (.head _)).append ((each (.tail _ (.head _))).append (each (.tail _ (.tail _ (.head _)))))

theorem keeps_bundlePart (bundle : Option Text) : Keeps 0 (bundlePart bundle) := by
  cases bundle with
  | none => exact .nil
  | some text => exact .splice (wrapBundle text)

theorem keeps_exportsPart (identifier : options.runtimeVar.all isIdentifierPart = true) (bundle : Option Text) :
    Keeps 0 (exportsPart options bundle) := by
  have flag : Keeps 0 [.line ("var " ++ flagName ++ " = true;")] :=
    keeps_line ⟨by decide, by decide⟩ (by decide) (by decide)
  have branches := ((turns_namedModuleBranch identifier).append (turns_commonJsBranch identifier)).append
    (keeps_plainBranch identifier)
  rw [exportsPart_eq]
  exact (flag.append (keeps_bundlePart bundle)).append branches

/-- The steps of a module are nested as they should be from its first line to its last. -/
theorem keeps_moduleSteps (faultless : options.Faultless) (core : Source) (fragments : List Source)
    (bundle : Option Text) : Keeps 0 (moduleSteps options core fragments bundle) := by
  have coreKept : Keeps 0 (coreBlock core) := keeps_marked (.embed core) core.label
  have exports := keeps_exportsPart (whole_of_isIdentifier faultless.runtimeVar) bundle
  have inner := ((coreKept.append (keeps_setup faultless)).append
    (keeps_initRoutine options.scopeTemplates fragments)).append exports
  have whole : Keeps 0 (.line "(function (global) \x7b" :: (_ ++ [.line closingRow])) :=
    keeps_shell (by decide) (by decide) inner
  simp only [List.append_assoc] at whole
  simp only [moduleSteps, List.append_assoc, List.cons_append, List.nil_append]
  exact whole

end Module

end UniversalModule.Emission
