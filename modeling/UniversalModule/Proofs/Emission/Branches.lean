import UniversalModule.Proofs.Compile.Bundling
import UniversalModule.Proofs.Emission.Statements
import UniversalModule.Proofs.Json.Values
import UniversalModule.Proofs.Options
import UniversalModule.Proofs.Resolution.Selection

/-!
The branches as rows of the emitted text. The statements of a branch are its indented rows, below
the last row that is the head of the branch; embedded texts stand above all three heads, so that
they cannot pass for a branch.
-/

namespace UniversalModule.Emission

def branchHead : Branch → Text
  | .namedModule => "if (typeof modules === \"object\") \x7b"
  | .commonJs => "\x7d else if (typeof exports === \"object\") \x7b"
  | .plain => "if (" ++ flagName ++ ") \x7b"

def isIndented (row : Text) : Bool := row.head? == some ' '

def unindented (row : Text) : Text := row.dropWhile (· == ' ')

def behindLast (row : Text) (rows : List Text) : List Text := (rows.reverse.takeWhile (· != row)).reverse

def branchStatements (branch : Branch) (code : Text) : List Text :=
  ((behindLast (branchHead branch) code.rows).takeWhile isIndented).map unindented

def definitionStatements (name : Text) (modules parameters : List Text) (handler : List Statement) :
    List Statement :=
  .define name modules parameters :: (handler ++ [.endDefinition])

def statements (options : Options) (branch : Branch) : List Statement :=
  let modules := Resolution.modules options.requires
  let assigned := (Resolution.assignments options.requires branch).map Statement.assign
  match branch with
  | .namedModule =>
      definitionStatements options.exportName modules (parameterNames modules.length)
          (assigned ++ [.callInit, .provide options.runtimeVar]) ++
        (options.effectiveAliases.flatMap (fun name =>
            definitionStatements name [options.exportName] ["runtime"] [.provide "runtime"]) ++
          [.lowerFlag])
  | .commonJs =>
      assigned ++ .callInit :: (options.effectiveAliases.map (.publish options.runtimeVar) ++
        [.handOver, .lowerFlag])
  | .plain =>
      assigned ++ .callInit ::
        (options.exportName :: options.effectiveAliases).map (.publish globalName)

theorem behindLast_append {row : Text} {after : List Text} (fresh : row ∉ after) (before : List Text) :
    behindLast row (before ++ row :: after) = after := by
  have others : ∀ other ∈ after.reverse, (other != row) = true := by
    intro other member
    rw [bne_iff_ne]
    rintro rfl
    exact fresh (List.mem_reverse.mp member)
  unfold behindLast
  rw [List.reverse_append, List.reverse_cons, List.append_assoc, List.takeWhile_append_of_pos others,
    List.singleton_append, List.takeWhile_cons, if_neg (by simp), List.append_nil, List.reverse_reverse]

theorem definition_eq (runtime name : Text) (modules parameters : List Text) (handler : List Step) :
    definition name modules parameters handler =
      [.line ((Statement.define name modules parameters).text runtime)] ++
        ((.indent :: (handler ++ [.outdent])) ++ [.line "\x7d);"]) := by
  rw [Statement.text_define, definition]
  simp only [List.append_assoc, List.cons_append, List.nil_append]
  rfl

def statementLines (runtime : Text) (statements : List Statement) : List Step :=
  statements.map fun statement => .line (statement.text runtime)

theorem assignmentLines_eq (options : Options) (branch : Branch) :
    assignmentLines options branch =
      statementLines options.runtimeVar ((Resolution.assignments options.requires branch).map .assign) := by
  rw [statementLines, List.map_map]
  exact List.map_congr_left fun assignment _ =>
    congrArg Step.line (Statement.text_assign options.runtimeVar assignment).symm

theorem publicationLines_eq (runtime object : Text) (names : List Text) :
    (names.map fun name => .line (subscriptChain object [name] ++ " = " ++ runtime ++ ";")) =
      statementLines runtime (names.map (.publish object)) := by
  rw [statementLines, List.map_map]
  refine List.map_congr_left fun name _ => congrArg Step.line ?_
  rw [Statement.text_publish, subscriptChain]
  simp only [List.append_assoc, List.cons_append, List.flatMap_cons, List.flatMap_nil, List.nil_append]
  rfl

theorem provideLine_eq (runtime value : Text) :
    [.line (provideName ++ "(" ++ value ++ ");")] = statementLines runtime [.provide value] := by
  have shape : (Statement.provide value).text runtime = provideName ++ "(" ++ value ++ ");" := by
    simp only [List.append_assoc]
    rfl
  rw [← shape]
  rfl

structure Indents (row text : Text) : Prop where
  indented : isIndented row = true
  unindented : unindented row = text

/-- The steps write the statements, one a row and all indented, and are back at the depth. -/
structure Writes (runtime : Text) (depth : Nat) (steps : List Step) (statements : List Statement) :
    Prop where
  level : depthAfter depth steps = depth
  complete : (render depth steps).Complete
  rows : List.Forall₂ Indents (render depth steps).rows (statements.map (Statement.text runtime))
  proper : ∀ statement ∈ statements, statement.Proper

namespace Writes

variable {runtime : Text} {depth : Nat} {steps others : List Step}
  {statements following : List Statement}

theorem nil : Writes runtime depth [] [] where
  level := rfl
  complete := .inl rfl
  rows := .nil
  proper := by simp

theorem append (first : Writes runtime depth steps statements)
    (second : Writes runtime depth others following) :
    Writes runtime depth (steps ++ others) (statements ++ following) where
  level := by
    have both : depthAfter depth (steps ++ others) = depthAfter (depthAfter depth steps) others :=
      List.foldl_append
    rw [both, first.level, second.level]
  complete := by
    rw [render_append, first.level]
    exact Text.complete_append first.complete second.complete
  rows := by
    rw [render_append, first.level, Text.rows_append first.complete, List.map_append]
    exact List.rel_append first.rows second.rows
  proper := List.forall_mem_append.mpr ⟨first.proper, second.proper⟩

theorem render_line (depth : Nat) (text : Text) :
    render depth [.line text] = indentation depth ++ text ++ ['\n'] := List.append_nil _

theorem line (identifier : runtime.all isIdentifierPart = true) {statement : Statement}
    (proper : statement.Proper) (deep : 0 < depth) :
    Writes runtime depth [.line (statement.text runtime)] [statement] where
  level := rfl
  complete := by
    rw [render_line]
    exact Text.complete_append_feed _
  rows := by
    have feedless : '\n' ∉ indentation depth ++ statement.text runtime := by
      rw [List.mem_append, not_or]
      constructor
      · intro member
        exact absurd (List.eq_of_mem_replicate member) (by decide)
      · exact statement.feed_notMem_text identifier proper
    rw [render_line, Text.rows_append_feed feedless]
    apply List.Forall₂.cons _ .nil
    constructor
    · obtain ⟨more, rfl⟩ := Nat.exists_eq_succ_of_ne_zero (Nat.ne_of_gt deep)
      rfl
    · -- Only the indentation is dropped: a statement does not begin with a space.
      have spaces : ∀ c ∈ indentation depth, (c == ' ') = true := by
        intro c member
        rw [List.eq_of_mem_replicate member]
        rfl
      rw [unindented, List.dropWhile_append_of_pos spaces]
      have head := statement.head_text identifier proper
      cases written : statement.text runtime with
      | nil => rfl
      | cons c rest =>
          rw [written, List.head?_cons] at head
          rw [List.dropWhile_cons, if_neg (by simpa using head)]
  proper := by
    intro other member
    rw [List.mem_singleton.mp member]
    exact proper

theorem lines (identifier : runtime.all isIdentifierPart = true) (deep : 0 < depth)
    {statements : List Statement} (proper : ∀ statement ∈ statements, statement.Proper) :
    Writes runtime depth (statementLines runtime statements) statements := by
  induction statements with
  | nil => exact .nil
  | cons statement rest induction =>
      have others := induction fun other member => proper other (List.mem_cons_of_mem statement member)
      exact (line identifier (proper statement List.mem_cons_self) deep).append others

theorem nested (inner : Writes runtime (depth + 1) steps statements) :
    Writes runtime depth (.indent :: (steps ++ [.outdent])) statements := by
  have text : render depth (.indent :: (steps ++ [.outdent])) = render (depth + 1) steps := by
    have opened : render depth (.indent :: (steps ++ [.outdent])) =
        render (depth + 1) (steps ++ [.outdent]) := rfl
    rw [opened, render_append]
    exact List.append_nil _
  constructor
  · have whole : depthAfter depth (.indent :: (steps ++ [.outdent])) =
        depthAfter (depth + 1) (steps ++ [.outdent]) := rfl
    have both : depthAfter (depth + 1) (steps ++ [.outdent]) =
        depthAfter (depthAfter (depth + 1) steps) [.outdent] := List.foldl_append
    rw [whole, both, inner.level]
    rfl
  · rw [text]
    exact inner.complete
  · rw [text]
    exact inner.rows
  · exact inner.proper

theorem definition (identifier : runtime.all isIdentifierPart = true) (deep : 0 < depth)
    {name : Text} {modules parameters : List Text}
    (whole : ∀ parameter ∈ parameters, parameter.all isIdentifierPart = true)
    (handler : Writes runtime (depth + 1) steps statements) :
    Writes runtime depth (Emission.definition name modules parameters steps)
      (definitionStatements name modules parameters statements) := by
  have proper : (Statement.define name modules parameters).Proper := whole
  have first := line identifier proper deep
  have closed : Statement.endDefinition.Proper := trivial
  have last : Writes runtime depth [.line "\x7d);"] [.endDefinition] := line identifier closed deep
  rw [definition_eq runtime]
  exact first.append (handler.nested.append last)

theorem flatMap {α : Type} {items : List α}
    {made : α → List Step} {stated : α → List Statement}
    (each : ∀ item ∈ items, Writes runtime depth (made item) (stated item)) :
    Writes runtime depth (items.flatMap made) (items.flatMap stated) := by
  induction items with
  | nil => exact .nil
  | cons item rest induction =>
      rw [List.flatMap_cons, List.flatMap_cons]
      exact (each item List.mem_cons_self).append
        (induction fun other member => each other (List.mem_cons_of_mem item member))

end Writes

section Branches

variable {options : Options}

/-- Names of accepted options are made of what identifiers are made of. -/
theorem whole_of_isIdentifier {name : Text} (identifier : isIdentifier name = true) :
    name.all isIdentifierPart = true := by
  cases name with
  | nil => rfl
  | cons c rest =>
      simp only [isIdentifier, Bool.and_eq_true] at identifier
      obtain ⟨⟨start, others⟩, -⟩ := identifier
      rw [List.all_cons, others, Bool.and_true]
      simp only [isIdentifierStart, isIdentifierPart, Char.isAlphanum, Bool.or_eq_true] at start ⊢
      rcases start with (letter | underscore) | dollar
      · exact .inl (.inl (.inl letter))
      · exact .inl (.inr underscore)
      · exact .inr dollar

/-- The runtime is made in lines of their own, each of which ends in a semicolon and begins with a name or with
the dot behind one. -/
theorem line_of_mem_setup (faultless : options.Faultless) {step : Step} (member : step ∈ setup options) :
    ∃ text, step = .line text ∧ '\n' ∉ text ∧ text.getLast? = some ';' ∧
      ∀ c, isIdentifierPart c = false → c ≠ '.' → text.head? ≠ some c := by
  have runtime := whole_of_isIdentifier faultless.runtimeVar
  have runtimeFeed := Statement.feed_notMem_name runtime
  have exportFeed := Statement.feed_notMem_name (whole_of_isIdentifier faultless.exportName)
  have literal : '\n' ∉ options.coreOptions.literal := by
    intro newline
    exact absurd (Json.printable_render .script options.coreOptions newline).1 (by decide)
  have behindRuntime {rest : Text} (feedless : '\n' ∉ rest) (dot : rest.head? = some '.')
      (ends : rest.getLast? = some ';') : ∃ text, Step.line (options.runtimeVar ++ rest) = .line text ∧
        '\n' ∉ text ∧ text.getLast? = some ';' ∧
          ∀ c, isIdentifierPart c = false → c ≠ '.' → text.head? ≠ some c := by
    refine ⟨_, rfl, ?_, List.mem_getLast?_append_of_mem_getLast? ends, fun c outside other => ?_⟩
    · rw [List.mem_append, not_or]
      exact ⟨runtimeFeed, feedless⟩
    · refine Statement.head_name_append runtime outside ?_
      rw [dot]
      exact fun same => other (Option.some.inj same).symm
  simp only [setup, List.mem_cons, List.not_mem_nil, or_false] at member
  rcases member with rfl | rfl | rfl
  · refine ⟨_, rfl, ?_, List.mem_getLast?_append_of_mem_getLast? rfl, fun c outside _ same => ?_⟩
    · simp only [List.mem_append, not_or]
      exact ⟨⟨⟨⟨by decide, runtimeFeed⟩, by decide⟩, exportFeed⟩, by decide⟩
    · cases Option.some.inj same
      exact absurd outside (by decide)
  · rw [List.append_assoc, List.append_assoc]
    refine behindRuntime ?_ rfl
      (List.mem_getLast?_append_of_mem_getLast? (List.mem_getLast?_append_of_mem_getLast? rfl))
    simp only [List.mem_append, not_or]
    exact ⟨by decide, literal, by decide⟩
  · rw [List.append_assoc, List.append_assoc]
    refine behindRuntime ?_ rfl
      (List.mem_getLast?_append_of_mem_getLast? (List.mem_getLast?_append_of_mem_getLast? rfl))
    simp only [List.mem_append, not_or]
    exact ⟨by decide, runtimeFeed, by decide⟩

theorem writes_assignmentLines (identifier : options.runtimeVar.all isIdentifierPart = true)
    (branch : Branch) {depth : Nat} (deep : 0 < depth) :
    Writes options.runtimeVar depth (assignmentLines options branch)
      ((Resolution.assignments options.requires branch).map .assign) := by
  have proper : ∀ statement ∈ (Resolution.assignments options.requires branch).map Statement.assign,
      statement.Proper := by
    intro statement member
    obtain ⟨assignment, among, rfl⟩ := List.mem_map.mp member
    exact Resolution.proper_of_mem_assignments among
  rw [assignmentLines_eq]
  exact Writes.lines identifier deep proper

theorem writes_callInit (identifier : options.runtimeVar.all isIdentifierPart = true) {depth : Nat}
    (deep : 0 < depth) : Writes options.runtimeVar depth [callInit] [.callInit] := by
  have proper : Statement.callInit.Proper := trivial
  exact Writes.line identifier proper deep

theorem writes_lowerFlag (identifier : options.runtimeVar.all isIdentifierPart = true) {depth : Nat}
    (deep : 0 < depth) : Writes options.runtimeVar depth [lowerFlag] [.lowerFlag] := by
  have proper : Statement.lowerFlag.Proper := trivial
  exact Writes.line identifier proper deep

theorem writes_provide (identifier : options.runtimeVar.all isIdentifierPart = true) {depth : Nat}
    (deep : 0 < depth) (value : Text) (whole : value.all isIdentifierPart = true) :
    Writes options.runtimeVar depth [.line (provideName ++ "(" ++ value ++ ");")] [.provide value] := by
  have proper : (Statement.provide value).Proper := whole
  rw [provideLine_eq options.runtimeVar]
  exact Writes.line identifier proper deep

theorem writes_publications (identifier : options.runtimeVar.all isIdentifierPart = true) {depth : Nat}
    (deep : 0 < depth) {object : Text} (whole : object.all isIdentifierPart = true) (names : List Text) :
    Writes options.runtimeVar depth
      (names.map fun name => .line (subscriptChain object [name] ++ " = " ++ options.runtimeVar ++ ";"))
      (names.map (.publish object)) := by
  have proper : ∀ statement ∈ names.map (Statement.publish object), statement.Proper := by
    intro statement member
    obtain ⟨name, -, rfl⟩ := List.mem_map.mp member
    exact whole
  rw [publicationLines_eq]
  exact Writes.lines identifier deep proper

theorem whole_parameterName (index : Nat) : (parameterName index).all isIdentifierPart = true := by
  rw [parameterName, List.all_append, Bool.and_eq_true]
  constructor
  · decide
  · apply List.all_eq_true.mpr
    intro c member
    simp [isIdentifierPart, Char.isAlphanum, Text.isDigit_of_mem_ofNat member]

theorem whole_parameterNames (count : Nat) :
    ∀ parameter ∈ parameterNames count, parameter.all isIdentifierPart = true := by
  intro parameter member
  obtain ⟨index, -, rfl⟩ := List.mem_map.mp member
  exact whole_parameterName index

theorem writes_namedModuleBranch (identifier : options.runtimeVar.all isIdentifierPart = true) :
    ∃ inner, namedModuleBranch options = .line (branchHead .namedModule) :: inner ∧
      Writes options.runtimeVar 0 inner (statements options .namedModule) := by
  have handler := (writes_assignmentLines identifier .namedModule (show 0 < 2 by decide)).append
    ((writes_callInit identifier (by decide)).append
      (writes_provide identifier (by decide) options.runtimeVar identifier))
  have canonical := @Writes.definition _ 1 _ _ identifier (by decide) options.exportName
    (Resolution.modules options.requires) _
    (whole_parameterNames (Resolution.modules options.requires).length) handler
  have aliases : Writes options.runtimeVar 1
      (options.effectiveAliases.flatMap fun name =>
        definition name [options.exportName] ["runtime"] [.line (provideName ++ "(runtime);")])
      (options.effectiveAliases.flatMap fun name =>
        definitionStatements name [options.exportName] ["runtime"] [.provide "runtime"]) := by
    apply Writes.flatMap
    intro name _
    apply Writes.definition identifier (by decide)
    · intro parameter member
      rw [List.mem_singleton.mp member]
      decide
    · exact writes_provide identifier (by decide) "runtime" (by decide)
  have inner := (canonical.append (aliases.append (writes_lowerFlag identifier (by decide)))).nested
  refine ⟨_, ?_, inner⟩
  simp only [namedModuleBranch, List.append_assoc, List.cons_append, List.nil_append]
  rfl

theorem writes_commonJsBranch (identifier : options.runtimeVar.all isIdentifierPart = true) :
    ∃ inner, commonJsBranch options = .line (branchHead .commonJs) :: (inner ++ [.line "\x7d"]) ∧
      Writes options.runtimeVar 0 inner (statements options .commonJs) := by
  have proper : Statement.handOver.Proper := trivial
  have aliases := writes_publications identifier (show 0 < 1 by decide) identifier options.effectiveAliases
  have inner := ((writes_assignmentLines identifier .commonJs (by decide)).append
    ((writes_callInit identifier (by decide)).append (aliases.append
      ((Writes.line identifier proper (by decide)).append (writes_lowerFlag identifier (by decide)))))).nested
  refine ⟨_, ?_, inner⟩
  simp only [commonJsBranch, List.append_assoc, List.cons_append, List.nil_append]
  rfl

theorem writes_plainBranch (identifier : options.runtimeVar.all isIdentifierPart = true) :
    ∃ inner, plainBranch options = .line (branchHead .plain) :: (inner ++ [.line "\x7d"]) ∧
      Writes options.runtimeVar 0 inner (statements options .plain) := by
  have ambient : globalName.all isIdentifierPart = true := by decide
  have names := writes_publications identifier (show 0 < 1 by decide) ambient
    (options.exportName :: options.effectiveAliases)
  have inner := ((writes_assignmentLines identifier .plain (by decide)).append
    ((writes_callInit identifier (by decide)).append names)).nested
  refine ⟨_, ?_, inner⟩
  simp only [plainBranch, List.append_assoc, List.cons_append, List.nil_append]
  rfl

theorem proper_of_mem_statements (identifier : options.runtimeVar.all isIdentifierPart = true)
    (branch : Branch) : ∀ statement ∈ statements options branch, statement.Proper := by
  cases branch with
  | namedModule =>
      obtain ⟨_, _, writes⟩ := writes_namedModuleBranch identifier
      exact writes.proper
  | commonJs =>
      obtain ⟨_, _, writes⟩ := writes_commonJsBranch identifier
      exact writes.proper
  | plain =>
      obtain ⟨_, _, writes⟩ := writes_plainBranch identifier
      exact writes.proper

theorem rows_line {text : Text} (feedless : '\n' ∉ text) (rest : List Step) :
    (render 0 (.line text :: rest)).rows = text :: (render 0 rest).rows := by
  have shape : render 0 (.line text :: rest) = text ++ '\n' :: render 0 rest := by
    have whole : render 0 (.line text :: rest) = text ++ ['\n'] ++ render 0 rest := rfl
    rw [whole, List.append_assoc]
    rfl
  rw [shape, Text.rows_append_feed feedless]

theorem Writes.rows_append {runtime : Text} {inner : List Step} {statements : List Statement}
    (writes : Writes runtime 0 inner statements) (rest : List Step) :
    (render 0 (inner ++ rest)).rows = (render 0 inner).rows ++ (render 0 rest).rows := by
  rw [render_append, writes.level, Text.rows_append writes.complete]

theorem feed_notMem_branchHead (branch : Branch) : '\n' ∉ branchHead branch := by
  cases branch <;> decide

def closingRow : Text := "\x7d)(typeof window !== \"undefined\" ? window : global);"

/-- The rows behind the bundle are the three branches and the end of the module. -/
theorem rows_afterBundle (identifier : options.runtimeVar.all isIdentifierPart = true) :
    ∃ rows : Branch → List Text,
      (∀ branch, List.Forall₂ Indents (rows branch)
        ((statements options branch).map (Statement.text options.runtimeVar))) ∧
      (render 0 (afterBundle options)).rows =
        branchHead .namedModule :: (rows .namedModule ++ branchHead .commonJs :: (rows .commonJs ++
          ['\x7d'] :: branchHead .plain :: (rows .plain ++ [['\x7d'], closingRow]))) := by
  obtain ⟨named, namedSteps, namedWrites⟩ := writes_namedModuleBranch identifier
  obtain ⟨common, commonSteps, commonWrites⟩ := writes_commonJsBranch identifier
  obtain ⟨plain, plainSteps, plainWrites⟩ := writes_plainBranch identifier
  let rows : Branch → List Text
    | .namedModule => (render 0 named).rows
    | .commonJs => (render 0 common).rows
    | .plain => (render 0 plain).rows
  have brace : '\n' ∉ "\x7d".toList := by decide
  refine ⟨rows, ?_, ?_⟩
  · intro branch
    cases branch with
    | namedModule => exact namedWrites.rows
    | commonJs => exact commonWrites.rows
    | plain => exact plainWrites.rows
  · rw [afterBundle, namedSteps, commonSteps, plainSteps]
    simp only [List.append_assoc, List.cons_append, List.nil_append]
    rw [rows_line (feed_notMem_branchHead _), namedWrites.rows_append,
      rows_line (feed_notMem_branchHead _), commonWrites.rows_append, rows_line brace,
      rows_line (feed_notMem_branchHead _), plainWrites.rows_append, rows_line brace,
      rows_line (by decide)]
    rfl

theorem isIndented_of_mem {rows texts : List Text} (indents : List.Forall₂ Indents rows texts) :
    ∀ row ∈ rows, isIndented row = true := by
  induction indents with
  | nil => simp
  | cons first _ induction =>
      intro row member
      rcases List.mem_cons.mp member with rfl | member
      · exact first.indented
      · exact induction row member

theorem map_unindented {rows texts : List Text} (indents : List.Forall₂ Indents rows texts) :
    rows.map unindented = texts := by
  induction indents with
  | nil => rfl
  | cons first _ induction => rw [List.map_cons, first.unindented, induction]

theorem branchStatements_eq {branch : Branch} {code next : Text} {before rows after texts : List Text}
    (whole : code.rows = before ++ branchHead branch :: (rows ++ next :: after))
    (indents : List.Forall₂ Indents rows texts) (flush : isIndented next = false)
    (fresh : branchHead branch ∉ next :: after) : branchStatements branch code = texts := by
  have indented := isIndented_of_mem indents
  have behind : branchHead branch ∉ rows ++ next :: after := by
    rw [List.mem_append, not_or]
    refine ⟨?_, fresh⟩
    intro member
    have shown := indented _ member
    cases branch <;> exact absurd shown (by decide)
  unfold branchStatements
  rw [whole, behindLast_append behind, List.takeWhile_append_of_pos indented, List.takeWhile_cons,
    if_neg (by simp [flush]), List.append_nil, map_unindented indents]

/-- The branches are read off a module that ends with them, whatever stands before. -/
theorem branchStatements_of_rows (identifier : options.runtimeVar.all isIdentifierPart = true)
    {code : Text} {before more : List Text}
    (whole : code.rows = before ++ ((render 0 (afterBundle options)).rows ++ more))
    (comments : ∀ row ∈ more, row.head? = some '/') (branch : Branch) :
    branchStatements branch code = (statements options branch).map (Statement.text options.runtimeVar) := by
  obtain ⟨rows, indents, behind⟩ := rows_afterBundle identifier
  have noStatement (head other : Branch) : branchHead head ∉ rows other := by
    intro member
    have shown := isIndented_of_mem (indents other) _ member
    cases head <;> exact absurd shown (by decide)
  have noComment (head : Branch) : branchHead head ∉ more := by
    intro member
    have start := comments _ member
    cases head <;> exact absurd start (by decide)
  rw [behind] at whole
  simp only [List.append_assoc, List.cons_append] at whole
  -- The heads differ, so that each is the last row of its kind.
  cases branch with
  | namedModule =>
      apply branchStatements_eq whole (indents .namedModule) (by decide)
      simp only [List.mem_cons, List.mem_append, not_or]
      exact ⟨by decide, noStatement _ _, by decide, by decide, noStatement _ _, by decide, by decide,
        List.not_mem_nil, noComment _⟩
  | commonJs =>
      have reached : code.rows = (before ++ branchHead .namedModule :: rows .namedModule) ++
          branchHead .commonJs :: (rows .commonJs ++ ['\x7d'] :: branchHead .plain ::
            (rows .plain ++ ['\x7d'] :: closingRow :: ([] ++ more))) := by
        rw [whole, List.append_assoc, List.cons_append]
      apply branchStatements_eq reached (indents .commonJs) (by decide)
      simp only [List.mem_cons, List.mem_append, not_or]
      exact ⟨by decide, by decide, noStatement _ _, by decide, by decide, List.not_mem_nil, noComment _⟩
  | plain =>
      have reached : code.rows = (before ++ branchHead .namedModule :: (rows .namedModule ++
          branchHead .commonJs :: (rows .commonJs ++ [['\x7d']]))) ++
            branchHead .plain :: (rows .plain ++ ['\x7d'] :: closingRow :: ([] ++ more)) := by
        rw [whole]
        simp only [List.append_assoc, List.cons_append, List.nil_append]
      apply branchStatements_eq reached (indents .plain) (by decide)
      simp only [List.mem_cons, List.mem_append, not_or]
      exact ⟨by decide, by decide, List.not_mem_nil, noComment _⟩

end Branches

end UniversalModule.Emission
