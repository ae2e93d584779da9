import UniversalModule.Emission.Module
import UniversalModule.Proofs.Resolution.Statements
import UniversalModule.Proofs.Text.Split

/-!
The statements of the three branches and what is read back from each. A statement begins with a
name, and a reader with a name and a mark; so a statement whose name or mark is another gives a
reader nothing, whatever stands in the literals behind the mark.
-/

namespace UniversalModule.Emission

inductive Statement where
  | assign (assignment : Assignment)
  | callInit
  | provide (value : Text)
  | define (name : Text) (modules parameters : List Text)
  | endDefinition
  | publish (root name : Text)
  | handOver
  | lowerFlag
deriving DecidableEq

namespace Statement

def subject (runtime : Text) : Statement → Text
  | .assign _ => runtime
  | .callInit => initName
  | .provide _ => provideName
  | .define _ _ _ => "modules"
  | .endDefinition => []
  | .publish root _ => root
  | .handOver => "module"
  | .lowerFlag => flagName

def predicate (runtime : Text) : Statement → Text
  | .assign assignment =>
      ".lib[" ++ (Json.stringLiteral assignment.name ++ ("] = " ++ (assignment.value.render ++ ";")))
  | .callInit => "();"
  | .provide value => '(' :: (value ++ ");")
  | .define name modules parameters =>
      ".define(" ++ (Json.stringLiteral name ++ (", [" ++
        (Text.joinWith ", " (modules.map Json.stringLiteral) ++ ("], function (" ++
          (Text.joinWith ", " (provideName :: parameters) ++ ") \x7b")))))
  | .endDefinition => "\x7d);"
  | .publish _ name => '[' :: (Json.stringLiteral name ++ ("] = " ++ (runtime ++ ";")))
  | .handOver => ".exports = " ++ (runtime ++ ";")
  | .lowerFlag => " = false;"

def text (runtime : Text) (statement : Statement) : Text :=
  statement.subject runtime ++ statement.predicate runtime

/-- Names are made of what identifiers are made of, and a path has a segment. -/
def Proper : Statement → Prop
  | .assign assignment => assignment.value ≠ .global []
  | .provide value => value.all isIdentifierPart = true
  | .define _ _ parameters => ∀ parameter ∈ parameters, parameter.all isIdentifierPart = true
  | .publish root _ => root.all isIdentifierPart = true
  | _ => True

def definition? : Statement → Option (Text × List Text)
  | .define name modules _ => some (name, modules)
  | _ => none

def publication? (object : Text) : Statement → Option Text
  | .publish root name => if root = object then some name else none
  | _ => none

def assignment? : Statement → Option Assignment
  | .assign assignment => some assignment
  | _ => none

end Statement

def initCall : Text := initName ++ "();"

theorem Statement.text_assign (runtime : Text) (assignment : Assignment) :
    (Statement.assign assignment).text runtime = assignment.render runtime := by
  unfold Assignment.render
  simp only [List.append_assoc]
  rfl

theorem Statement.text_define (runtime name : Text) (modules parameters : List Text) :
    (Statement.define name modules parameters).text runtime =
      "modules.define(" ++ (Json.stringLiteral name ++ (", [" ++
        (Text.joinWith ", " (modules.map Json.stringLiteral) ++ ']' :: (", function (" ++
          (Text.joinWith ", " (provideName :: parameters) ++ ") \x7b"))))) := rfl

theorem Statement.text_publish (runtime root name : Text) :
    (Statement.publish root name).text runtime =
      root ++ '[' :: (Json.stringLiteral name ++ ("] = " ++ (runtime ++ ";"))) := rfl

def defined? (statement : Text) : Option (Text × List Text) := do
  let rest ← Text.after? "modules.define(" statement
  let (name, rest) ← Json.readText rest
  let rest ← Text.after? ", [" rest
  let (modules, rest) ← Json.readItems Json.readText rest
  let _ ← Text.after? ", function (" rest
  some (name, modules)

/-- Reads a statement that puts the runtime under a name on an object. -/
def exported? (object runtime statement : Text) : Option Text := do
  let rest ← Text.after? (object ++ "[") statement
  let (name, rest) ← Json.readText rest
  if rest = "] = " ++ runtime ++ ";" then some name else none

def EndsName (text : Text) : Prop := ∃ c rest, text = c :: rest ∧ isIdentifierPart c = false

theorem EndsName.append {first : Text} (ends : EndsName first) (second : Text) :
    EndsName (first ++ second) := by
  obtain ⟨c, rest, rfl, other⟩ := ends
  exact ⟨c, rest ++ second, rfl, other⟩

theorem takeWhile_name {name following : Text} (whole : name.all isIdentifierPart = true)
    (ends : EndsName following) : (name ++ following).takeWhile isIdentifierPart = name := by
  obtain ⟨c, rest, rfl, other⟩ := ends
  rw [List.takeWhile_append_of_pos (List.all_eq_true.mp whole), List.takeWhile_cons,
    if_neg (by simp [other]), List.append_nil]

theorem after?_name {name mark subject predicate : Text} (nameWhole : name.all isIdentifierPart = true)
    (subjectWhole : subject.all isIdentifierPart = true) (markEnds : EndsName mark)
    (predicateEnds : EndsName predicate) :
    Text.after? (name ++ mark) (subject ++ predicate) =
      if subject = name then Text.after? mark predicate else none := by
  by_cases same : subject = name
  · rw [if_pos same, same]
    apply Option.ext
    intro rest
    rw [Text.after?_eq_some_iff, Text.after?_eq_some_iff, List.append_assoc, List.append_cancel_left_eq]
  · rw [if_neg same, Option.eq_none_iff_forall_ne_some]
    intro rest found
    rw [Text.after?_eq_some_iff, List.append_assoc] at found
    have first := takeWhile_name subjectWhole predicateEnds
    rw [found, takeWhile_name nameWhole (markEnds.append rest)] at first
    exact same first.symm

namespace Statement

variable {runtime : Text}

theorem subject_whole (identifier : runtime.all isIdentifierPart = true) {statement : Statement}
    (proper : statement.Proper) : (statement.subject runtime).all isIdentifierPart = true := by
  cases statement with
  | assign assignment => exact identifier
  | publish root name => exact proper
  | _ => rfl

theorem predicate_ends (runtime : Text) (statement : Statement) :
    EndsName (statement.predicate runtime) := by
  cases statement <;> exact ⟨_, _, rfl, by decide⟩

/-- A statement gives a reader what follows its mark, provided that the names agree. -/
theorem after?_text (identifier : runtime.all isIdentifierPart = true) {statement : Statement}
    (proper : statement.Proper) (name : Text) {mark : Text} (whole : name.all isIdentifierPart = true)
    (ends : EndsName mark) :
    Text.after? (name ++ mark) (statement.text runtime) =
      if statement.subject runtime = name then Text.after? mark (statement.predicate runtime) else none :=
  after?_name whole (subject_whole identifier proper) ends (predicate_ends runtime statement)

theorem after?_text_none (identifier : runtime.all isIdentifierPart = true) {statement : Statement}
    (proper : statement.Proper) (name : Text) {mark : Text} (whole : name.all isIdentifierPart = true)
    (ends : EndsName mark) (other : Text.after? mark (statement.predicate runtime) = none) :
    Text.after? (name ++ mark) (statement.text runtime) = none := by
  rw [after?_text identifier proper name whole ends, other, ite_self]

theorem readItems_literals (modules : List Text) (rest : Text) :
    Json.readItems Json.readText
        (Text.joinWith ", " (modules.map Json.stringLiteral) ++ ']' :: rest) = some (modules, rest) := by
  have each : ∀ entry ∈ modules.map fun module => (Json.stringLiteral module, module),
      Json.Reads Json.readText entry.1 entry.2 := by
    intro entry member
    obtain ⟨module, -, rfl⟩ := List.mem_map.mp member
    exact Json.reads_quoted .script module
  have spaced : (⟨[], [' '], [], rfl⟩ : Json.Gaps).text (modules.map Json.stringLiteral) =
      Text.joinWith ", " (modules.map Json.stringLiteral) := List.append_nil _
  have read := Json.readItems_text ⟨[], [' '], [], rfl⟩ each rest
  simp only [List.map_map, Function.comp_def, List.map_id'] at read
  rw [spaced] at read
  exact read

theorem defined?_text (identifier : runtime.all isIdentifierPart = true) {statement : Statement}
    (proper : statement.Proper) : defined? (statement.text runtime) = statement.definition? := by
  have marked : EndsName ".define(" := ⟨_, _, rfl, rfl⟩
  unfold defined?
  cases statement with
  | define name modules parameters =>
      rw [text_define, Text.after?_append]
      simp only [Option.bind_eq_bind, Option.bind_some, readText_stringLiteral, Text.after?_append,
        readItems_literals]
      rfl
  | _ =>
      have missing := after?_text_none identifier proper "modules" rfl marked rfl
      have joined : ("modules" : Text) ++ ".define(" = "modules.define(" := rfl
      rw [← joined, missing]
      rfl

/-- Only statements that put the runtime on the object itself are read as such. -/
theorem exported?_text (identifier : runtime.all isIdentifierPart = true) {statement : Statement}
    (proper : statement.Proper) {object : Text} (whole : object.all isIdentifierPart = true) :
    exported? object runtime (statement.text runtime) = statement.publication? object := by
  have marked : EndsName "[" := ⟨_, _, rfl, rfl⟩
  unfold exported?
  cases statement with
  | publish root name =>
      have head := after?_text identifier proper object whole marked
      have found : Text.after? "[" ((publish root name).predicate runtime) =
          some (Json.stringLiteral name ++ ("] = " ++ (runtime ++ ";"))) := rfl
      rw [head, found]
      by_cases same : root = object
      · have subject : (publish root name).subject runtime = object := same
        have ending : ("] = " : Text) ++ (runtime ++ ";") = "] = " ++ runtime ++ ";" :=
          (List.append_assoc _ _ _).symm
        rw [if_pos subject, publication?, if_pos same]
        simp only [Option.bind_eq_bind, Option.bind_some, readText_stringLiteral, ending, if_true]
      · have subject : ¬(publish root name).subject runtime = object := same
        rw [if_neg subject, publication?, if_neg same]
        rfl
  | _ =>
      rw [after?_text_none identifier proper object whole marked rfl]
      rfl

/-- A dependency's assignment is read back, and nothing else looks like one. -/
theorem parse?_text (identifier : runtime.all isIdentifierPart = true) {statement : Statement}
    (proper : statement.Proper) :
    Assignment.parse? runtime (statement.text runtime) = statement.assignment? := by
  have marked : EndsName ".lib[" := ⟨_, _, rfl, rfl⟩
  cases statement with
  | assign assignment =>
      rw [text_assign]
      exact Assignment.parse?_render runtime proper
  | _ =>
      have missing := after?_text_none identifier proper runtime identifier marked rfl
      unfold Assignment.parse?
      rw [missing]
      rfl

theorem text_eq_initCall_iff (identifier : runtime.all isIdentifierPart = true) {statement : Statement}
    (proper : statement.Proper) : statement.text runtime = initCall ↔ statement = .callInit := by
  have marked : EndsName "();" := ⟨_, _, rfl, rfl⟩
  constructor
  · intro same
    have found : Text.after? initCall (statement.text runtime) = some [] := by
      rw [same]
      rfl
    cases statement with
    | callInit => rfl
    | provide value =>
        -- The mark can be the same here, so that it takes the names.
        have head := after?_text identifier proper initName rfl marked
        have apart : ¬(provide value).subject runtime = initName := by
          have subject : (provide value).subject runtime = provideName := rfl
          rw [subject]
          decide
        rw [if_neg apart] at head
        exact absurd (head.symm.trans found) (by simp)
    | _ =>
        have missing := after?_text_none identifier proper initName rfl marked rfl
        exact absurd (missing.symm.trans found) (by simp)
  · rintro rfl
    rfl

theorem feed_notMem_name {name : Text} (whole : name.all isIdentifierPart = true) : '\n' ∉ name := by
  intro member
  exact absurd (List.all_eq_true.mp whole _ member) (by decide)

theorem feed_notMem_access (access : Access) : '\n' ∉ access.render := by
  intro member
  cases access with
  | global segments =>
      rcases List.mem_append.mp member with root | chain
      · exact absurd root (by decide)
      obtain ⟨segment, -, found⟩ := List.mem_flatMap.mp chain
      rcases List.mem_cons.mp found with opening | found
      · exact absurd opening (by decide)
      rcases List.mem_append.mp found with literal | closing
      · exact Json.feed_notMem_quoted .script segment literal
      · exact absurd (List.mem_singleton.mp closing) (by decide)
  | bundled package =>
      rcases List.mem_append.mp member with name | found
      · exact absurd name (by decide)
      rcases List.mem_cons.mp found with opening | found
      · exact absurd opening (by decide)
      rcases List.mem_append.mp found with literal | closing
      · exact Json.feed_notMem_quoted .script package literal
      · exact absurd (List.mem_singleton.mp closing) (by decide)
  | parameter index =>
      rcases List.mem_append.mp member with start | digit
      · exact absurd start (by decide)
      · exact absurd (Text.isDigit_of_mem_ofNat digit) (by decide)

theorem feed_notMem_joinWith {texts : List Text} (each : ∀ text ∈ texts, '\n' ∉ text) :
    '\n' ∉ Text.joinWith ", " texts := by
  intro member
  rcases Text.mem_joinWith member with comma | ⟨text, among, found⟩
  · exact absurd comma (by decide)
  · exact each text among found

theorem feed_notMem_text (identifier : runtime.all isIdentifierPart = true) {statement : Statement}
    (proper : statement.Proper) : '\n' ∉ statement.text runtime := by
  have named := feed_notMem_name identifier
  have literal (text : Text) : '\n' ∉ Json.stringLiteral text := Json.feed_notMem_quoted .script text
  cases statement with
  | assign assignment =>
      rw [text_assign, Assignment.render]
      simp only [List.mem_append, not_or]
      exact ⟨⟨⟨⟨⟨named, by decide⟩, literal _⟩, by decide⟩, feed_notMem_access _⟩, by decide⟩
  | provide value =>
      have shape : (provide value).text runtime = provideName ++ '(' :: (value ++ ");") := rfl
      rw [shape]
      simp only [List.mem_append, List.mem_cons, not_or]
      exact ⟨by decide, by decide, feed_notMem_name proper, by decide⟩
  | define name modules parameters =>
      have listed : '\n' ∉ Text.joinWith ", " (modules.map Json.stringLiteral) := by
        apply feed_notMem_joinWith
        intro quoted member
        obtain ⟨module, -, rfl⟩ := List.mem_map.mp member
        exact literal module
      have bound : '\n' ∉ Text.joinWith ", " (provideName :: parameters) := by
        apply feed_notMem_joinWith
        intro parameter member
        rcases List.mem_cons.mp member with rfl | member
        · decide
        · exact feed_notMem_name (proper parameter member)
      rw [text_define]
      simp only [List.mem_append, List.mem_cons, not_or]
      exact ⟨by decide, literal _, by decide, listed, by decide, by decide, bound, by decide⟩
  | publish root name =>
      rw [text_publish]
      simp only [List.mem_append, List.mem_cons, not_or]
      exact ⟨feed_notMem_name proper, by decide, literal _, by decide, named, by decide⟩
  | handOver =>
      have shape : handOver.text runtime = "module.exports = " ++ (runtime ++ ";") := rfl
      rw [shape]
      simp only [List.mem_append, not_or]
      exact ⟨by decide, named, by decide⟩
  | _ => exact of_decide_eq_true rfl

theorem head_name_append {name following : Text} {c : Char} (whole : name.all isIdentifierPart = true)
    (outside : isIdentifierPart c = false) (other : following.head? ≠ some c) :
    (name ++ following).head? ≠ some c := by
  cases name with
  | nil => exact other
  | cons d rest =>
      intro same
      rw [List.cons_append, List.head?_cons, Option.some.injEq] at same
      rw [List.all_cons, same, outside] at whole
      exact absurd whole (by simp)

theorem head_text (identifier : runtime.all isIdentifierPart = true) {statement : Statement}
    (proper : statement.Proper) : (statement.text runtime).head? ≠ some ' ' := by
  cases statement with
  | assign assignment => exact head_name_append identifier rfl (of_decide_eq_true rfl)
  | publish root name => exact head_name_append proper rfl (of_decide_eq_true rfl)
  | _ => exact of_decide_eq_true rfl

end Statement

end UniversalModule.Emission
