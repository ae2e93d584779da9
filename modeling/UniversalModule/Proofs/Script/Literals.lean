import UniversalModule.Identifier
import UniversalModule.Proofs.Json.Containers
import UniversalModule.Proofs.Json.Numerals
import UniversalModule.Proofs.Script.Scanner
import UniversalModule.Resolution

/-!
What is written into a script for a name or a value of the user's is neutral: JSON values of any
depth, strings of any characters, identifiers, and the expressions and statements made of them.
-/

namespace UniversalModule.Scanner

open Json (Escape Form Value)

theorem run_string_plain {c : Char} (quote : c ≠ '"') (backslash : c ≠ '\\')
    (within : isLineEnd c = false) (awaited : List Char) (rest : Text) :
    (State.mk .string awaited).run (c :: rest) = (State.mk .string awaited).run rest := by
  have stays : (State.mk .string awaited).step c = some ⟨.string, awaited⟩ := by
    simp only [State.step, State.stepString, if_neg quote, if_neg backslash, within]
    rfl
  rw [State.run, stays, Option.bind_some]

theorem run_string_hexDigit {value : Nat} (small : value < 16) (awaited : List Char) (rest : Text) :
    (State.mk .string awaited).run (Json.hexDigit value :: rest) =
      (State.mk .string awaited).run rest := by
  have all : ∀ value < 16, Json.hexDigit value ≠ '"' ∧ Json.hexDigit value ≠ '\\' ∧
      isLineEnd (Json.hexDigit value) = false := by decide
  obtain ⟨quote, backslash, within⟩ := all value small
  exact run_string_plain quote backslash within awaited rest

/-- What is written for a character keeps the scanner inside of the string. -/
theorem run_string_escaped (c : Char) (awaited : List Char) (rest : Text) :
    (State.mk .string awaited).run (Json.escaped .script c ++ rest) =
      (State.mk .string awaited).run rest := by
  generalize written : Json.escaped .script c = text
  cases written ▸ Json.escape_escaped .script c with
  | short mark meant => rfl
  | unicode scalar =>
      have opened : (State.mk .string awaited).run (Json.unicodeEscape c.toNat ++ rest) =
          (State.mk .string awaited).run (Json.hexDigit (c.toNat / 4096 % 16) ::
            Json.hexDigit (c.toNat / 256 % 16) :: Json.hexDigit (c.toNat / 16 % 16) ::
              Json.hexDigit (c.toNat % 16) :: rest) := rfl
      rw [opened, run_string_hexDigit (by omega), run_string_hexDigit (by omega),
        run_string_hexDigit (by omega), run_string_hexDigit (by omega)]
  | raw quote backslash large separator =>
      obtain ⟨notLine, notParagraph⟩ := separator rfl
      have notFeed : c ≠ '\n' := by
        rintro rfl
        exact absurd large (by decide)
      have notReturn : c ≠ '\r' := by
        rintro rfl
        exact absurd large (by decide)
      have within : isLineEnd c = false := by
        simp [isLineEnd, notFeed, notReturn, notLine, notParagraph]
      exact run_string_plain quote backslash within awaited rest

theorem neutral_quoted (text : Text) : Neutral (Json.quoted .script text) := by
  have inner : (State.mk .string []).run (text.flatMap (Json.escaped .script) ++ ['"']) =
      some State.start := by
    induction text with
    | nil => rfl
    | cons c rest induction => rw [List.flatMap_cons, List.append_assoc, run_string_escaped, induction]
  exact inner

theorem neutral_stringLiteral (text : Text) : Neutral (Json.stringLiteral text) := neutral_quoted text

theorem isPlain_of_isDigit {c : Char} (digit : c.isDigit = true) : isPlain c = true :=
  isPlain_of_kind (by decide) digit

theorem neutral_ofNat (n : Nat) : Neutral (Text.ofNat n) :=
  neutral_plain fun _ member => isPlain_of_isDigit (Text.isDigit_of_mem_ofNat member)

theorem neutral_wholeText (n : Int) : Neutral (Json.wholeText n) := by
  unfold Json.wholeText
  split
  · exact Leads.step (step_plain (by decide) false []) (neutral_ofNat n.natAbs)
  · exact neutral_ofNat n.natAbs

theorem neutral_realText (x : Binary64) : Neutral (Json.realText x) := by
  have digits : Neutral (Json.decimalText x.shortest) :=
    neutral_plain fun c member => isPlain_of_kind (by decide) (Json.numeric_decimalText x.shortest c member)
  unfold Json.realText
  dsimp only
  split
  · exact Leads.step (step_plain (by decide) false []) digits
  · exact digits

/-- A neutral text between two others that open and close the same brackets. -/
theorem neutral_between {text : Text} (opening closing : Text) (brackets : List Char)
    (neutral : Neutral text) (opens : Leads [] brackets opening) (closes : Leads brackets [] closing) :
    Neutral (opening ++ text ++ closing) := (opens.append (neutral.leads brackets)).append closes

theorem Neutral.comma {first second : Text} (left : Neutral first) (right : Neutral second) :
    Neutral (first ++ ',' :: second) :=
  left.append (Leads.step (step_plain (by decide) false []) right)

theorem neutral_member {key : Text} {value : Value} (neutral : Neutral (value.render .script)) :
    Neutral (Json.quoted .script key ++ ':' :: value.render .script) :=
  (neutral_quoted key).append (Leads.step (step_plain (by decide) false []) neutral)

-- By the recursion of rendering: a value, the items of an array, the members of an object.
mutual

theorem neutral_render : (value : Value) → Neutral (value.render .script)
  | .null => by decide
  | .boolean true => by decide
  | .boolean false => by decide
  | .whole n => neutral_wholeText n.value
  | .real x => neutral_realText x
  | .string text => neutral_quoted text
  | .array items => by
      have between := neutral_between ['['] [']'] [']'] (neutral_renderItems items) (by decide) (by decide)
      rwa [List.append_assoc] at between
  | .object members => by
      have between := neutral_between ['\x7b'] ['\x7d'] ['\x7d'] (neutral_renderMembers members) (by decide)
        (by decide)
      rwa [List.append_assoc] at between

theorem neutral_renderItems : (items : List Value) → Neutral (Value.renderItems .script items)
  | [] => Leads.nil []
  | [item] => neutral_render item
  | item :: next :: rest => (neutral_render item).comma (neutral_renderItems (next :: rest))

theorem neutral_renderMembers :
    (members : List (Text × Value)) → Neutral (Value.renderMembers .script members)
  | [] => Leads.nil []
  | [(_, value)] => neutral_member (neutral_render value)
  | (key, value) :: next :: rest => by
      have both := (@neutral_member key value (neutral_render value)).comma
        (neutral_renderMembers (next :: rest))
      rwa [List.append_assoc] at both

end

theorem neutral_of_isIdentifier {name : Text} (identifier : isIdentifier name = true) : Neutral name := by
  cases name with
  | nil => exact Leads.nil []
  | cons c rest =>
      simp only [isIdentifier, Bool.and_eq_true, List.all_eq_true] at identifier
      obtain ⟨⟨start, parts⟩, -⟩ := identifier
      refine neutral_plain (List.forall_mem_cons.mpr ⟨isPlain_of_kind (by decide) start, ?_⟩)
      intro d member
      exact isPlain_of_kind (by decide) (parts d member)

theorem neutral_subscriptChain {root : Text} (neutral : Neutral root) (segments : List Text) :
    Neutral (subscriptChain root segments) := by
  refine neutral.append (neutral_flatten ?_)
  intro subscript member
  obtain ⟨segment, -, rfl⟩ := List.mem_map.mp member
  exact neutral_between ['['] [']'] [']'] (neutral_stringLiteral segment) (by decide) (by decide)

theorem neutral_parameterName (index : Nat) : Neutral (parameterName index) :=
  Neutral.append (by decide) (neutral_ofNat index)

theorem neutral_access (access : Access) : Neutral access.render := by
  cases access with
  | global segments => exact neutral_subscriptChain (by decide) segments
  | bundled package =>
      have between := neutral_between (requireName ++ ['(']) [')'] [')'] (neutral_stringLiteral package)
        (by decide) (by decide)
      rwa [List.append_assoc, List.append_assoc] at between
  | parameter index => exact neutral_parameterName index

theorem neutral_assignment {runtime : Text} (neutral : Neutral runtime) (assignment : Assignment) :
    Neutral (assignment.render runtime) := by
  have target : Neutral (".lib[" ++ Json.stringLiteral assignment.name ++ "] = ") :=
    neutral_between ".lib[" "] = " [']'] (neutral_stringLiteral assignment.name) (by decide) (by decide)
  have value := neutral_access assignment.value
  have whole := ((neutral.append target).append value).append (show Neutral ";" by decide)
  simp only [List.append_assoc] at whole
  simp only [Assignment.render, List.append_assoc]
  exact whole

end UniversalModule.Scanner
