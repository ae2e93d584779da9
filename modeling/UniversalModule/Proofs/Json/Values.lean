import UniversalModule.Proofs.Identifier
import UniversalModule.Proofs.Json.Layouts
import UniversalModule.Proofs.Json.Numerals
import UniversalModule.Proofs.Text.Split

/-!
Values read back from their texts, and what those texts are made of. Members come back in their
order; the depth of a value is all that a reader has to allow for. In scripts every text stays on one
line, and the form for scripts is what replacing the two line separators in the finished text gives.
-/

namespace UniversalModule

namespace Keyed

variable {κ : Type u} {α : Type v} [DecidableEq κ]

theorem put_of_notMem {key : κ} {value : α} {entries : Keyed κ α} (fresh : key ∉ keys entries) :
    put key value entries = entries ++ [(key, value)] := by
  induction entries with
  | nil => rfl
  | cons entry rest induction =>
      rw [keys, List.map_cons, List.mem_cons, not_or] at fresh
      rw [put, if_neg (Ne.symm fresh.1), induction fresh.2, List.cons_append]

theorem ofList_of_nodup {entries : List (κ × α)} (distinct : (keys entries).Nodup) :
    ofList entries = entries := by
  have grown : ∀ found : Keyed κ α, (keys (found ++ entries)).Nodup →
      entries.foldl (fun found entry => put entry.1 entry.2 found) found = found ++ entries := by
    clear distinct
    induction entries with
    | nil => exact fun found _ => (List.append_nil found).symm
    | cons entry rest induction =>
        intro found distinct
        have fresh : entry.1 ∉ keys found := by
          intro known
          rw [keys, List.map_append, List.nodup_append] at distinct
          exact distinct.2.2 entry.1 known entry.1 (by simp) rfl
        rw [List.append_cons] at distinct ⊢
        rw [List.foldl_cons, put_of_notMem fresh]
        exact induction (found ++ [entry]) distinct
  exact grown [] distinct

end Keyed

namespace Json

def PrintsBack (x : Binary64) : Prop := readScalar (realText x) = some (.real x, [])

namespace Value

inductive HasReal (x : Binary64) : Value → Prop where
  | here : HasReal x (.real x)
  | item {items : List Value} {item : Value} (member : item ∈ items) (inside : HasReal x item) :
      HasReal x (.array items)
  | member {members : List (Text × Value)} {entry : Text × Value} (member : entry ∈ members)
      (inside : HasReal x entry.2) : HasReal x (.object members)

/-- A value whose text gives all of it: no key comes twice in an object, and its floating-point
numbers are read back. -/
structure Legible (value : Value) : Prop where
  distinct : value.Distinct
  printed : ∀ x, value.HasReal x → PrintsBack x

theorem Legible.item {items : List Value} (legible : Legible (.array items)) {item : Value}
    (member : item ∈ items) : Legible item where
  distinct := by
    cases legible.distinct with
    | array each => exact each item member
  printed x inside := legible.printed x (.item member inside)

theorem Legible.member {members : List (Text × Value)} (legible : Legible (.object members))
    {entry : Text × Value} (member : entry ∈ members) : Legible entry.2 where
  distinct := by
    cases legible.distinct with
    | object _ each => exact each entry member
  printed x inside := legible.printed x (.member member inside)

theorem Legible.keys {members : List (Text × Value)} (legible : Legible (.object members)) :
    (Keyed.keys members).Nodup := by
  cases legible.distinct with
  | object keys _ => exact keys

mutual

/-- The number of containers around the innermost one, itself among them. -/
def nesting : Value → Nat
  | .array items => nestingItems items + 1
  | .object members => nestingMembers members + 1
  | _ => 0

def nestingItems : List Value → Nat
  | [] => 0
  | item :: rest => max (nesting item) (nestingItems rest)

def nestingMembers : List (Text × Value) → Nat
  | [] => 0
  | (_, value) :: rest => max (nesting value) (nestingMembers rest)

end

theorem nesting_le_of_mem_items {items : List Value} {item : Value} (member : item ∈ items) :
    item.nesting ≤ nestingItems items := by
  induction items with
  | nil => exact absurd member List.not_mem_nil
  | cons first rest induction =>
      rw [nestingItems]
      rcases List.mem_cons.mp member with rfl | later
      · exact Nat.le_max_left _ _
      · exact Nat.le_trans (induction later) (Nat.le_max_right _ _)

theorem nesting_le_of_mem_members {members : List (Text × Value)} {entry : Text × Value}
    (member : entry ∈ members) : entry.2.nesting ≤ nestingMembers members := by
  induction members with
  | nil => exact absurd member List.not_mem_nil
  | cons first rest induction =>
      rw [nestingMembers]
      rcases List.mem_cons.mp member with rfl | later
      · exact Nat.le_max_left _ _
      · exact Nat.le_trans (induction later) (Nat.le_max_right _ _)

end Value

theorem readScalar_of_isNumeric {c : Char} (numeric : isNumeric c = true) (more : Text) :
    readScalar (c :: more) =
      (readNumeral (c :: more)).bind fun (numeral, rest) =>
        numeral.value?.bind fun value => some (value, rest) := by
  have other {d : Char} (outside : isNumeric d = false) {rest : Text} : c :: more ≠ d :: rest := by
    intro same
    rw [(List.cons.inj same).1, outside] at numeric
    exact absurd numeric (by simp)
  unfold readScalar
  split
  · next same => exact absurd same (other (by decide))
  · next same => exact absurd same (other (by decide))
  · next same => exact absurd same (other (by decide))
  · next same => exact absurd same (other (by decide))
  · rfl

/-- A number that is read from its own text is read whatever delimiter follows. -/
theorem reads_numeric {text : Text} {value : Value} (numeric : Numeric text)
    (read : readScalar text = some (value, [])) : Reads readScalar text value := by
  cases text with
  | nil => exact absurd read (by simp [readScalar, readNumeral, readSign, readDigits, splitDigits])
  | cons c more =>
      have first : isNumeric c = true := numeric c List.mem_cons_self
      refine ⟨⟨c, more, rfl, startsItem_of_isNumeric first⟩, ?_⟩
      intro rest delimited
      rw [readScalar_of_isNumeric first, Option.bind_eq_some_iff] at read
      obtain ⟨⟨numeral, after⟩, numeralRead, valueRead⟩ := read
      obtain ⟨found, meaning, same⟩ := Option.bind_eq_some_iff.mp valueRead
      cases same
      rw [List.cons_append, readScalar_of_isNumeric first, ← List.cons_append,
        delimited.readNumeral_append numeralRead]
      simp only [meaning, Option.bind_some, List.nil_append]

theorem numeric_wholeText (n : Int) : Numeric (wholeText n) := by
  unfold wholeText
  split
  · exact .cons (by decide) (numeric_ofNat n.natAbs)
  · exact numeric_ofNat n.natAbs

theorem numeric_realText (x : Binary64) : Numeric (realText x) := by
  unfold realText
  dsimp only
  split
  · exact .cons (by decide) (numeric_decimalText x.shortest)
  · exact numeric_decimalText x.shortest

theorem readScalar_wholeText (n : Whole) : readScalar (wholeText n.value) = some (.whole n, []) := by
  have numeric := numeric_wholeText n.value
  have read := readNumeral_wholeText n.value
  generalize wholeText n.value = text at numeric read
  cases text with
  | nil => exact absurd read (by simp [readNumeral, readSign, readDigits, splitDigits])
  | cons c more =>
      rw [readScalar_of_isNumeric (numeric c List.mem_cons_self), read]
      simp only [value?_wholeNumeral, Option.bind_some]

theorem reads_scalar (form : Form) {value : Value} (scalar : value.isScalar = true)
    (printed : ∀ x, value.HasReal x → PrintsBack x) : Reads readScalar (value.render form) value := by
  cases value with
  | null => exact ⟨⟨'n', _, rfl, by decide⟩, fun rest _ => rfl⟩
  | boolean truth =>
      cases truth with
      | true => exact ⟨⟨'t', _, rfl, by decide⟩, fun rest _ => rfl⟩
      | false => exact ⟨⟨'f', _, rfl, by decide⟩, fun rest _ => rfl⟩
  | whole n => exact reads_numeric (numeric_wholeText n.value) (readScalar_wholeText n)
  | real x => exact reads_numeric (numeric_realText x) (printed x .here)
  | string text =>
      refine ⟨⟨'"', _, rfl, by decide⟩, ?_⟩
      intro rest _
      have read := readText_quoted form text rest
      have same : readScalar (quoted form text ++ rest) =
          (readText (quoted form text ++ rest)).map fun read => (.string read.1, read.2) := rfl
      have written : Value.render form (.string text) = quoted form text := rfl
      rw [written, same, read, Option.map_some]
  | array items => exact absurd scalar (by simp [Value.isScalar])
  | object members => exact absurd scalar (by simp [Value.isScalar])

theorem readValue_of_readScalar {text : Text} {result : Value × Text} (read : readScalar text = some result)
    (limit : Nat) : readValue limit text = some result := by
  cases limit with
  | zero => exact read
  | succ depth =>
      unfold readValue
      split
      · next rest =>
          have refused : readScalar ('[' :: rest) = none := rfl
          rw [refused] at read
          exact absurd read (by simp)
      · next rest =>
          have refused : readScalar ('\x7b' :: rest) = none := rfl
          rw [refused] at read
          exact absurd read (by simp)
      · exact read

/-- A value is read back from its text in any layout, as long as the reader allows for its depth. -/
theorem Layout.reads_value {form : Form} {text : Nat → Value → Text} (layout : Layout form text)
    {value : Value} (legible : value.Legible) (level : Nat) {limit : Nat} (deep : value.nesting ≤ limit) :
    Reads (readValue limit) (text level value) value := by
  -- The readers of the parts allow for one level less, and the parts have one level less.
  induction value using Value.byParts generalizing level limit with
  | scalar value scalar =>
      rw [layout.scalar level value scalar]
      have read := reads_scalar form scalar legible.printed
      refine ⟨read.starts, ?_⟩
      intro rest delimited
      exact readValue_of_readScalar (read.reads rest delimited) limit
  | array items induction =>
      rw [Value.nesting] at deep
      obtain ⟨limit, rfl⟩ := Nat.exists_eq_succ_of_ne_zero (Nat.ne_of_gt (Nat.zero_lt_of_lt deep))
      have each : ∀ entry ∈ items.map fun item => (item, item),
          Reads (readValue limit) (text (level + 1) entry.1) entry.2 := by
        intro entry member
        obtain ⟨item, among, rfl⟩ := List.mem_map.mp member
        have shallow := Value.nesting_le_of_mem_items among
        exact induction item among (legible.item among) (level + 1) (by omega)
      obtain ⟨inner, written, read⟩ := layout.reads_array level each
      simp only [List.map_map, Function.comp_def, List.map_id'] at written read
      rw [written]
      refine ⟨⟨'[', inner, rfl, by decide⟩, ?_⟩
      intro rest _
      simp only [List.cons_append, readValue, read rest, Option.map_some]
  | object members induction =>
      rw [Value.nesting] at deep
      obtain ⟨limit, rfl⟩ := Nat.exists_eq_succ_of_ne_zero (Nat.ne_of_gt (Nat.zero_lt_of_lt deep))
      have each : ∀ entry ∈ members.map fun member => (member, member.2),
          Reads (readValue limit) (text (level + 1) entry.1.2) entry.2 := by
        intro entry member
        obtain ⟨part, among, rfl⟩ := List.mem_map.mp member
        have shallow := Value.nesting_le_of_mem_members among
        exact induction part among (legible.member among) (level + 1) (by omega)
      obtain ⟨inner, written, read⟩ := @layout.reads_object _ _ _ level (fun _ => readValue limit) _ each
      simp only [List.map_map, Function.comp_def, List.map_id'] at written read
      rw [written]
      refine ⟨⟨'\x7b', inner, rfl, by decide⟩, ?_⟩
      intro rest _
      simp only [List.cons_append, readValue, read rest, Option.map_some, Keyed.ofList_of_nodup legible.keys]

theorem isBasic_of_isNumeric {c : Char} (numeric : isNumeric c = true) : isBasic c = true := by
  simp only [isNumeric, Bool.or_eq_true, beq_iff_eq] at numeric
  rcases numeric with (((digit | rfl) | rfl) | rfl) | rfl
  · obtain ⟨low, high⟩ := range_of_isDigit digit
    have low : 48 ≤ c.toNat := low
    have high : c.toNat ≤ 57 := high
    apply isBasic_iff.mpr
    omega
  · rfl
  · rfl
  · rfl
  · rfl

/-- Only the texts of strings have characters that are not basic ones. -/
theorem isBasic_render_scalar {form : Form} {value : Value} (scalar : value.isScalar = true)
    (noString : ∀ text, value ≠ .string text) {c : Char} (member : c ∈ value.render form) :
    isBasic c = true := by
  have word (name : String) (basic : name.toList.all isBasic = true) (among : c ∈ name.toList) :
      isBasic c = true := List.all_eq_true.mp basic c among
  cases value with
  | null => exact word "null" rfl member
  | boolean truth =>
      cases truth with
      | true => exact word "true" rfl member
      | false => exact word "false" rfl member
  | whole n => exact isBasic_of_isNumeric (numeric_wholeText n.value c member)
  | real x => exact isBasic_of_isNumeric (numeric_realText x c member)
  | string text => exact absurd rfl (noString text)
  | array items => exact absurd scalar (by simp [Value.isScalar])
  | object members => exact absurd scalar (by simp [Value.isScalar])

theorem printable_container {form : Form} {opening closing : Char} (opens : Printable form opening)
    (closes : Printable form closing) {pieces : List Text}
    (each : ∀ piece ∈ pieces, ∀ c ∈ piece, Printable form c) {c : Char}
    (member : c ∈ opening :: (Text.joinWith [','] pieces ++ [closing])) : Printable form c := by
  rcases List.mem_cons.mp member with rfl | member
  · exact opens
  rcases List.mem_append.mp member with inside | last
  · rcases Text.mem_joinWith inside with comma | ⟨piece, among, here⟩
    · rw [List.mem_singleton.mp comma]
      exact printable_of_isBasic rfl
    · exact each piece among c here
  · rw [List.mem_singleton.mp last]
    exact closes

theorem printable_render (form : Form) (value : Value) {c : Char} (member : c ∈ value.render form) :
    Printable form c := by
  induction value using Value.byParts generalizing c with
  | scalar value scalar =>
      by_cases isString : ∃ text, value = .string text
      · obtain ⟨text, rfl⟩ := isString
        exact printable_quoted member
      · have noString : ∀ text, value ≠ .string text := fun text same => isString ⟨text, same⟩
        exact printable_of_isBasic (isBasic_render_scalar scalar noString member)
  | array items induction =>
      rw [Value.render_array] at member
      apply printable_container (printable_of_isBasic rfl) (printable_of_isBasic rfl) _ member
      intro piece among d inside
      obtain ⟨item, isItem, rfl⟩ := List.mem_map.mp among
      exact induction item isItem inside
  | object members induction =>
      rw [Value.render_object] at member
      apply printable_container (printable_of_isBasic rfl) (printable_of_isBasic rfl) _ member
      intro piece among d inside
      obtain ⟨entry, isMember, rfl⟩ := List.mem_map.mp among
      rw [memberText, List.nil_append, List.mem_append] at inside
      rcases inside with key | inside
      · exact printable_quoted key
      · rcases List.mem_cons.mp inside with rfl | value
        · exact printable_of_isBasic rfl
        · exact induction entry isMember value

/-- Replacing the two line separators in the whole text as data gives the text for scripts: they can
only stand in strings and keys, and what replaces them merges with nothing before it. -/
theorem literal_eq_replaced (value : Value) :
    value.literal = (value.render .data).flatMap separatorEscape := by
  have mark {c : Char} (basic : isBasic c = true) (rest : Text) :
      (c :: rest).flatMap separatorEscape = c :: rest.flatMap separatorEscape := by
    rw [List.flatMap_cons, separatorEscape_of_isBasic basic, List.singleton_append]
  have comma : [','].flatMap separatorEscape = [','] := rfl
  unfold Value.literal
  induction value using Value.byParts with
  | scalar value scalar =>
      by_cases isString : ∃ text, value = .string text
      · obtain ⟨text, rfl⟩ := isString
        exact quoted_script text
      · have noString : ∀ text, value ≠ .string text := fun text same => isString ⟨text, same⟩
        have same : value.render .script = value.render .data := by
          cases value with
          | boolean truth => cases truth <;> rfl
          | string text => exact absurd rfl (noString text)
          | array items => exact absurd scalar (by simp [Value.isScalar])
          | object members => exact absurd scalar (by simp [Value.isScalar])
          | _ => rfl
        rw [same, flatMap_separatorEscape]
        intro c member
        exact separatorEscape_of_isBasic (isBasic_render_scalar scalar noString member)
  | array items induction =>
      have parts : items.map (Value.render .script) =
          (items.map (Value.render .data)).map fun piece => piece.flatMap separatorEscape := by
        rw [List.map_map]
        exact List.map_congr_left induction
      rw [Value.render_array, Value.render_array, parts, mark rfl, List.flatMap_append, Text.flatMap_joinWith,
        comma]
      rfl
  | object members induction =>
      have parts : (members.map fun member => memberText .script [] member.1 (member.2.render .script)) =
          (members.map fun member => memberText .data [] member.1 (member.2.render .data)).map fun piece =>
            piece.flatMap separatorEscape := by
        rw [List.map_map]
        apply List.map_congr_left
        intro member among
        simp only [memberText, Function.comp_apply, List.flatMap_append, quoted_script, List.nil_append,
          mark (show isBasic ':' = true from rfl), induction member among]
      rw [Value.render_object, Value.render_object, parts, mark rfl, List.flatMap_append,
        Text.flatMap_joinWith, comma]
      rfl

theorem Value.Legible.readWhole_literal {value : Value} (legible : value.Legible) {limit : Nat}
    (deep : value.nesting ≤ limit) : readWhole (readValue limit) value.literal = some value :=
  ((layout_render .script).reads_value legible 0 deep).readWhole

/-- The text is one literal: it is between quotes, and every other quote in it is escaped. -/
def IsStringLiteral (text : Text) : Prop :=
  ∃ body, text = '"' :: (body ++ ['"']) ∧ bareQuotes 0 text = [0, body.length + 1]

/-- Literals are exact and safe. A value is read back from its literal, with the order of its members,
by every reader that allows for its depth; the literal stays on one line whatever counts as the end of a
line; a text has one string literal, which is read as that text and no further; and so literals of
different values differ. -/
theorem literals_exact :
    (∀ value : Value, value.Legible → ∀ limit, value.nesting ≤ limit →
      readWhole (readValue limit) value.literal = some value) ∧
    (∀ value : Value, (∀ c ∈ value.literal, 0x20 ≤ c.toNat ∧ c ≠ '\u2028' ∧ c ≠ '\u2029') ∧
      ∀ c ∈ ['\n', '\r', '\u2028', '\u2029'], Text.splitAt c value.literal = [value.literal]) ∧
    (∀ text : Text, IsStringLiteral (stringLiteral text) ∧
      ∀ rest, readText (stringLiteral text ++ rest) = some (text, rest)) ∧
    Function.Injective stringLiteral ∧
    ∀ value other : Value, value.Legible → other.Legible → value.literal = other.literal → value = other := by
  have safe (value : Value) {c : Char} (member : c ∈ value.literal) :
      0x20 ≤ c.toNat ∧ c ≠ '\u2028' ∧ c ≠ '\u2029' := by
    obtain ⟨large, separator⟩ := printable_render .script value member
    exact ⟨large, separator rfl⟩
  refine ⟨?_, ?_, ?_, ?_, ?_⟩
  · intro value legible limit deep
    exact legible.readWhole_literal deep
  · intro value
    refine ⟨fun c member => safe value member, ?_⟩
    intro c lineEnd
    apply Text.splitAt_of_notMem
    intro member
    obtain ⟨large, notLine, notParagraph⟩ := safe value member
    simp only [List.mem_cons, List.not_mem_nil, or_false] at lineEnd
    rcases lineEnd with rfl | rfl | rfl | rfl
    · exact absurd large (by decide)
    · exact absurd large (by decide)
    · exact notLine rfl
    · exact notParagraph rfl
  · intro text
    exact ⟨⟨_, rfl, bareQuotes_quoted .script text⟩, readText_quoted .script text⟩
  · intro text other same
    have read := readText_quoted .script text []
    have otherRead := readText_quoted .script other []
    have quoted : quoted .script text = quoted .script other := same
    rw [quoted, otherRead] at read
    cases read
    rfl
  · intro value other legible otherLegible same
    have read := legible.readWhole_literal (Nat.le_max_left value.nesting other.nesting)
    have otherRead := otherLegible.readWhole_literal (Nat.le_max_right value.nesting other.nesting)
    rw [same, otherRead] at read
    cases read
    rfl

def oneHalf : Binary64 := ⟨false, 1022 * twoTo 52, by decide⟩

theorem printsBack_oneHalf : PrintsBack oneHalf := by
  have numeral : readNumeral (realText oneHalf) = some (⟨false, ['0'], some ['5'], none⟩, []) := by
    decide +kernel
  have value : (⟨false, ['0'], some ['5'], none⟩ : Numeral).real? = some oneHalf := by decide +kernel
  have first : readScalar (realText oneHalf) =
      (readNumeral (realText oneHalf)).bind fun (numeral, rest) =>
        numeral.value?.bind fun value => some (value, rest) := rfl
  have notWhole : (⟨false, ['0'], some ['5'], none⟩ : Numeral).whole? = none := rfl
  rw [PrintsBack, first, numeral]
  simp only [Option.bind_some, Numeral.value?, notWhole, value, Option.map_some]

/-- Keys and strings with quotes, backslashes and separators, and a number with a fraction. -/
def quotingValue : Value :=
  .object
    [("a\"\\", .real oneHalf),
      ("\u2028", .array [.string "\\\u2029\n", .null, .object [], .boolean true])]

theorem legible_quotingValue : quotingValue.Legible where
  distinct := by
    refine .object (by decide) ?_
    intro member among
    simp only [List.mem_cons, List.not_mem_nil, or_false] at among
    rcases among with rfl | rfl
    · exact .real oneHalf
    · refine .array ?_
      intro item among
      simp only [List.mem_cons, List.not_mem_nil, or_false] at among
      rcases among with rfl | rfl | rfl | rfl
      · exact .string _
      · exact .null
      · exact .object List.nodup_nil (fun _ none => absurd none List.not_mem_nil)
      · exact .boolean true
  printed x inside := by
    cases inside with
    | member among inside =>
        simp only [List.mem_cons, List.not_mem_nil, or_false] at among
        rcases among with rfl | rfl
        · cases inside
          exact printsBack_oneHalf
        · cases inside with
          | item among inside =>
              simp only [List.mem_cons, List.not_mem_nil, or_false] at among
              rcases among with rfl | rfl | rfl | rfl
              · cases inside
              · cases inside
              · cases inside with
                | member none _ => exact absurd none List.not_mem_nil
              · cases inside

theorem literals_exact_quotingValue :
    quotingValue.Legible ∧ quotingValue.nesting ≤ depthLimit ∧
      Value.ofText? quotingValue.literal = some quotingValue :=
  ⟨legible_quotingValue, by decide,
    literals_exact.1 quotingValue legible_quotingValue depthLimit (by decide)⟩

end Json

end UniversalModule
