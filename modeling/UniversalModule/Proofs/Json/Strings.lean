import UniversalModule.Json.Reader
import UniversalModule.Json.Writer

/-!
Strings read back from their literals. Each character is read back from what is written for it,
in both forms, whatever follows; so a literal ends at its own closing quote.
-/

namespace UniversalModule.Json

/-- What can stand for a character between quotes: a backslash and one more character, a backslash
and four digits, or the character itself. -/
inductive Escape (form : Form) (c : Char) : Text → Prop where
  | short (mark : Char) (meant : shortEscape? mark = some c) : Escape form c ['\\', mark]
  | unicode (scalar : c.toNat < 0xD800 ∨ 0xE000 ≤ c.toNat ∧ c.toNat < 0x10000) :
      Escape form c (unicodeEscape c.toNat)
  | raw (quote : c ≠ '"') (backslash : c ≠ '\\') (large : 0x20 ≤ c.toNat)
      (separator : form = .script → c ≠ '\u2028' ∧ c ≠ '\u2029') : Escape form c [c]

theorem escape_escaped (form : Form) (c : Char) : Escape form c (escaped form c) := by
  have short {mark meant : Char} (same : c = meant) (known : shortEscape? mark = some meant) :
      Escape form c ['\\', mark] := .short mark (same ▸ known)
  unfold escaped
  split
  · next same => exact short same (by decide)
  split
  · next same => exact short same (by decide)
  split
  · next same => exact short same (by decide)
  split
  · next same => exact short same (by decide)
  split
  · next same => exact short same (by decide)
  split
  · next same => exact short same (by decide)
  split
  · next same => exact short same (by decide)
  split
  · next small => exact .unicode (by omega)
  split
  · next separator =>
      refine .unicode ?_
      rcases separator.2 with same | same <;> rw [same] <;> decide
  · next quote backslash _ _ _ _ _ large separator =>
      refine .raw quote backslash (by omega) ?_
      intro script
      exact ⟨fun same => separator ⟨script, .inl same⟩, fun same => separator ⟨script, .inr same⟩⟩

theorem hexValue?_hexDigit {value : Nat} (small : value < 16) :
    hexValue? (hexDigit value) = some value := by
  have all : ∀ value < 16, hexValue? (hexDigit value) = some value := by decide
  exact all value small

theorem unit?_digits {code : Nat} (small : code < 0x10000) :
    unit? (hexDigit (code / 4096 % 16)) (hexDigit (code / 256 % 16)) (hexDigit (code / 16 % 16))
      (hexDigit (code % 16)) = some code := by
  unfold unit?
  rw [hexValue?_hexDigit (by omega), hexValue?_hexDigit (by omega), hexValue?_hexDigit (by omega),
    hexValue?_hexDigit (by omega)]
  have whole : ((code / 4096 % 16 * 16 + code / 256 % 16) * 16 + code / 16 % 16) * 16 + code % 16 =
      code := by omega
  simp only [Option.bind_eq_bind, Option.bind_some, whole]

theorem readString_unicodeEscape {c : Char} (small : c.toNat < 0xD800 ∨ 0xE000 ≤ c.toNat ∧ c.toNat < 0x10000)
    (rest : Text) :
    readString (unicodeEscape c.toNat ++ rest) = (readString rest).map (prepend c) := by
  have low : isLowSurrogate c.toNat = false := by
    simp only [isLowSurrogate, decide_eq_false_iff_not]
    omega
  have high : isHighSurrogate c.toNat = false := by
    simp only [isHighSurrogate, decide_eq_false_iff_not]
    omega
  simp only [unicodeEscape, List.cons_append, List.nil_append]
  rw [readString, unit?_digits (by omega)]
  simp only [low, high, Char.ofNat_toNat]
  rfl

theorem readString_shortEscape {c meant : Char} (short : shortEscape? c = some meant) (rest : Text) :
    readString ('\\' :: c :: rest) = (readString rest).map (prepend meant) := by
  have notUnicode : c ≠ 'u' := by
    rintro rfl
    have unknown : shortEscape? 'u' = none := by decide
    rw [unknown] at short
    exact absurd short (by simp)
  rw [readString]
  · rw [short]
  · intro _ _ _ _ _ same
    exact absurd same notUnicode

theorem readString_raw {c : Char} (quote : c ≠ '"') (backslash : c ≠ '\\') (large : 0x20 ≤ c.toNat)
    (rest : Text) : readString (c :: rest) = (readString rest).map (prepend c) := by
  rw [readString]
  · rw [if_neg]
    rintro (same | small)
    · exact backslash same
    · omega
  · exact quote
  · intro _ _ _ _ _ same
    exact absurd same backslash
  · intro _ _ same
    exact absurd same backslash

theorem readString_escaped (form : Form) (c : Char) (rest : Text) :
    readString (escaped form c ++ rest) = (readString rest).map (prepend c) := by
  generalize written : escaped form c = text
  cases written ▸ escape_escaped form c with
  | short mark meant => exact readString_shortEscape meant rest
  | unicode scalar => exact readString_unicodeEscape scalar rest
  | raw quote backslash large _ => exact readString_raw quote backslash large rest

theorem readString_flatMap_escaped (form : Form) (text rest : Text) :
    readString (text.flatMap (escaped form) ++ '"' :: rest) = some (text, rest) := by
  induction text with
  | nil => rfl
  | cons c more induction =>
      rw [List.flatMap_cons, List.append_assoc, readString_escaped, induction]
      rfl

theorem readText_quoted (form : Form) (text rest : Text) :
    readText (quoted form text ++ rest) = some (text, rest) := by
  have literal : quoted form text ++ rest =
      '"' :: (text.flatMap (escaped form) ++ '"' :: rest) := by simp [quoted]
  rw [literal]
  exact readString_flatMap_escaped form text rest

/-- A character that texts of the form may have: no control character, and in a script neither of the
two line separators. -/
def Printable (form : Form) (c : Char) : Prop :=
  0x20 ≤ c.toNat ∧ (form = .script → c ≠ '\u2028' ∧ c ≠ '\u2029')

/-- A character of seven bits that is no control character of the first ones. -/
def isBasic (c : Char) : Bool := decide (0x20 ≤ c.toNat) && decide (c.toNat < 0x80)

theorem isBasic_iff {c : Char} : isBasic c = true ↔ 0x20 ≤ c.toNat ∧ c.toNat < 0x80 := by simp [isBasic]

theorem printable_of_isBasic {form : Form} {c : Char} (basic : isBasic c = true) : Printable form c := by
  obtain ⟨large, small⟩ := isBasic_iff.mp basic
  refine ⟨large, ?_⟩
  intro _
  constructor
  · rintro rfl
    exact absurd small (by decide)
  · rintro rfl
    exact absurd small (by decide)

theorem mem_of_shortEscape? {mark meant : Char} (short : shortEscape? mark = some meant) :
    mark ∈ ['"', '\\', '/', 'b', 'f', 'n', 'r', 't'] := by
  apply Decidable.byContradiction
  intro other
  simp only [List.mem_cons, List.not_mem_nil, or_false, not_or] at other
  simp [shortEscape?, other] at short

/-- What is written for a character is made of basic characters, or it is the character itself. -/
theorem mem_escaped {form : Form} {c d : Char} (member : d ∈ escaped form c) :
    isBasic d = true ∨ d = c ∧ Printable form c := by
  generalize written : escaped form c = text at member
  cases written ▸ escape_escaped form c with
  | short mark meant =>
      have marks : ['"', '\\', '/', 'b', 'f', 'n', 'r', 't'].all isBasic = true := rfl
      simp only [List.mem_cons, List.not_mem_nil, or_false] at member
      rcases member with rfl | rfl
      · exact .inl rfl
      · exact .inl (List.all_eq_true.mp marks d (mem_of_shortEscape? meant))
  | unicode scalar =>
      have digit (value : Nat) : isBasic (hexDigit (value % 16)) = true := by
        have all : ∀ small < 16, isBasic (hexDigit small) = true := by decide
        exact all _ (Nat.mod_lt value (by decide))
      simp only [unicodeEscape, List.mem_cons, List.not_mem_nil, or_false] at member
      rcases member with rfl | rfl | rfl | rfl | rfl | rfl
      · exact .inl rfl
      · exact .inl rfl
      · exact .inl (digit _)
      · exact .inl (digit _)
      · exact .inl (digit _)
      · exact .inl (digit _)
  | raw _ _ large separator => exact .inr ⟨List.mem_singleton.mp member, large, separator⟩

theorem printable_escaped {form : Form} {c d : Char} (member : d ∈ escaped form c) : Printable form d := by
  rcases mem_escaped member with basic | ⟨rfl, printable⟩
  · exact printable_of_isBasic basic
  · exact printable

theorem printable_quoted {form : Form} {text : Text} {c : Char} (member : c ∈ quoted form text) :
    Printable form c := by
  have quote : Printable form '"' := printable_of_isBasic rfl
  rcases List.mem_cons.mp member with rfl | member
  · exact quote
  · rcases List.mem_append.mp member with inner | last
    · obtain ⟨d, -, found⟩ := List.mem_flatMap.mp inner
      exact printable_escaped found
    · rw [List.mem_singleton.mp last]
      exact quote

theorem feed_notMem_quoted (form : Form) (text : Text) : '\n' ∉ quoted form text := by
  intro member
  have large := (printable_quoted member).1
  exact absurd large (by decide)

/-- The places of the quotes that no backslash takes as its character. -/
def bareQuotes : Nat → Text → List Nat
  | _, [] => []
  | place, '\\' :: _ :: rest => bareQuotes (place + 2) rest
  | place, c :: rest =>
      if c = '"' then place :: bareQuotes (place + 1) rest else bareQuotes (place + 1) rest

theorem bareQuotes_cons (place : Nat) {c : Char} (quote : c ≠ '"') (backslash : c ≠ '\\') (rest : Text) :
    bareQuotes place (c :: rest) = bareQuotes (place + 1) rest := by
  rw [bareQuotes, if_neg quote]
  intro _ _ same
  exact absurd same backslash

theorem bareQuotes_escaped (form : Form) (place : Nat) (c : Char) (rest : Text) :
    bareQuotes place (escaped form c ++ rest) = bareQuotes (place + (escaped form c).length) rest := by
  generalize written : escaped form c = text
  cases written ▸ escape_escaped form c with
  | short mark meant => rfl
  | unicode scalar =>
      have digit (place value : Nat) (rest : Text) :
          bareQuotes place (hexDigit (value % 16) :: rest) = bareQuotes (place + 1) rest := by
        have all : ∀ small < 16, hexDigit small ≠ '"' ∧ hexDigit small ≠ '\\' := by decide
        obtain ⟨quote, backslash⟩ := all _ (Nat.mod_lt value (by decide))
        exact bareQuotes_cons place quote backslash rest
      simp only [unicodeEscape, List.cons_append, List.nil_append, bareQuotes, digit, List.length_cons,
        List.length_nil, Nat.add_assoc]
  | raw quote backslash _ _ => exact bareQuotes_cons place quote backslash rest

theorem bareQuotes_flatMap_escaped (form : Form) (place : Nat) (text rest : Text) :
    bareQuotes place (text.flatMap (escaped form) ++ rest) =
      bareQuotes (place + (text.flatMap (escaped form)).length) rest := by
  induction text generalizing place with
  | nil => rfl
  | cons c more induction =>
      rw [List.flatMap_cons, List.append_assoc, bareQuotes_escaped, induction, List.length_append,
        Nat.add_assoc]

/-- A literal is one literal: of its quotes only the first and the last are not escaped. -/
theorem bareQuotes_quoted (form : Form) (text : Text) :
    bareQuotes 0 (quoted form text) = [0, (text.flatMap (escaped form)).length + 1] := by
  have opened : bareQuotes 0 (quoted form text) =
      0 :: bareQuotes 1 (text.flatMap (escaped form) ++ ['"']) := rfl
  rw [opened, bareQuotes_flatMap_escaped, Nat.add_comm]
  rfl

/-- What the form for scripts writes for a character after it was written as data. -/
def separatorEscape (c : Char) : Text :=
  if c = '\u2028' ∨ c = '\u2029' then unicodeEscape c.toNat else [c]

theorem separatorEscape_of_isBasic {c : Char} (basic : isBasic c = true) : separatorEscape c = [c] := by
  apply if_neg
  rintro (rfl | rfl)
  · exact absurd basic (by decide)
  · exact absurd basic (by decide)

theorem flatMap_separatorEscape {text : Text} (kept : ∀ c ∈ text, separatorEscape c = [c]) :
    text.flatMap separatorEscape = text := by
  induction text with
  | nil => rfl
  | cons c rest induction =>
      obtain ⟨first, others⟩ := List.forall_mem_cons.mp kept
      rw [List.flatMap_cons, first, induction others, List.singleton_append]

theorem escaped_script (c : Char) : escaped .script c = (escaped .data c).flatMap separatorEscape := by
  by_cases separator : c = '\u2028' ∨ c = '\u2029'
  · rcases separator with rfl | rfl
    · rfl
    · rfl
  · have same : escaped .script c = escaped .data c := by simp [escaped, separator]
    rw [same, flatMap_separatorEscape]
    intro d member
    rcases mem_escaped member with basic | ⟨rfl, -⟩
    · exact separatorEscape_of_isBasic basic
    · exact if_neg separator

theorem quoted_script (text : Text) : quoted .script text = (quoted .data text).flatMap separatorEscape := by
  have inner : text.flatMap (escaped .script) = (text.flatMap (escaped .data)).flatMap separatorEscape := by
    rw [List.flatMap_assoc]
    exact congrArg text.flatMap (funext escaped_script)
  rw [quoted, quoted, inner, List.flatMap_cons, List.flatMap_append]
  rfl

end UniversalModule.Json
