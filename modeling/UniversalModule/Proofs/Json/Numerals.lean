import UniversalModule.Json.Number
import UniversalModule.Json.Writer
import UniversalModule.Proofs.Json.Containers

/-!
Numbers read back from their texts. Whatever delimiter follows a number, the same is read of it, so
the reading of a number is settled by its text alone; whole numbers are read as numerals without
fraction and exponent.
-/

namespace UniversalModule

namespace Text

theorem isDigit_of_mem_ofNat {n : Nat} {c : Char} (member : c ∈ ofNat n) : c.isDigit = true :=
  Nat.isDigit_of_mem_toDigits (by decide) (by decide) member

theorem ofNat_ne_nil (n : Nat) : ofNat n ≠ [] := Nat.toDigits_ne_nil

theorem zero_of_head?_ofNat {n : Nat} (head : (ofNat n).head? = some '0') : n = 0 := by
  induction n using Nat.strongRecOn with
  | ind n induction =>
      unfold ofNat at head
      rw [Nat.toDigits_eq_if (by decide)] at head
      split at head
      · next small =>
          have first : Nat.digitChar n = '0' := by simpa using head
          have code := Nat.toNat_digitChar_of_lt_ten small
          rw [first] at code
          have zero : '0'.toNat = 48 := rfl
          omega
      · next large =>
          obtain ⟨c, more, digits⟩ := List.exists_cons_of_ne_nil (@Nat.toDigits_ne_nil (n / 10) 10)
          have shorter : (ofNat (n / 10)).head? = some '0' := by
            rw [digits, List.cons_append, List.head?_cons] at head
            rw [ofNat, digits, List.head?_cons, head]
          have noDigits := induction (n / 10) (by omega) shorter
          omega

end Text

namespace Json

theorem digitsValue_ofNat (n : Nat) : digitsValue (Text.ofNat n) = n := by
  have value := @Nat.ofDigitChars_ten_toDigits n
  rw [Nat.ofDigitChars_eq_foldl] at value
  exact value

theorem ne_of_isDigit {c d : Char} (digit : c.isDigit = true) (outside : d.isDigit = false) : c ≠ d := by
  rintro rfl
  rw [outside] at digit
  exact absurd digit (by decide)

theorem startsItem_of_isDigit {c : Char} (digit : c.isDigit = true) : startsItem c = true := by
  have other {d : Char} (outside : d.isDigit = false) : c ≠ d := ne_of_isDigit digit outside
  simp [startsItem, isSpace, other (d := ' ') rfl, other (d := '\n') rfl, other (d := '\t') rfl,
    other (d := '\r') rfl, other (d := ']') rfl, other (d := '\x7d') rfl]

def isNumeric (c : Char) : Bool := c.isDigit || c == '.' || c == 'e' || c == '-' || c == '+'

def Numeric (text : Text) : Prop := ∀ c ∈ text, isNumeric c = true

theorem Numeric.append {first second : Text} (left : Numeric first) (right : Numeric second) :
    Numeric (first ++ second) := List.forall_mem_append.mpr ⟨left, right⟩

theorem Numeric.cons {c : Char} {rest : Text} (known : isNumeric c = true) (numeric : Numeric rest) :
    Numeric (c :: rest) := List.forall_mem_cons.mpr ⟨known, numeric⟩

theorem numeric_zeros (count : Nat) : Numeric (List.replicate count '0') := by
  intro c member
  rw [List.eq_of_mem_replicate member]
  decide

theorem numeric_ofNat (n : Nat) : Numeric (Text.ofNat n) := by
  intro c member
  simp [isNumeric, Text.isDigit_of_mem_ofNat member]

theorem numeric_decimalText (decimal : Decimal) : Numeric (decimalText decimal) := by
  have digits := numeric_ofNat decimal.digits
  have early (count : Nat) : Numeric ((Text.ofNat decimal.digits).take count) :=
    fun c member => digits c (List.mem_of_mem_take member)
  have late (count : Nat) : Numeric ((Text.ofNat decimal.digits).drop count) :=
    fun c member => digits c (List.mem_of_mem_drop member)
  have point : Numeric ".0" := List.all_eq_true.mp (by decide)
  have lead : Numeric "0." := List.all_eq_true.mp (by decide)
  unfold decimalText
  dsimp only
  split
  · exact (digits.append (numeric_zeros _)).append point
  split
  · exact (early _).append (.cons (by decide) (late _))
  split
  · exact (lead.append (numeric_zeros _)).append digits
  · refine Numeric.append ?_ (.cons (by decide) (.cons ?_ (numeric_ofNat _)))
    · split
      · exact digits
      · exact (early 1).append (.cons (by decide) (late 1))
    · split <;> decide

theorem startsItem_of_isNumeric {c : Char} (numeric : isNumeric c = true) : startsItem c = true := by
  simp only [isNumeric, Bool.or_eq_true, beq_iff_eq] at numeric
  rcases numeric with (((digit | rfl) | rfl) | rfl) | rfl
  · exact startsItem_of_isDigit digit
  · rfl
  · rfl
  · rfl
  · rfl

theorem readDigits_eq_some_iff {text digits rest : Text} :
    readDigits text = some (digits, rest) ↔ splitDigits text = (digits, rest) ∧ digits ≠ [] := by
  unfold readDigits
  generalize splitDigits text = parts
  obtain ⟨first, second⟩ := parts
  cases first with
  | nil =>
      constructor
      · intro read
        exact absurd read (by simp)
      · rintro ⟨same, nonempty⟩
        cases same
        exact absurd rfl nonempty
  | cons c others =>
      constructor
      · intro read
        cases read
        exact ⟨rfl, by simp⟩
      · rintro ⟨same, -⟩
        cases same
        rfl

theorem readSign_cons (c : Char) (rest : Text) :
    readSign (c :: rest) = if c = '-' then (true, rest) else (false, c :: rest) := by
  by_cases minus : c = '-'
  · rw [minus]
    rfl
  · rw [if_neg minus]
    unfold readSign
    split
    · next same => exact absurd (List.cons.inj same).1 minus
    · rfl

theorem readExponentSign_cons (c : Char) (rest : Text) :
    readExponentSign (c :: rest) =
      if c = '+' then (false, rest) else if c = '-' then (true, rest) else (false, c :: rest) := by
  by_cases plus : c = '+'
  · rw [plus]
    rfl
  · by_cases minus : c = '-'
    · rw [minus]
      rfl
    · rw [if_neg plus, if_neg minus]
      unfold readExponentSign
      split
      · next same => exact absurd (List.cons.inj same).1 plus
      · next same => exact absurd (List.cons.inj same).1 minus
      · rfl

namespace Delimited

variable {rest : Text}

theorem head_ne (delimited : Delimited rest) {c d : Char} {more : Text} (same : rest = c :: more)
    (inside : endsItem d = false) : c ≠ d := by
  rintro rfl
  have ends := delimited c more same
  rw [inside] at ends
  exact absurd ends (by simp)

theorem isDigit_head (delimited : Delimited rest) {c : Char} {more : Text} (same : rest = c :: more) :
    c.isDigit = false := by
  have ends := delimited c more same
  simp only [endsItem, isSpace, Bool.or_eq_true, beq_iff_eq] at ends
  rcases ends with ((rfl | rfl) | rfl) | ((rfl | rfl) | rfl) | rfl <;> rfl

theorem splitDigits_append (delimited : Delimited rest) (text : Text) :
    splitDigits (text ++ rest) = ((splitDigits text).1, (splitDigits text).2 ++ rest) := by
  induction text with
  | nil =>
      cases rest with
      | nil => rfl
      | cons c more =>
          have other := delimited.isDigit_head rfl
          simp [splitDigits, other]
  | cons c more induction =>
      simp only [splitDigits, Prod.mk.injEq] at induction ⊢
      by_cases digit : c.isDigit = true
      · simp [digit, induction]
      · simp [digit]

theorem readDigits_append (delimited : Delimited rest) {text digits more : Text}
    (read : readDigits text = some (digits, more)) :
    readDigits (text ++ rest) = some (digits, more ++ rest) := by
  rw [readDigits_eq_some_iff] at read ⊢
  rw [delimited.splitDigits_append, read.1]
  exact ⟨rfl, read.2⟩

theorem readSign_append (delimited : Delimited rest) (text : Text) :
    readSign (text ++ rest) = ((readSign text).1, (readSign text).2 ++ rest) := by
  cases text with
  | nil =>
      cases rest with
      | nil => rfl
      | cons c more =>
          have minus : c ≠ '-' := delimited.head_ne rfl (by decide)
          simp [minus, readSign]
  | cons c more =>
      rw [List.cons_append, readSign_cons, readSign_cons]
      by_cases minus : c = '-'
      · simp [minus]
      · simp [minus]

theorem readExponentSign_append (delimited : Delimited rest) (text : Text) :
    readExponentSign (text ++ rest) = ((readExponentSign text).1, (readExponentSign text).2 ++ rest) := by
  cases text with
  | nil =>
      cases rest with
      | nil => rfl
      | cons c more =>
          have plus : c ≠ '+' := delimited.head_ne rfl (by decide)
          have minus : c ≠ '-' := delimited.head_ne rfl (by decide)
          simp [plus, minus, readExponentSign]
  | cons c more =>
      rw [List.cons_append, readExponentSign_cons, readExponentSign_cons]
      by_cases plus : c = '+'
      · simp [plus]
      · by_cases minus : c = '-'
        · simp [minus]
        · simp [plus, minus]

theorem readFraction_append (delimited : Delimited rest) {text more : Text} {fraction : Option Text}
    (read : readFraction text = some (fraction, more)) :
    readFraction (text ++ rest) = some (fraction, more ++ rest) := by
  unfold readFraction at read
  split at read
  · next after =>
      obtain ⟨parts, digits, same⟩ := Option.map_eq_some_iff.mp read
      cases same
      rw [List.cons_append, readFraction, delimited.readDigits_append digits]
      rfl
  · next pointless =>
      cases read
      unfold readFraction
      split
      · next same =>
          cases text with
          | nil => exact absurd rfl (delimited.head_ne same (by decide))
          | cons c after => exact absurd (congrArg (· :: after) (List.cons.inj same).1) (pointless after)
      · rfl

theorem readExponent_append (delimited : Delimited rest) {text more : Text}
    {exponent : Option (Bool × Text)} (read : readExponent text = some (exponent, more)) :
    readExponent (text ++ rest) = some (exponent, more ++ rest) := by
  cases text with
  | nil =>
      cases read
      cases rest with
      | nil => rfl
      | cons c after =>
          have lower : c ≠ 'e' := delimited.head_ne rfl (by decide)
          have upper : c ≠ 'E' := delimited.head_ne rfl (by decide)
          rw [List.nil_append, readExponent, if_neg (by simp [lower, upper])]
  | cons c after =>
      rw [readExponent] at read
      rw [List.cons_append, readExponent]
      by_cases marked : c = 'e' ∨ c = 'E'
      · rw [if_pos marked] at read ⊢
        rw [delimited.readExponentSign_append]
        generalize readExponentSign after = sign at read ⊢
        obtain ⟨parts, digits, same⟩ := Option.map_eq_some_iff.mp read
        cases same
        simp only [delimited.readDigits_append digits, Option.map_some]
      · rw [if_neg marked] at read ⊢
        cases read
        rfl

theorem readNumeral_append (delimited : Delimited rest) {text more : Text} {numeral : Numeral}
    (read : readNumeral text = some (numeral, more)) :
    readNumeral (text ++ rest) = some (numeral, more ++ rest) := by
  simp only [readNumeral, Option.bind_eq_bind, Option.bind_eq_some_iff] at read
  obtain ⟨⟨digits, afterDigits⟩, readDigits, read⟩ := read
  split at read
  · exact absurd read (by simp)
  · next lone =>
      obtain ⟨⟨fraction, afterFraction⟩, readFraction, read⟩ := Option.bind_eq_some_iff.mp read
      obtain ⟨⟨exponent, afterExponent⟩, readExponent, read⟩ := Option.bind_eq_some_iff.mp read
      cases read
      simp only [readNumeral, delimited.readSign_append, delimited.readDigits_append readDigits,
        delimited.readFraction_append readFraction, delimited.readExponent_append readExponent, if_neg lone,
        Option.bind_eq_bind, Option.bind_some]

end Delimited

theorem splitDigits_digits {digits : Text} (each : ∀ c ∈ digits, c.isDigit = true) :
    splitDigits digits = (digits, []) := by
  have taken := @List.takeWhile_append_of_pos Char Char.isDigit digits [] each
  have dropped := @List.dropWhile_append_of_pos Char Char.isDigit digits [] each
  rw [List.append_nil] at taken dropped
  rw [splitDigits, taken, dropped]
  simp

def wholeNumeral (n : Int) : Numeral := ⟨decide (n < 0), Text.ofNat n.natAbs, none, none⟩

theorem readSign_wholeText (n : Int) : readSign (wholeText n) = (decide (n < 0), Text.ofNat n.natAbs) := by
  unfold wholeText
  by_cases negative : n < 0
  · simp [negative, readSign_cons]
  · obtain ⟨c, more, digits⟩ := List.exists_cons_of_ne_nil (Text.ofNat_ne_nil n.natAbs)
    have digit : c.isDigit = true := Text.isDigit_of_mem_ofNat (n := n.natAbs) (by simp [digits])
    have plus : c ≠ '-' := ne_of_isDigit digit rfl
    simp [negative, digits, readSign_cons, plus]

theorem readNumeral_wholeText (n : Int) : readNumeral (wholeText n) = some (wholeNumeral n, []) := by
  have split := splitDigits_digits fun _ => @Text.isDigit_of_mem_ofNat n.natAbs _
  have digits : readDigits (Text.ofNat n.natAbs) = some (Text.ofNat n.natAbs, []) :=
    readDigits_eq_some_iff.mpr ⟨split, Text.ofNat_ne_nil _⟩
  have lone : ¬((Text.ofNat n.natAbs).head? = some '0' ∧ (Text.ofNat n.natAbs).length ≠ 1) := by
    rintro ⟨zero, long⟩
    rw [Text.zero_of_head?_ofNat zero] at long
    exact absurd rfl long
  simp only [readNumeral, readSign_wholeText, digits, if_neg lone, Option.bind_eq_bind, Option.bind_some]
  rfl

theorem value?_wholeNumeral (n : Whole) : (wholeNumeral n.value).value? = some (.whole n) := by
  obtain ⟨value, inRange⟩ := n
  have digits : digitsValue (wholeNumeral value).digits = value.natAbs := digitsValue_ofNat value.natAbs
  have signed : (if (wholeNumeral value).negative = true then -(value.natAbs : Int) else value.natAbs) = value := by
    by_cases negative : value < 0
    · simp only [wholeNumeral, negative, decide_true, if_true]
      omega
    · simp only [wholeNumeral, negative, decide_false, Bool.false_eq_true, if_false]
      omega
  have accepted : ¬((wholeNumeral value).isPlain = false ∨
      ((wholeNumeral value).negative = true ∧ value.natAbs = 0)) := by
    rintro (mixed | ⟨negative, zero⟩)
    · exact absurd mixed (by simp [wholeNumeral, Numeral.isPlain])
    · have below : value < 0 := by simpa [wholeNumeral] using negative
      omega
  have whole : (wholeNumeral value).whole? = some ⟨value, inRange⟩ := by
    unfold Numeral.whole?
    rw [digits, if_neg accepted, signed, Whole.of?, dif_pos inRange]
  rw [Numeral.value?, whole]

end Json

end UniversalModule
