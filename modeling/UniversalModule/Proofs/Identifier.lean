import UniversalModule.Identifier

/-!
The characters of identifiers, by the ranges of letters and digits.
-/

namespace UniversalModule

theorem range_of_isUpper {c : Char} (upper : c.isUpper = true) : 'A' ≤ c ∧ c ≤ 'Z' :=
  of_decide_eq_true upper

theorem range_of_isLower {c : Char} (lower : c.isLower = true) : 'a' ≤ c ∧ c ≤ 'z' := by
  obtain ⟨low, high⟩ := Bool.and_eq_true_iff.mp lower
  exact ⟨of_decide_eq_true low, of_decide_eq_true high⟩

theorem range_of_isDigit {c : Char} (digit : c.isDigit = true) : '0' ≤ c ∧ c ≤ '9' := by
  obtain ⟨low, high⟩ := Bool.and_eq_true_iff.mp digit
  exact ⟨of_decide_eq_true low, of_decide_eq_true high⟩

theorem range_of_isIdentifierStart {c : Char} (start : isIdentifierStart c = true) :
    ('a' ≤ c ∧ c ≤ 'z') ∨ ('A' ≤ c ∧ c ≤ 'Z') ∨ c = '_' ∨ c = '$' := by
  simp only [isIdentifierStart, Bool.or_eq_true, beq_iff_eq] at start
  rcases start with (letter | underscore) | dollar
  · rcases Bool.or_eq_true_iff.mp letter with upper | lower
    · exact .inr (.inl (range_of_isUpper upper))
    · exact .inl (range_of_isLower lower)
  · exact .inr (.inr (.inl underscore))
  · exact .inr (.inr (.inr dollar))

theorem range_of_isIdentifierPart {c : Char} (part : isIdentifierPart c = true) :
    ('a' ≤ c ∧ c ≤ 'z') ∨ ('A' ≤ c ∧ c ≤ 'Z') ∨ ('0' ≤ c ∧ c ≤ '9') ∨ c = '_' ∨ c = '$' := by
  simp only [isIdentifierPart, Bool.or_eq_true, beq_iff_eq] at part
  rcases part with (letterOrDigit | underscore) | dollar
  · rcases Bool.or_eq_true_iff.mp letterOrDigit with letter | digit
    · rcases Bool.or_eq_true_iff.mp letter with upper | lower
      · exact .inr (.inl (range_of_isUpper upper))
      · exact .inl (range_of_isLower lower)
    · exact .inr (.inr (.inl (range_of_isDigit digit)))
  · exact .inr (.inr (.inr (.inl underscore)))
  · exact .inr (.inr (.inr (.inr dollar)))

theorem not_digit_of_isIdentifierStart {c : Char} (start : isIdentifierStart c = true) :
    ¬('0' ≤ c ∧ c ≤ '9') := by
  rintro ⟨low, high⟩
  have lowest : 48 ≤ c.val.toNat := low
  have highest : c.val.toNat ≤ 57 := high
  rcases range_of_isIdentifierStart start with lower | upper | rfl | rfl
  · have above : 97 ≤ c.val.toNat := lower.1
    omega
  · have above : 65 ≤ c.val.toNat := upper.1
    omega
  · exact absurd highest (by decide)
  · exact absurd lowest (by decide)

end UniversalModule
