import UniversalModule.Proofs.SourceMap.Vlq
import UniversalModule.Proofs.SourceMap.Words

/-!
How many digits a number has. Its digits end where the number ends, and no fewer are read as the same
number. Main statement: all of this holds of every signed word but the least one, whose absolute value
has no room for a sign; and the differences of numbers below two to the power of sixty-three are never
that word.
-/

namespace UniversalModule

namespace Vlq

def Continues (c : Char) : Prop := ∃ digit, Base64.value? c = some digit ∧ 32 ≤ digit

def Ends (c : Char) : Prop := ∃ digit, Base64.value? c = some digit ∧ digit < 32

def Delimited (digits : Text) : Prop :=
  ∃ continued last, digits = continued ++ [last] ∧ (∀ c ∈ continued, Continues c) ∧ Ends last

theorem Delimited.single {c : Char} (ends : Ends c) : Delimited [c] :=
  ⟨[], c, rfl, by simp, ends⟩

theorem Delimited.cons {c : Char} {digits : Text} (continues : Continues c) (delimited : Delimited digits) :
    Delimited (c :: digits) := by
  obtain ⟨continued, last, rfl, each, ends⟩ := delimited
  exact ⟨c :: continued, last, rfl, List.forall_mem_cons.mpr ⟨continues, each⟩, ends⟩

theorem delimited_encodeBits (bits : Nat) : Delimited (encodeBits bits) := by
  induction bits using Nat.strongRecOn with
  | ind bits induction =>
      by_cases small : bits < 32
      · rw [encodeBits_small small]
        exact .single ⟨bits, Base64.value?_digit (by omega), small⟩
      · rw [encodeBits_large (by omega)]
        have continues : Continues (Base64.digit (bits % 32 + 32)) :=
          ⟨bits % 32 + 32, Base64.value?_digit (by omega), by omega⟩
        exact .cons continues (induction (bits / 32) (by omega))

/-- What is read are the digits up to the first one that ends them, and each of them has five bits. -/
theorem taken_of_decodeBits? {text rest : Text} {bits : Nat} (read : decodeBits? text = some (bits, rest)) :
    ∃ digits, text = digits ++ rest ∧ Delimited digits ∧ bits < 32 ^ digits.length := by
  induction text generalizing bits with
  | nil => exact absurd read (by simp [decodeBits?])
  | cons c more induction =>
      simp only [decodeBits?] at read
      split at read
      · exact absurd read (by simp)
      · next digit known =>
          have bound := (Base64.digit_of_value? known).2
          split at read
          · next last =>
              cases read
              exact ⟨[c], rfl, .single ⟨_, known, last⟩, by simpa using last⟩
          · next continues =>
              obtain ⟨⟨higher, others⟩, readMore, same⟩ := Option.map_eq_some_iff.mp read
              cases same
              obtain ⟨digits, rfl, delimited, fits⟩ := induction readMore
              refine ⟨c :: digits, rfl, delimited.cons ⟨digit, known, by omega⟩, ?_⟩
              rw [List.length_cons, Nat.pow_succ]
              omega

theorem length_encodeBits_le {bits more : Nat} (fits : bits < 32 ^ (more + 1)) :
    (encodeBits bits).length ≤ more + 1 := by
  induction more generalizing bits with
  | zero =>
      rw [encodeBits_small (by omega)]
      exact Nat.le_refl 1
  | succ more induction =>
      by_cases small : bits < 32
      · rw [encodeBits_small small]
        exact Nat.succ_le_succ (Nat.zero_le _)
      · rw [encodeBits_large (by omega), List.length_cons]
        rw [Nat.pow_succ] at fits
        exact Nat.succ_le_succ (induction (by omega))

/-- A number can be read from its bits, and from nothing below them. -/
theorem withSign_ofSigned_le (bits : Nat) : withSign (ofSigned bits) ≤ bits := by
  unfold ofSigned withSign
  split <;> split <;> omega

/-- Whatever is read as a number has at least the digits that are written for it. -/
theorem length_encode_le {text rest : Text} {value : Int} (read : decode? text = some (value, rest)) :
    (encode value).length + rest.length ≤ text.length := by
  obtain ⟨⟨bits, others⟩, readBits, same⟩ := Option.map_eq_some_iff.mp read
  cases same
  obtain ⟨digits, rfl, ⟨continued, last, rfl, -⟩, fits⟩ := taken_of_decodeBits? readBits
  have below : withSign (ofSigned bits) < 32 ^ (continued.length + 1) := by
    rw [List.length_append, List.length_singleton] at fits
    exact Nat.lt_of_le_of_lt (withSign_ofSigned_le bits) fits
  have fewest : (encode (ofSigned bits)).length ≤ continued.length + 1 := length_encodeBits_le below
  simp only [List.length_append, List.length_singleton]
  omega

end Vlq

namespace SourceMap

structure WordWritten (value : Int64) (digits : Text) : Prop where
  /-- No bit of the absolute value is lost where it makes room for the sign. -/
  whole : (Word.withSign value).toNat = 2 * value.toInt.natAbs + if value.toInt < 0 then 1 else 0
  unbounded : digits = Vlq.encode value.toInt
  readBack : ∀ suffix, Vlq.decode? (digits ++ suffix) = some (value.toInt, suffix)
  delimited : Vlq.Delimited digits
  fewest : ∀ text rest, Vlq.decode? text = some (value.toInt, rest) →
    digits.length + rest.length ≤ text.length
  bounded : digits.length ≤ 13

/-- Only the least word has an absolute value of sixty-four bits. -/
theorem natAbs_lt_of_ne_minValue {value : Int64} (other : value ≠ Int64.minValue) :
    value.toInt.natAbs < twoTo 63 := by
  have least : value.toInt ≠ -9223372036854775808 := fun same => other (Int64.toInt_inj.mp same)
  have above := value.le_toInt
  have below := value.toInt_lt
  rw [twoTo_63]
  omega

theorem wordWritten_of_ne_minValue {value : Int64} (other : value ≠ Int64.minValue) :
    WordWritten value (Word.digits (Word.withSign value)) := by
  have whole := Word.toNat_withSign (natAbs_lt_of_ne_minValue other)
  have same : Word.digits (Word.withSign value) = Vlq.encode value.toInt := by
    rw [Word.digits_eq, whole, Vlq.encode]
  have short : (Vlq.encode value.toInt).length ≤ 13 := by
    have bits := (Word.withSign value).toNat_lt
    rw [whole] at bits
    exact Vlq.length_encodeBits_le (by omega)
  rw [same]
  exact {
    whole
    unbounded := rfl
    readBack := Vlq.decode?_encode value.toInt
    delimited := Vlq.delimited_encodeBits _
    fewest := fun _ _ => Vlq.length_encode_le
    bounded := short }

/-- Every word but the least is written exactly, and so are all differences of numbers below two to the
power of sixty-three. -/
theorem words_written :
    (∀ value : Int64, value ≠ Int64.minValue → WordWritten value (Word.digits (Word.withSign value))) ∧
    ∀ current previous, current < twoTo 63 → previous < twoTo 63 →
      ∃ value, Word.difference (UInt64.ofNat current) (UInt64.ofNat previous) = value ∧
        value.toInt = (current : Int) - previous ∧ WordWritten value (Word.digits (Word.withSign value)) := by
  refine ⟨fun value other => wordWritten_of_ne_minValue other, ?_⟩
  intro current previous small smallBefore
  have difference := Word.toInt_difference small smallBefore
  refine ⟨_, rfl, difference, wordWritten_of_ne_minValue ?_⟩
  intro least
  have lowest : Int64.minValue.toInt = -9223372036854775808 := rfl
  rw [least, lowest, Entry.difference] at difference
  rw [twoTo_63] at smallBefore
  omega

/-- The least word is written like a zero with a sign. -/
example : Word.digits (Word.withSign Int64.minValue) = "B" := by decide +kernel

theorem words_written_extremes :
    (9223372036854775807 : Int64) ≠ Int64.minValue ∧ 0 < twoTo 63 ∧ 9223372036854775807 < twoTo 63 ∧
    Vlq.decode? (Word.digits (Word.withSign 9223372036854775807) ++ "C,") = some (9223372036854775807, ("C," : Text)) ∧
    ∃ value, Word.difference (UInt64.ofNat 0) (UInt64.ofNat 9223372036854775807) = value ∧
      value.toInt = -9223372036854775807 ∧ Word.digits (Word.withSign value) = "////////////P" := by
  obtain ⟨written, differences⟩ := words_written
  have other : (9223372036854775807 : Int64) ≠ Int64.minValue := by decide
  obtain ⟨value, same, whole, exactly⟩ := differences 0 9223372036854775807 (by decide) (by decide)
  refine ⟨other, by decide, by decide, (written _ other).readBack "C,", value, same, whole, ?_⟩
  rw [exactly.unbounded, whole]
  decide +kernel

end SourceMap

end UniversalModule
