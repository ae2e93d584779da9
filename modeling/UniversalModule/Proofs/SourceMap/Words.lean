import Mathlib.Data.Nat.Bitwise
import UniversalModule.Number.Power
import UniversalModule.SourceMap.Builder

/-!
Differences and their digits in words of sixty-four bits. Of two numbers below two to the power of
sixty-three the words give the same difference, the same number with the sign below it and the same
digits: no subtraction leaves the signed words, and no bit is shifted out of a word.
-/

namespace UniversalModule.SourceMap

namespace Word

def difference (current previous : UInt64) : Int64 := current.toInt64 - previous.toInt64

def withSign (value : Int64) : UInt64 :=
  (value.abs.toUInt64 <<< 1) ||| (if value < 0 then 1 else 0)

theorem toNat_shiftRight_five (word : UInt64) : (word >>> 5).toNat = word.toNat / 32 := by
  rw [UInt64.toNat_shiftRight]
  exact Nat.shiftRight_eq_div_pow word.toNat 5

theorem toNat_shiftRight_five_lt {word : UInt64} (more : ¬word >>> 5 = 0) :
    (word >>> 5).toNat < word.toNat := by
  have shifted := toNat_shiftRight_five word
  have nonzero : (word >>> 5).toNat ≠ 0 := fun zero => more (UInt64.toNat_inj.mp zero)
  omega

/-- Five bits a digit, with the bit above them as long as others follow. -/
def digits (rest : UInt64) : Text :=
  if rest >>> 5 = 0 then [Base64.digit (rest &&& 31).toNat]
  else Base64.digit ((rest &&& 31) ||| 32).toNat :: digits (rest >>> 5)
termination_by rest.toNat
decreasing_by exact toNat_shiftRight_five_lt (by assumption)

theorem toNat_low (word : UInt64) : (word &&& 31).toNat = word.toNat % 32 := by
  rw [UInt64.toNat_and]
  exact Nat.and_two_pow_sub_one_eq_mod word.toNat 5

theorem toNat_continued (word : UInt64) : ((word &&& 31) ||| 32).toNat = word.toNat % 32 + 32 := by
  have small : word.toNat % 32 < 2 ^ 5 := Nat.mod_lt _ (by decide)
  have joined := Nat.shiftLeft_add_eq_or_of_lt small 1
  rw [UInt64.toNat_or, toNat_low, Nat.or_comm, Nat.add_comm]
  exact joined.symm

theorem digits_eq (word : UInt64) : digits word = Vlq.encodeBits word.toNat := by
  fun_induction digits word with
  | case1 word last =>
      have shifted := toNat_shiftRight_five word
      rw [last] at shifted
      have zero : (0 : UInt64).toNat = 0 := rfl
      have small : word.toNat < 32 := by omega
      rw [toNat_low, Vlq.encodeBits_small small, Nat.mod_eq_of_lt small]
  | case2 word more induction =>
      have shifted := toNat_shiftRight_five word
      have shorter := toNat_shiftRight_five_lt more
      have large : 32 ≤ word.toNat := by
        have nonzero : (word >>> 5).toNat ≠ 0 := fun zero => more (UInt64.toNat_inj.mp zero)
        omega
      rw [induction, shifted, toNat_continued, @Vlq.encodeBits_large word.toNat large]

theorem toNat_abs (value : Int64) : value.abs.toUInt64.toNat = value.toInt.natAbs := by
  have bits : value.abs.toUInt64.toNat = value.toBitVec.abs.toNat := by
    rw [← Int64.toBitVec_abs]
    rfl
  have whole : value.toInt = value.toBitVec.toInt := rfl
  have bound := value.toBitVec.isLt
  rw [bits, whole, BitVec.toNat_abs, BitVec.toInt_eq_msb_cond]
  split <;> omega

/-- No bit of an absolute value below two to the power of sixty-three is shifted out. -/
theorem toNat_withSign {value : Int64} (fits : value.toInt.natAbs < twoTo 63) :
    (withSign value).toNat = Vlq.withSign value.toInt := by
  rw [twoTo_63] at fits
  have shifted : (value.abs.toUInt64 <<< 1).toNat = value.toInt.natAbs <<< 1 := by
    rw [UInt64.toNat_shiftLeft, toNat_abs]
    apply Nat.mod_eq_of_lt
    have one : (1 : UInt64).toNat % 64 = 1 := rfl
    rw [one, Nat.shiftLeft_eq]
    omega
  have negative : value < 0 ↔ value.toInt < 0 := Int64.lt_iff_toInt_lt
  -- The shift leaves the lowest bit free, so that the sign is added there.
  have joined (bit : Nat) (small : bit < 2 ^ 1) := Nat.shiftLeft_add_eq_or_of_lt small value.toInt.natAbs
  unfold withSign Vlq.withSign
  rw [UInt64.toNat_or, shifted]
  by_cases below : value.toInt < 0
  · rw [if_pos (negative.mpr below), if_pos below]
    have bit := joined 1 (by decide)
    rw [Nat.shiftLeft_eq, Nat.mul_comm] at bit
    rw [Nat.shiftLeft_eq, Nat.mul_comm]
    exact bit.symm
  · rw [if_neg (fun less => below (negative.mp less)), if_neg below]
    have bit := joined 0 (by decide)
    rw [Nat.shiftLeft_eq, Nat.mul_comm] at bit
    rw [Nat.shiftLeft_eq, Nat.mul_comm]
    exact bit.symm

/-- The difference of numbers below two to the power of sixty-three is one of signed words. -/
theorem toInt_difference {current previous : Nat} (small : current < twoTo 63)
    (smallBefore : previous < twoTo 63) :
    (difference (UInt64.ofNat current) (UInt64.ofNat previous)).toInt =
      Entry.difference current previous := by
  have bound : (twoTo 63 : Int) = 9223372036854775808 := rfl
  rw [difference, UInt64.toInt64_ofNat', UInt64.toInt64_ofNat', Int64.toInt_sub,
    Int64.toInt_ofNat_of_lt small, Int64.toInt_ofNat_of_lt smallBefore]
  apply Int.bmod_eq_of_le
  · omega
  · omega

end Word

/-- The steps from two numbers to the digits of their difference, in words and without: the
subtraction and the shift give the same numbers, so that nothing is lost in a word. -/
structure Exact (current previous : Nat) : Prop where
  difference : (Word.difference (UInt64.ofNat current) (UInt64.ofNat previous)).toInt =
    Entry.difference current previous
  withSign : (Word.withSign (Word.difference (UInt64.ofNat current) (UInt64.ofNat previous))).toNat =
    Vlq.withSign (Entry.difference current previous)
  digits : Word.digits (Word.withSign
      (Word.difference (UInt64.ofNat current) (UInt64.ofNat previous))) =
    Vlq.encode (Entry.difference current previous)

theorem exact_of_lt {current previous : Nat} (small : current < twoTo 63)
    (smallBefore : previous < twoTo 63) : Exact current previous := by
  have difference := Word.toInt_difference small smallBefore
  have fits : (Entry.difference current previous).natAbs < twoTo 63 := by
    unfold Entry.difference
    omega
  have signed := Word.toNat_withSign (difference ▸ fits)
  rw [difference] at signed
  exact ⟨difference, signed, by rw [Word.digits_eq, signed, Vlq.encode]⟩

end UniversalModule.SourceMap
