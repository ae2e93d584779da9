import UniversalModule.Text.Base64

/-!
Bytes read back from digits to the base sixty-four. The reader takes what has been filled up to
groups of four, with no bits left over, and nothing else; it gives back what was written.
-/

namespace UniversalModule.Base64

/-- The bytes that the digits stand for. A last group may stand for one or two bytes. -/
def decode? : Text → Option Bytes
  | [] => some []
  | [a, b, '=', '='] => do
      let bits := (← value? a) * 64 + (← value? b)
      if bits % 16 = 0 then some [UInt8.ofNat (bits / 16)] else none
  | [a, b, c, '='] => do
      let bits := ((← value? a) * 64 + (← value? b)) * 64 + (← value? c)
      if bits % 4 = 0 then some [UInt8.ofNat (bits / 1024), UInt8.ofNat (bits / 4 % 256)] else none
  | a :: b :: c :: d :: rest => do
      let bits := (((← value? a) * 64 + (← value? b)) * 64 + (← value? c)) * 64 + (← value? d)
      let bytes ← decode? rest
      some (UInt8.ofNat (bits / 65536) :: UInt8.ofNat (bits / 256 % 256) ::
        UInt8.ofNat (bits % 256) :: bytes)
  | _ => none

theorem digit_ne_of_value?_eq_none {c : Char} (unknown : value? c = none) {value : Nat}
    (small : value < 64) : digit value ≠ c := by
  intro same
  have known := value?_digit small
  rw [same, unknown] at known
  exact absurd known (by simp)

theorem decode?_group {a b c d : Nat} (smallA : a < 64) (smallB : b < 64) (smallC : c < 64)
    (smallD : d < 64) (rest : Text) :
    decode? (digit a :: digit b :: digit c :: digit d :: rest) =
      (decode? rest).map fun bytes =>
        UInt8.ofNat ((((a * 64 + b) * 64 + c) * 64 + d) / 65536) ::
          UInt8.ofNat ((((a * 64 + b) * 64 + c) * 64 + d) / 256 % 256) ::
          UInt8.ofNat ((((a * 64 + b) * 64 + c) * 64 + d) % 256) :: bytes := by
  have noPad : digit d ≠ '=' := digit_ne_of_value?_eq_none (by decide +kernel) smallD
  rw [decode?]
  · rw [value?_digit smallA, value?_digit smallB, value?_digit smallC, value?_digit smallD]
    cases decode? rest <;> rfl
  · intro _ pad _
    exact noPad pad
  · intro pad _
    exact noPad pad

theorem ofNat_eq_of_eq_toNat {value : Nat} (byte : UInt8) (same : value = byte.toNat) :
    UInt8.ofNat value = byte := by
  rw [same, UInt8.ofNat_toNat]

theorem decode?_encode (bytes : Bytes) : decode? (encode bytes) = some bytes := by
  fun_induction encode bytes with
  | case1 => rfl
  | case2 a bits =>
      have boundA := a.toNat_lt
      have regrouped : bits / 64 * 64 + bits % 64 = a.toNat * 16 := by omega
      simp only [decode?]
      rw [value?_digit (by omega), value?_digit (by omega)]
      simp only [Option.bind_eq_bind, Option.bind_some, regrouped]
      rw [if_pos (by omega), ofNat_eq_of_eq_toNat a (by omega)]
  | case3 a b bits =>
      have boundA := a.toNat_lt
      have boundB := b.toNat_lt
      have noPad : digit (bits % 64) ≠ '=' := digit_ne_of_value?_eq_none (by decide +kernel) (by omega)
      have regrouped : (bits / 4096 * 64 + bits / 64 % 64) * 64 + bits % 64 =
          (a.toNat * 256 + b.toNat) * 4 := by omega
      rw [decode?]
      · rw [value?_digit (by omega), value?_digit (by omega), value?_digit (by omega)]
        simp only [Option.bind_eq_bind, Option.bind_some, regrouped]
        rw [if_pos (by omega), ofNat_eq_of_eq_toNat a (by omega),
          ofNat_eq_of_eq_toNat b (by omega)]
      · exact noPad
  | case4 a b c rest bits induction =>
      have boundA := a.toNat_lt
      have boundB := b.toNat_lt
      have boundC := c.toNat_lt
      have regrouped : ((bits / 262144 * 64 + bits / 4096 % 64) * 64 + bits / 64 % 64) * 64 + bits % 64 =
          (a.toNat * 256 + b.toNat) * 256 + c.toNat := by omega
      rw [decode?_group (by omega) (by omega) (by omega) (by omega), induction, regrouped, Option.map_some,
        ofNat_eq_of_eq_toNat a (by omega), ofNat_eq_of_eq_toNat b (by omega),
        ofNat_eq_of_eq_toNat c (by omega)]

/-- The characters that are written: the digits and what fills up a group. -/
def isWritten (c : Char) : Bool := c == '=' || (value? c).isSome

theorem isWritten_digit (value : Nat) : isWritten (digit value) = true := by
  by_cases small : value < 64
  · simp [isWritten, value?_digit small]
  · have size : alphabet.length = 64 := by decide
    have pad : digit value = '=' := by
      simp [digit, List.getD_eq_getElem?_getD, List.getElem?_eq_none (size ▸ Nat.le_of_not_lt small)]
    simp [isWritten, pad]

theorem isWritten_of_mem_encode {bytes : Bytes} {c : Char} (member : c ∈ encode bytes) :
    isWritten c = true := by
  fun_induction encode bytes with
  | case1 => exact absurd member (by simp)
  | case2 a bits =>
      simp only [List.mem_cons, List.not_mem_nil, or_false] at member
      rcases member with rfl | rfl | rfl | rfl <;> first | exact isWritten_digit _ | rfl
  | case3 a b bits =>
      simp only [List.mem_cons, List.not_mem_nil, or_false] at member
      rcases member with rfl | rfl | rfl | rfl <;> first | exact isWritten_digit _ | rfl
  | case4 a b c rest bits induction =>
      simp only [List.mem_cons] at member
      rcases member with rfl | rfl | rfl | rfl | member
      · exact isWritten_digit _
      · exact isWritten_digit _
      · exact isWritten_digit _
      · exact isWritten_digit _
      · exact induction member

end UniversalModule.Base64
