import UniversalModule.Proofs.Text.Base64
import UniversalModule.SourceMap.Vlq

/-!
Whole numbers read back from their digits. A reader stops after the first digit that announces no
other, so that the digits of a number may stand before any text, those of another number among
them.
-/

namespace UniversalModule.Vlq

def decodeBits? : Text → Option (Nat × Text)
  | [] => none
  | c :: rest =>
      match Base64.value? c with
      | none => none
      | some digit =>
          if digit < 32 then some (digit, rest)
          else (decodeBits? rest).map fun (bits, rest) => (digit - 32 + 32 * bits, rest)

def ofSigned (bits : Nat) : Int := if bits % 2 = 0 then (bits / 2 : Nat) else -(bits / 2 : Nat)

def decode? (text : Text) : Option (Int × Text) :=
  (decodeBits? text).map fun (bits, rest) => (ofSigned bits, rest)

theorem ofSigned_withSign (value : Int) : ofSigned (withSign value) = value := by
  unfold ofSigned withSign
  by_cases negative : value < 0
  · rw [if_pos negative, if_neg (by omega)]
    omega
  · rw [if_neg negative, if_pos (by omega)]
    omega

theorem decodeBits?_encodeBits (bits : Nat) (suffix : Text) :
    decodeBits? (encodeBits bits ++ suffix) = some (bits, suffix) := by
  induction bits using Nat.strongRecOn with
  | ind bits induction =>
      by_cases small : bits < 32
      · rw [encodeBits_small small, List.cons_append, decodeBits?, Base64.value?_digit (by omega)]
        exact if_pos small
      · rw [encodeBits_large (by omega), List.cons_append, decodeBits?, Base64.value?_digit (by omega)]
        have more : ¬bits % 32 + 32 < 32 := by omega
        simp only [if_neg more, induction (bits / 32) (by omega), Option.map_some]
        have whole : bits % 32 + 32 - 32 + 32 * (bits / 32) = bits := by omega
        rw [whole]

theorem decode?_encode (value : Int) (suffix : Text) :
    decode? (encode value ++ suffix) = some (value, suffix) := by
  simp only [decode?, encode, decodeBits?_encodeBits, Option.map_some, ofSigned_withSign]

theorem encode_ne_nil (value : Int) : encode value ≠ [] := by
  unfold encode
  rw [encodeBits]
  split <;> simp

theorem value?_isSome_of_mem_encodeBits {bits : Nat} {c : Char} (member : c ∈ encodeBits bits) :
    (Base64.value? c).isSome = true := by
  induction bits using Nat.strongRecOn with
  | ind bits induction =>
      by_cases small : bits < 32
      · rw [encodeBits_small small, List.mem_singleton] at member
        rw [member, Base64.value?_digit (by omega)]
        rfl
      · rw [encodeBits_large (by omega), List.mem_cons] at member
        rcases member with rfl | member
        · rw [Base64.value?_digit (by omega)]
          rfl
        · exact induction (bits / 32) (by omega) member

theorem notMem_encode {c : Char} (unknown : Base64.value? c = none) (value : Int) : c ∉ encode value := by
  intro member
  have known := value?_isSome_of_mem_encodeBits member
  rw [unknown] at known
  exact absurd known (by simp)

theorem length_decodeBits? {text rest : Text} {bits : Nat} (read : decodeBits? text = some (bits, rest)) :
    rest.length < text.length := by
  induction text generalizing bits with
  | nil => exact absurd read (by simp [decodeBits?])
  | cons c more induction =>
      simp only [decodeBits?] at read
      split at read
      · exact absurd read (by simp)
      · split at read
        · cases read
          exact Nat.lt_succ_self _
        · obtain ⟨⟨higher, others⟩, readMore, same⟩ := Option.map_eq_some_iff.mp read
          cases same
          exact Nat.lt_succ_of_lt (induction readMore)

theorem length_decode? {text rest : Text} {value : Int} (read : decode? text = some (value, rest)) :
    rest.length < text.length := by
  obtain ⟨⟨bits, others⟩, readBits, same⟩ := Option.map_eq_some_iff.mp read
  cases same
  exact length_decodeBits? readBits

def decodeAll? (text : Text) : Option (List Int) :=
  if text.isEmpty then some []
  else
    match _ : decode? text with
    | none => none
    | some (value, rest) => (decodeAll? rest).map (value :: ·)
termination_by text.length
decreasing_by exact length_decode? (by assumption)

theorem decodeAll?_cons (value : Int) (suffix : Text) :
    decodeAll? (encode value ++ suffix) = (decodeAll? suffix).map (value :: ·) := by
  have written : (encode value ++ suffix).isEmpty = false := by
    simp [encode_ne_nil value]
  rw [decodeAll?, if_neg (by simp [written])]
  split
  · next unread =>
      rw [decode?_encode] at unread
      exact absurd unread (by simp)
  · next read =>
      rw [decode?_encode] at read
      cases read
      rfl

theorem decodeAll?_flatMap_encode (values : List Int) :
    decodeAll? (values.flatMap encode) = some values := by
  induction values with
  | nil =>
      rw [decodeAll?]
      rfl
  | cons value rest induction => rw [List.flatMap_cons, decodeAll?_cons, induction, Option.map_some]

end UniversalModule.Vlq
