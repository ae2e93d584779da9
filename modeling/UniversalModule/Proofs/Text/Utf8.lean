import Mathlib.Algebra.Group.Nat.Defs
import UniversalModule.Text.Utf8

/-!
A text is read back from its bytes. The first byte of a character fixes how many bytes follow and
in which range the second one lies; the cases are those of its length, one to four bytes.
-/

namespace UniversalModule.Text

theorem lead_two {byte : Nat} (lower : 0xC2 ≤ byte) (upper : byte < 0xE0) :
    Lead.of? byte = some ⟨1, byte - 0xC0, 0x80, 0xBF⟩ := by
  unfold Lead.of?
  rw [if_neg (by omega), if_neg (by omega), if_pos upper]

theorem lead_three {byte : Nat} (lower : 0xE0 ≤ byte) (upper : byte < 0xF0) :
    Lead.of? byte = some ⟨2, byte - 0xE0, if byte = 0xE0 then 0xA0 else 0x80,
      if byte = 0xED then 0x9F else 0xBF⟩ := by
  unfold Lead.of?
  rw [if_neg (by omega), if_neg (by omega), if_neg (by omega)]
  by_cases least : byte = 0xE0
  · subst least
    rfl
  · rw [if_neg least, if_neg least]
    by_cases surrogate : byte = 0xED
    · subst surrogate
      rfl
    · rw [if_neg surrogate, if_pos upper, if_neg surrogate]

theorem lead_four {byte : Nat} (lower : 0xF0 ≤ byte) (upper : byte ≤ 0xF4) :
    Lead.of? byte = some ⟨3, byte - 0xF0, if byte = 0xF0 then 0x90 else 0x80,
      if byte = 0xF4 then 0x8F else 0xBF⟩ := by
  unfold Lead.of?
  rw [if_neg (by omega), if_neg (by omega), if_neg (by omega), if_neg (by omega), if_neg (by omega),
    if_neg (by omega)]
  by_cases least : byte = 0xF0
  · subst least
    rfl
  · rw [if_neg least, if_neg least]
    by_cases greatest : byte = 0xF4
    · subst greatest
      rfl
    · rw [if_pos (by omega), if_neg greatest]

theorem readFollowing_cons (bits count : Nat) {least greatest : Nat} {byte : UInt8} {value : Nat}
    (known : byte.toNat = value) (lower : least ≤ value) (upper : value ≤ greatest) (rest : Bytes) :
    readFollowing bits least greatest (count + 1) (byte :: rest) =
      readFollowing (bits * 64 + (value - 0x80)) 0x80 0xBF count rest := by
  rw [readFollowing, known, if_pos ⟨lower, upper⟩]

theorem decodePieces_cons {byte : UInt8} {value : Nat} {rest others : Bytes} {lead : Lead} {bits : Nat}
    (known : byte.toNat = value) (leads : Lead.of? value = some lead)
    (follows : readFollowing lead.bits lead.least lead.greatest lead.following rest =
      (some bits, others)) :
    decodePieces (byte :: rest) = some (Char.ofNat bits) :: decodePieces others := by
  rw [decodePieces, known, leads]
  simp only [follows, Option.map_some]

theorem toNat_ofNat_of_lt {value : Nat} (small : value < 256) : (UInt8.ofNat value).toNat = value := by
  rw [UInt8.toNat_ofNat', Nat.mod_eq_of_lt small]

theorem decodePieces_one {code : Nat} (upper : code ≤ 0x7F) (rest : Bytes) :
    decodePieces (UInt8.ofNat code :: rest) = some (Char.ofNat code) :: decodePieces rest := by
  have leads : Lead.of? code = some ⟨0, code, 0x80, 0xBF⟩ := if_pos (by omega)
  exact decodePieces_cons (toNat_ofNat_of_lt (by omega)) leads rfl

theorem decodePieces_two {code : Nat} (lower : 0x7F < code) (upper : code ≤ 0x7FF) (rest : Bytes) :
    decodePieces (UInt8.ofNat (code / 64 % 0x20 + 0xC0) :: UInt8.ofNat (code % 0x40 + 0x80) :: rest) =
      some (Char.ofNat code) :: decodePieces rest := by
  have leads := @lead_two (code / 64 % 0x20 + 0xC0) (by omega) (by omega)
  have second : (UInt8.ofNat (code % 0x40 + 0x80)).toNat = code % 0x40 + 0x80 :=
    toNat_ofNat_of_lt (by omega)
  have follows := @readFollowing_cons (code / 64 % 0x20 + 0xC0 - 0xC0) 0 0x80 0xBF _ _ second
    (by omega) (by omega) rest
  have whole : (code / 64 % 0x20 + 0xC0 - 0xC0) * 64 + (code % 0x40 + 0x80 - 0x80) = code := by omega
  rw [whole] at follows
  exact decodePieces_cons (toNat_ofNat_of_lt (by omega)) leads follows

/-- The range of the second byte keeps out surrogates and longer forms of shorter characters. -/
theorem decodePieces_three {code : Nat} (valid : code < 0xD800 ∨ 0xDFFF < code) (lower : 0x7FF < code)
    (upper : code ≤ 0xFFFF) (rest : Bytes) :
    decodePieces (UInt8.ofNat (code / 4096 % 0x10 + 0xE0) :: UInt8.ofNat (code / 64 % 0x40 + 0x80) ::
        UInt8.ofNat (code % 0x40 + 0x80) :: rest) =
      some (Char.ofNat code) :: decodePieces rest := by
  have leads := @lead_three (code / 4096 % 0x10 + 0xE0) (by omega) (by omega)
  have second : (UInt8.ofNat (code / 64 % 0x40 + 0x80)).toNat = code / 64 % 0x40 + 0x80 :=
    toNat_ofNat_of_lt (by omega)
  have third : (UInt8.ofNat (code % 0x40 + 0x80)).toNat = code % 0x40 + 0x80 :=
    toNat_ofNat_of_lt (by omega)
  have least : (if code / 4096 % 0x10 + 0xE0 = 0xE0 then 0xA0 else 0x80) ≤ code / 64 % 0x40 + 0x80 := by
    split <;> omega
  have greatest : code / 64 % 0x40 + 0x80 ≤ if code / 4096 % 0x10 + 0xE0 = 0xED then 0x9F else 0xBF := by
    split <;> omega
  have follows := (readFollowing_cons (code / 4096 % 0x10 + 0xE0 - 0xE0) 1 second
    least greatest _).trans (readFollowing_cons _ 0 third (by omega) (by omega) rest)
  have whole : ((code / 4096 % 0x10 + 0xE0 - 0xE0) * 64 + (code / 64 % 0x40 + 0x80 - 0x80)) * 64 +
      (code % 0x40 + 0x80 - 0x80) = code := by omega
  rw [whole] at follows
  exact decodePieces_cons (toNat_ofNat_of_lt (by omega)) leads follows

theorem decodePieces_four {code : Nat} (lower : 0xFFFF < code) (upper : code < 0x110000) (rest : Bytes) :
    decodePieces (UInt8.ofNat (code / 262144 % 0x08 + 0xF0) ::
        UInt8.ofNat (code / 4096 % 0x40 + 0x80) :: UInt8.ofNat (code / 64 % 0x40 + 0x80) ::
        UInt8.ofNat (code % 0x40 + 0x80) :: rest) =
      some (Char.ofNat code) :: decodePieces rest := by
  have leads := @lead_four (code / 262144 % 0x08 + 0xF0) (by omega) (by omega)
  have second : (UInt8.ofNat (code / 4096 % 0x40 + 0x80)).toNat = code / 4096 % 0x40 + 0x80 :=
    toNat_ofNat_of_lt (by omega)
  have third : (UInt8.ofNat (code / 64 % 0x40 + 0x80)).toNat = code / 64 % 0x40 + 0x80 :=
    toNat_ofNat_of_lt (by omega)
  have fourth : (UInt8.ofNat (code % 0x40 + 0x80)).toNat = code % 0x40 + 0x80 :=
    toNat_ofNat_of_lt (by omega)
  have least : (if code / 262144 % 0x08 + 0xF0 = 0xF0 then 0x90 else 0x80) ≤
      code / 4096 % 0x40 + 0x80 := by
    split <;> omega
  have greatest : code / 4096 % 0x40 + 0x80 ≤
      if code / 262144 % 0x08 + 0xF0 = 0xF4 then 0x8F else 0xBF := by
    split <;> omega
  have follows := ((readFollowing_cons (code / 262144 % 0x08 + 0xF0 - 0xF0) 2 second
    least greatest _).trans (readFollowing_cons _ 1 third (by omega) (by omega) _)).trans
    (readFollowing_cons _ 0 fourth (by omega) (by omega) rest)
  have whole : (((code / 262144 % 0x08 + 0xF0 - 0xF0) * 64 + (code / 4096 % 0x40 + 0x80 - 0x80)) * 64 +
      (code / 64 % 0x40 + 0x80 - 0x80)) * 64 + (code % 0x40 + 0x80 - 0x80) = code := by omega
  rw [whole] at follows
  exact decodePieces_cons (toNat_ofNat_of_lt (by omega)) leads follows

theorem decodePieces_utf8Of (c : Char) (rest : Bytes) :
    decodePieces (utf8Of c ++ rest) = some c :: decodePieces rest := by
  have valid : c.val.toNat < 0xD800 ∨ 0xDFFF < c.val.toNat ∧ c.val.toNat < 0x110000 := c.valid
  have same : some c :: decodePieces rest = some (Char.ofNat c.val.toNat) :: decodePieces rest := by
    rw [show Char.ofNat c.val.toNat = c from Char.ofNat_toNat c]
  rw [same]
  unfold utf8Of String.utf8EncodeChar
  simp only
  split
  · next one => exact decodePieces_one one rest
  split
  · next one two => exact decodePieces_two (by omega) two rest
  split
  · next one two three => exact decodePieces_three (by omega) (by omega) three rest
  · next one two three => exact decodePieces_four (by omega) (by omega) rest

theorem decodePieces_utf8 (text : Text) : decodePieces (utf8 text) = text.map some := by
  induction text with
  | nil => simp [utf8, decodePieces]
  | cons c rest induction =>
      rw [utf8, List.flatMap_cons, decodePieces_utf8Of]
      exact congrArg (some c :: ·) induction

theorem ofUtf8?_utf8 (text : Text) : ofUtf8? (utf8 text) = some text := by
  rw [ofUtf8?, decodePieces_utf8]
  induction text with
  | nil => rfl
  | cons c rest induction =>
      rw [List.map_cons, List.mapM_cons, induction]
      rfl

theorem utf8_ne_nil {text : Text} (nonempty : text ≠ []) : text.utf8 ≠ [] := by
  intro empty
  have decoded := ofUtf8?_utf8 text
  have nothing : ofUtf8? [] = some [] := ofUtf8?_utf8 []
  rw [empty, nothing] at decoded
  exact nonempty (Option.some.inj decoded).symm

theorem toNat_eq_of_mem_utf8Of {byte : UInt8} {c : Char} (member : byte ∈ utf8Of c) (small : byte.toNat < 0x80) :
    byte.toNat = c.toNat := by
  have beyond {code : Nat} (here : byte = UInt8.ofNat code) (large : 0x80 ≤ code) (byteSize : code < 256) : False := by
    rw [here, toNat_ofNat_of_lt byteSize] at small
    omega
  unfold utf8Of String.utf8EncodeChar at member
  simp only at member
  split at member
  · next one =>
      rw [List.mem_singleton.mp member]
      exact toNat_ofNat_of_lt (by omega)
  exfalso
  split at member
  · simp only [List.mem_cons, List.not_mem_nil, or_false] at member
    rcases member with here | here <;> exact beyond here (by omega) (by omega)
  split at member
  · simp only [List.mem_cons, List.not_mem_nil, or_false] at member
    rcases member with here | here | here <;> exact beyond here (by omega) (by omega)
  · simp only [List.mem_cons, List.not_mem_nil, or_false] at member
    rcases member with here | here | here | here <;> exact beyond here (by omega) (by omega)

end UniversalModule.Text
