import UniversalModule.Text.Basic

/-!
Texts as bytes. Encoding is total; reading bytes back refuses anything but the shortest form of
a scalar value, and the lenient reading puts one replacement character for each longest run of
bytes that could have begun a character.
-/

namespace UniversalModule

abbrev Bytes := List UInt8

namespace Text

def utf8Of (c : Char) : Bytes := String.utf8EncodeChar c

def utf8 (text : Text) : Bytes := text.flatMap utf8Of

/-- How a character goes on after its first byte: how many bytes follow, the bits that the first
one gives, and the range in which the second one lies. -/
structure Lead where
  following : Nat
  bits : Nat
  least : Nat
  greatest : Nat

def Lead.of? (byte : Nat) : Option Lead :=
  if byte < 0x80 then some ⟨0, byte, 0x80, 0xBF⟩
  else if byte < 0xC2 then none
  else if byte < 0xE0 then some ⟨1, byte - 0xC0, 0x80, 0xBF⟩
  else if byte = 0xE0 then some ⟨2, 0, 0xA0, 0xBF⟩
  else if byte = 0xED then some ⟨2, 0xD, 0x80, 0x9F⟩
  else if byte < 0xF0 then some ⟨2, byte - 0xE0, 0x80, 0xBF⟩
  else if byte = 0xF0 then some ⟨3, 0, 0x90, 0xBF⟩
  else if byte < 0xF4 then some ⟨3, byte - 0xF0, 0x80, 0xBF⟩
  else if byte = 0xF4 then some ⟨3, 4, 0x80, 0x8F⟩
  else none

/-- Reads the bytes that follow a first byte; the first of them lies in the given range. -/
def readFollowing (bits least greatest : Nat) : Nat → Bytes → Option Nat × Bytes
  | 0, rest => (some bits, rest)
  | _ + 1, [] => (none, [])
  | count + 1, byte :: rest =>
      if least ≤ byte.toNat ∧ byte.toNat ≤ greatest then
        readFollowing (bits * 64 + (byte.toNat - 0x80)) 0x80 0xBF count rest
      else (none, byte :: rest)

theorem length_readFollowing (bits least greatest count : Nat) (bytes : Bytes) :
    (readFollowing bits least greatest count bytes).2.length ≤ bytes.length := by
  induction count generalizing bits least greatest bytes with
  | zero => simp [readFollowing]
  | succ count induction =>
      cases bytes with
      | nil => simp [readFollowing]
      | cons byte rest =>
          simp only [readFollowing]
          split
          · exact Nat.le_trans (induction _ _ _ _) (by simp)
          · simp

/-- The characters of a list of bytes, `none` for each run that is none. -/
def decodePieces (bytes : Bytes) : List (Option Char) :=
  match bytes with
  | [] => []
  | byte :: rest =>
      match Lead.of? byte.toNat with
      | none => none :: decodePieces rest
      | some lead =>
          let following := readFollowing lead.bits lead.least lead.greatest lead.following rest
          following.1.map Char.ofNat :: decodePieces following.2
termination_by bytes.length
decreasing_by
  · simp
  · have := length_readFollowing lead.bits lead.least lead.greatest lead.following rest
    simp only [List.length_cons]
    omega

/-- The text that the bytes encode, if they encode one. -/
def ofUtf8? (bytes : Bytes) : Option Text := (decodePieces bytes).mapM id

/-- The text that the bytes encode, with U+FFFD where they encode none. -/
def ofUtf8Lossy (bytes : Bytes) : Text := (decodePieces bytes).map (·.getD '\uFFFD')

end Text

end UniversalModule
