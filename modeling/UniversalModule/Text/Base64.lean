import UniversalModule.Text.Utf8

/-!
Digits to the base sixty-four, and bytes written with them: three bytes are four digits, and an
incomplete group is filled up with `=`.
-/

namespace UniversalModule.Base64

def alphabet : Text := "ABCDEFGHIJKLMNOPQRSTUVWXYZabcdefghijklmnopqrstuvwxyz0123456789+/"

def digit (value : Nat) : Char := alphabet.getD value '='

def value? (c : Char) : Option Nat := alphabet.findIdx? (· == c)

theorem value?_digit {value : Nat} (small : value < 64) : value? (digit value) = some value := by
  have all : ∀ value < 64, value? (digit value) = some value := by decide +kernel
  exact all value small

theorem digit_of_value? {c : Char} {value : Nat} (known : value? c = some value) :
    digit value = c ∧ value < 64 := by
  obtain ⟨bound, same, -⟩ := List.findIdx?_eq_some_iff_getElem.mp known
  have size : alphabet.length = 64 := by decide
  refine ⟨?_, size ▸ bound⟩
  simp only [beq_iff_eq] at same
  simp [digit, List.getD_eq_getElem?_getD, List.getElem?_eq_getElem bound, same]

def encode : Bytes → Text
  | [] => []
  | [a] =>
      let bits := a.toNat * 16
      [digit (bits / 64), digit (bits % 64), '=', '=']
  | [a, b] =>
      let bits := (a.toNat * 256 + b.toNat) * 4
      [digit (bits / 4096), digit (bits / 64 % 64), digit (bits % 64), '=']
  | a :: b :: c :: rest =>
      let bits := (a.toNat * 256 + b.toNat) * 256 + c.toNat
      digit (bits / 262144) :: digit (bits / 4096 % 64) :: digit (bits / 64 % 64) ::
        digit (bits % 64) :: encode rest

end UniversalModule.Base64
