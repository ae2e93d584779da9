import UniversalModule.Text.Base64

/-!
Whole numbers as digits to the base sixty-four. A digit carries five bits, the least significant
ones first, and the bit above them tells that more digits follow. The lowest bit of the first
digit is the sign.
-/

namespace UniversalModule.Vlq

/-- The absolute value with the sign below it. -/
def withSign (value : Int) : Nat := 2 * value.natAbs + if value < 0 then 1 else 0

def encodeBits (bits : Nat) : Text :=
  if bits < 32 then [Base64.digit bits]
  else Base64.digit (bits % 32 + 32) :: encodeBits (bits / 32)

def encode (value : Int) : Text := encodeBits (withSign value)

theorem encodeBits_small {bits : Nat} (small : bits < 32) : encodeBits bits = [Base64.digit bits] := by
  rw [encodeBits, if_pos small]

theorem encodeBits_large {bits : Nat} (large : 32 ≤ bits) :
    encodeBits bits = Base64.digit (bits % 32 + 32) :: encodeBits (bits / 32) := by
  rw [encodeBits, if_neg (by omega)]

end UniversalModule.Vlq
