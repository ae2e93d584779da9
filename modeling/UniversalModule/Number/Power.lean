/-!
The powers of two and ten that bound or scale numbers.
-/

namespace UniversalModule

def twoTo (exponent : Nat) : Nat := Nat.pow 2 exponent

theorem twoTo_63 : twoTo 63 = 9223372036854775808 := rfl

theorem twoTo_64 : twoTo 64 = 18446744073709551616 := rfl

def tenTo (exponent : Nat) : Nat := Nat.pow 10 exponent

end UniversalModule
