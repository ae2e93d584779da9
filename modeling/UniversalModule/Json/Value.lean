import UniversalModule.Keyed
import UniversalModule.Number.Binary64
import UniversalModule.Text.Basic

/-!
JSON values. Members of an object have an order. Whole numbers that fit sixty-four bits, with or
without a sign, stay whole; all other numbers are floating-point.
-/

namespace UniversalModule.Json

structure Whole where
  value : Int
  inRange : -(twoTo 63 : Int) ≤ value ∧ value < twoTo 64
deriving DecidableEq

def Whole.of? (value : Int) : Option Whole :=
  if inRange : -(twoTo 63 : Int) ≤ value ∧ value < twoTo 64 then some ⟨value, inRange⟩ else none

inductive Value where
  | null
  | boolean (value : Bool)
  | whole (value : Whole)
  | real (value : Binary64)
  | string (value : Text)
  | array (items : List Value)
  | object (members : List (Text × Value))

namespace Value

def emptyObject : Value := .object []

inductive Distinct : Value → Prop where
  | null : Distinct .null
  | boolean (value : Bool) : Distinct (.boolean value)
  | whole (value : Whole) : Distinct (.whole value)
  | real (value : Binary64) : Distinct (.real value)
  | string (value : Text) : Distinct (.string value)
  | array {items : List Value} (each : ∀ item ∈ items, Distinct item) : Distinct (.array items)
  | object {members : List (Text × Value)} (keys : (Keyed.keys members).Nodup)
      (each : ∀ member ∈ members, Distinct member.2) : Distinct (.object members)

end Value

end UniversalModule.Json
