import UniversalModule.Proofs.Json.Containers
import UniversalModule.Proofs.Json.Numerals
import UniversalModule.Resolution

/-!
Assignments read back from their statements. A statement has one reading: the three kinds of
values begin differently, names and segments end at their own quotes, and a parameter is known by
the digits of its number.
-/

namespace UniversalModule

/-- Subscripts up to the end of a text; the fuel bounds their number. -/
def subscripts? : Nat → Text → Option (List Text)
  | _, [] => some []
  | fuel + 1, '[' :: rest => do
      let (segment, rest) ← Json.readText rest
      let rest ← Text.after? [']'] rest
      let segments ← subscripts? fuel rest
      some (segment :: segments)
  | _, _ => none

namespace Access

def global? (text : Text) : Option Access := do
  let rest ← Text.after? globalName text
  let segments ← subscripts? rest.length rest
  if segments = [] then none else some (.global segments)

def bundled? (text : Text) : Option Access := do
  let rest ← Text.after? (requireName ++ ['(']) text
  let (package, rest) ← Json.readText rest
  if rest = [')'] then some (.bundled package) else none

def parameter? (text : Text) : Option Access := do
  let digits ← Text.after? parameterStart text
  let index := Json.digitsValue digits
  if Text.ofNat index = digits then some (.parameter index) else none

/-- Reads a value: the ambient object with one subscript or more, a bundled package, or a
parameter. -/
def parse? (text : Text) : Option Access :=
  (global? text).or ((bundled? text).or (parameter? text))

end Access

/-- Reads a statement that puts a value into the library of the given runtime. -/
def Assignment.parse? (runtime statement : Text) : Option Assignment := do
  let rest ← Text.after? (runtime ++ ".lib[") statement
  let (name, rest) ← Json.readText rest
  let value ← Text.after? "] = " rest
  if value.getLast? = some ';' then (Access.parse? value.dropLast).map (Assignment.mk name) else none

theorem Text.after?_append (start rest : Text) : Text.after? start (start ++ rest) = some rest :=
  Text.after?_eq_some_iff.mpr rfl

theorem readText_stringLiteral (text rest : Text) :
    Json.readText (Json.stringLiteral text ++ rest) = some (text, rest) :=
  Json.readText_quoted .script text rest

theorem subscriptChain_cons (segment : Text) (rest : List Text) :
    subscriptChain [] (segment :: rest) =
      '[' :: (Json.stringLiteral segment ++ ']' :: subscriptChain [] rest) := by
  simp [subscriptChain]

theorem subscripts?_subscriptChain (segments : List Text) {fuel : Nat}
    (enough : (subscriptChain [] segments).length ≤ fuel) :
    subscripts? fuel (subscriptChain [] segments) = some segments := by
  induction segments generalizing fuel with
  | nil => cases fuel <;> rfl
  | cons segment rest induction =>
      rw [subscriptChain_cons] at enough ⊢
      simp only [List.length_cons, List.length_append] at enough
      obtain ⟨fuel, rfl⟩ := Nat.exists_eq_succ_of_ne_zero (show fuel ≠ 0 by omega)
      have others := induction (show (subscriptChain [] rest).length ≤ fuel by omega)
      have closed : Text.after? [']'] (']' :: subscriptChain [] rest) = some (subscriptChain [] rest) :=
        Text.after?_append [']'] _
      rw [subscripts?, readText_stringLiteral]
      simp only [Option.bind_eq_bind, Option.bind_some, closed, others]

namespace Access

theorem global?_render {segments : List Text} (present : segments ≠ []) :
    global? (render (.global segments)) = some (.global segments) := by
  have text : render (.global segments) = globalName ++ subscriptChain [] segments := rfl
  unfold global?
  rw [text, Text.after?_append]
  simp only [Option.bind_eq_bind, Option.bind_some,
    subscripts?_subscriptChain segments (Nat.le_refl _), if_neg present]

theorem bundled?_render (package : Text) :
    bundled? (render (.bundled package)) = some (.bundled package) := by
  have text : render (.bundled package) =
      (requireName ++ ['(']) ++ (Json.stringLiteral package ++ [')']) := by
    simp [render]
  unfold bundled?
  rw [text, Text.after?_append]
  simp only [Option.bind_eq_bind, Option.bind_some, readText_stringLiteral]
  rfl

theorem parameter?_render (index : Nat) : parameter? (render (.parameter index)) = some (.parameter index) := by
  unfold parameter? render parameterName
  rw [Text.after?_append]
  simp only [Option.bind_eq_bind, Option.bind_some, Json.digitsValue_ofNat, if_true]

theorem global?_bundled (package : Text) : global? (render (.bundled package)) = none := rfl

theorem global?_parameter (index : Nat) : global? (render (.parameter index)) = none := rfl

theorem bundled?_parameter (index : Nat) : bundled? (render (.parameter index)) = none := rfl

theorem parse?_render {access : Access} (proper : access ≠ .global []) :
    parse? access.render = some access := by
  unfold parse?
  cases access with
  | global segments =>
      have present : segments ≠ [] := by
        rintro rfl
        exact proper rfl
      rw [global?_render present]
      rfl
  | bundled package =>
      rw [global?_bundled, bundled?_render]
      rfl
  | parameter index =>
      rw [global?_parameter, bundled?_parameter, parameter?_render]
      rfl

end Access

theorem Assignment.parse?_render (runtime : Text) {assignment : Assignment}
    (proper : assignment.value ≠ .global []) :
    Assignment.parse? runtime (assignment.render runtime) = some assignment := by
  have text : assignment.render runtime = (runtime ++ ".lib[") ++
      (Json.stringLiteral assignment.name ++ ("] = " ++ (assignment.value.render ++ [';']))) := by
    simp only [Assignment.render, List.append_assoc]
    rfl
  unfold Assignment.parse?
  rw [text, Text.after?_append]
  simp only [Option.bind_eq_bind, Option.bind_some, readText_stringLiteral, Text.after?_append,
    List.getLast?_concat, if_true, List.dropLast_concat, Access.parse?_render proper, Option.map_some]

end UniversalModule
