import UniversalModule.Identifier
import UniversalModule.Json.Writer
import UniversalModule.Proofs.Script.Scanner

/-!
Scripts in which every name is given as what it stands for, so that a naming gives their text. A
function binds its parameters and the variables that are declared in it, wherever that is; outside
of quotes, comments and texts that are taken over, a script has no names but those that are given so
and those of properties. Resolved scripts are those in which every name leads to what it stands for:
no binding stands between them, and nothing else is bound under a name that comes from outside.
-/

namespace UniversalModule

inductive Script (ρ : Type) where
  | empty
  | blank (count : Nat)
  /-- Keywords and punctuation. -/
  | fixed (text : Text)
  | quoted (text : Text)
  | value (json : Json.Value)
  /-- The name of a property, behind its object. -/
  | property (name : Text)
  | comment (text : Text)
  /-- A text that is taken over as it is. -/
  | embedded (text : Text)
  | reference (referent : ρ)
  | declaration (referent : ρ)
  | sequence (first second : Script ρ)
  | function (parameters : List ρ) (body : Script ρ)

namespace Script

variable {ρ : Type}

def concat : List (Script ρ) → Script ρ
  | [] => .empty
  | script :: rest => .sequence script (concat rest)

def functionText (parameters : List Text) (body : Text) : Text :=
  "function (" ++ Text.joinWith ", " parameters ++ ") \x7b" ++ body ++ ['\x7d']

def text (name : ρ → Text) : Script ρ → Text
  | .empty => []
  | .blank count => List.replicate count ' '
  | .fixed text => text
  | .quoted text => Json.stringLiteral text
  | .value json => json.literal
  | .property name => '.' :: name
  | .comment text => '/' :: '/' :: text
  | .embedded text => text
  | .reference referent => name referent
  | .declaration referent => name referent
  | .sequence first second => first.text name ++ second.text name
  | .function parameters body => functionText (parameters.map name) (body.text name)

theorem text_function (name : ρ → Text) (parameters : List ρ) (body : Script ρ) :
    (Script.function parameters body).text name = functionText (parameters.map name) (body.text name) := rfl

def declared : Script ρ → List ρ
  | .declaration referent => [referent]
  | .sequence first second => first.declared ++ second.declared
  | _ => []

def words (text : Text) : List Text :=
  (text.splitBy fun c d => isIdentifierPart c == isIdentifierPart d).filter fun piece =>
    piece.all isIdentifierPart

def keywords : List Text :=
  ["else", "false", "function", "if", "new", "return", "true", "typeof", "var"]

example : keywords.all reservedWords.contains = true := by decide +kernel

/-- Whether what is fixed has no words but those of the language, properties are called by words, and
comments end with their line. -/
def isExplicit : Script ρ → Bool
  | .fixed text => (words text).all keywords.contains
  | .property name => name.all isIdentifierPart
  | .comment text => text.all fun c => !Scanner.isLineEnd c
  | .sequence first second => first.isExplicit && second.isExplicit
  | .function _ body => body.isExplicit
  | _ => true

section Resolution

variable (name : ρ → Text) (bound : ρ → Bool)

/-- The name leads to its referent: to the innermost binding of the name when the referent is bound
by the script, to no binding otherwise. -/
def Reaches (scope : List ρ) (referent : ρ) : Prop :=
  scope.find? (fun other => name other == name referent) = if bound referent then some referent else none

/-- Every name leads to its referent, and what a function binds has distinct names. -/
def Resolved : List ρ → Script ρ → Prop
  | scope, .reference referent => Reaches name bound scope referent
  | scope, .declaration referent => Reaches name bound scope referent
  | scope, .sequence first second => Resolved scope first ∧ Resolved scope second
  | scope, .function parameters body =>
      ((parameters ++ body.declared).map name).Nodup ∧
        (∀ referent ∈ parameters ++ body.declared, bound referent = true) ∧
        Resolved (parameters ++ body.declared ++ scope) body
  | _, _ => True

variable {name bound} {scope outer : List ρ} {referent : ρ}

theorem find?_name_of_mem (distinct : (scope.map name).Nodup) (member : referent ∈ scope) :
    scope.find? (fun other => name other == name referent) = some referent := by
  induction scope with
  | nil => exact absurd member List.not_mem_nil
  | cons first rest induction =>
      obtain ⟨fresh, others⟩ := List.nodup_cons.mp (List.map_cons ▸ distinct)
      rcases List.mem_cons.mp member with rfl | later
      · rw [List.find?_cons_of_pos (by simp)]
      · have apart : name first ≠ name referent := fun same =>
          fresh (same ▸ List.mem_map_of_mem later)
        rw [List.find?_cons_of_neg (by simpa using apart), induction others later]

theorem reaches_of_mem (distinct : (scope.map name).Nodup) (member : referent ∈ scope)
    (isBound : bound referent = true) : Reaches name bound (scope ++ outer) referent := by
  rw [Reaches, List.find?_append, find?_name_of_mem distinct member, isBound]
  rfl

theorem reaches_append (fresh : ∀ other ∈ scope, name other ≠ name referent)
    (reaches : Reaches name bound outer referent) : Reaches name bound (scope ++ outer) referent := by
  have missing : scope.find? (fun other => name other == name referent) = none := by
    rw [List.find?_eq_none]
    intro other member
    simpa using fresh other member
  rw [Reaches, List.find?_append, missing]
  exact reaches

theorem reaches_of_free (fresh : ∀ other ∈ scope, name other ≠ name referent)
    (free : bound referent = false) : Reaches name bound scope referent := by
  have outside : Reaches name bound [] referent := by
    rw [Reaches, free]
    rfl
  have whole := reaches_append fresh outside
  rwa [List.append_nil] at whole

end Resolution

section Concat

variable {name : ρ → Text} {bound : ρ → Bool} {scripts : List (Script ρ)}

theorem text_concat : (concat scripts).text name = scripts.flatMap (text name) := by
  induction scripts with
  | nil => rfl
  | cons script rest induction =>
      have split : (concat (script :: rest)).text name = script.text name ++ (concat rest).text name := rfl
      rw [split, induction, List.flatMap_cons]

theorem declared_concat : (concat scripts).declared = scripts.flatMap declared := by
  induction scripts with
  | nil => rfl
  | cons script rest induction => rw [concat, declared, induction, List.flatMap_cons]

theorem isExplicit_concat :
    (concat scripts).isExplicit = true ↔ ∀ script ∈ scripts, script.isExplicit = true := by
  induction scripts with
  | nil => simp [concat, isExplicit]
  | cons script rest induction =>
      rw [concat, isExplicit, Bool.and_eq_true, induction, List.forall_mem_cons]

theorem resolved_concat {scope : List ρ} :
    Resolved name bound scope (concat scripts) ↔
      ∀ script ∈ scripts, Resolved name bound scope script := by
  induction scripts with
  | nil => simp [concat, Resolved]
  | cons script rest induction => rw [concat, Resolved, induction, List.forall_mem_cons]

end Concat

section Fits

variable (name : ρ → Text) (bound : ρ → Bool)

/-- The script has no names but those that are given, declares these variables, and its names lead
to what they stand for where this scope is around it. -/
structure Fits (scope declared : List ρ) (script : Script ρ) : Prop where
  explicit : script.isExplicit = true
  declares : script.declared = declared
  resolved : Resolved name bound scope script

variable {name bound} {scope declared : List ρ}

theorem fits_nil : Fits name bound scope [] (concat []) := ⟨rfl, rfl, trivial⟩

theorem Fits.cons {script : Script ρ} {rest : List (Script ρ)} {others : List ρ}
    (first : Fits name bound scope declared script) (fits : Fits name bound scope others (concat rest)) :
    Fits name bound scope (declared ++ others) (concat (script :: rest)) where
  explicit := by rw [concat, isExplicit, first.explicit, fits.explicit, Bool.and_self]
  declares := by rw [concat, Script.declared, first.declares, fits.declares]
  resolved := ⟨first.resolved, fits.resolved⟩

theorem Fits.append {first second : List (Script ρ)} {others : List ρ}
    (left : Fits name bound scope declared (concat first))
    (right : Fits name bound scope others (concat second)) :
    Fits name bound scope (declared ++ others) (concat (first ++ second)) where
  explicit := isExplicit_concat.mpr (List.forall_mem_append.mpr
    ⟨isExplicit_concat.mp left.explicit, isExplicit_concat.mp right.explicit⟩)
  declares := by
    rw [declared_concat, List.flatMap_append, ← declared_concat, ← declared_concat, left.declares,
      right.declares]
  resolved := resolved_concat.mpr (List.forall_mem_append.mpr
    ⟨resolved_concat.mp left.resolved, resolved_concat.mp right.resolved⟩)

theorem fits_concat_map {α : Type} {items : List α} {script : α → Script ρ}
    (each : ∀ item ∈ items, Fits name bound scope [] (script item)) :
    Fits name bound scope [] (concat (items.map script)) := by
  induction items with
  | nil => exact fits_nil
  | cons item rest induction =>
      exact (each item List.mem_cons_self).cons
        (induction fun other member => each other (List.mem_cons_of_mem item member))

/-- What is inside of a function sees its parameters and variables first. -/
theorem Fits.function {parameters : List ρ} {body : Script ρ}
    (distinct : ((parameters ++ declared).map name).Nodup)
    (isBound : ∀ referent ∈ parameters ++ declared, bound referent = true)
    (fits : Fits name bound (parameters ++ declared ++ scope) declared body) :
    Fits name bound scope [] (.function parameters body) where
  explicit := fits.explicit
  declares := rfl
  resolved := by
    rw [Resolved, fits.declares]
    exact ⟨distinct, isBound, fits.resolved⟩

end Fits

end Script

end UniversalModule
