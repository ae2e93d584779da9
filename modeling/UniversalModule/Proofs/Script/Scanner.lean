import UniversalModule.Proofs.Text.Rows

/-!
A scanner of scripts that knows string literals, comments to the end of a line, and brackets. It
keeps the brackets that are still to be closed and fails on one that closes another, and on a line
end in a string. What lies below the brackets that a text closes and opens does not matter, so
texts are scanned part by part.
-/

namespace UniversalModule.Scanner

inductive Mode where
  /-- Outside of strings and comments; `true` directly after a slash that begins nothing yet. -/
  | code (slash : Bool)
  | string
  /-- In a string, directly after a backslash. -/
  | escape
  | comment
deriving DecidableEq

structure State where
  mode : Mode
  /-- The closing brackets that are awaited, the innermost first. -/
  awaited : List Char
deriving DecidableEq

def isLineEnd (c : Char) : Bool := c == '\n' || c == '\r' || c == '\u2028' || c == '\u2029'

def closing? (c : Char) : Option Char :=
  if c = '(' then some ')' else if c = '[' then some ']' else if c = '\x7b' then some '\x7d' else none

def isClosing (c : Char) : Bool := c == ')' || c == ']' || c == '\x7d'

namespace State

def start : State := ⟨.code false, []⟩

def stepCode (slash : Bool) (awaited : List Char) (c : Char) : Option State :=
  if c = '"' then some ⟨.string, awaited⟩
  else if c = '/' then some ⟨if slash then .comment else .code true, awaited⟩
  else
    match closing? c with
    | some closing => some ⟨.code false, closing :: awaited⟩
    | none =>
        if isClosing c then
          match awaited with
          | [] => none
          | expected :: rest => if c = expected then some ⟨.code false, rest⟩ else none
        else some ⟨.code false, awaited⟩

def stepString (awaited : List Char) (c : Char) : Option State :=
  if c = '\\' then some ⟨.escape, awaited⟩
  else if c = '"' then some ⟨.code false, awaited⟩
  else if isLineEnd c then none
  else some ⟨.string, awaited⟩

def step (state : State) (c : Char) : Option State :=
  match state.mode with
  | .code slash => stepCode slash state.awaited c
  | .string => stepString state.awaited c
  | .escape => some ⟨.string, state.awaited⟩
  | .comment => some ⟨if isLineEnd c then .code false else .comment, state.awaited⟩

def run (state : State) : Text → Option State
  | [] => some state
  | c :: rest => (state.step c).bind fun next => next.run rest

theorem run_append (state : State) (first second : Text) :
    state.run (first ++ second) = (state.run first).bind fun next => next.run second := by
  induction first generalizing state with
  | nil => rfl
  | cons c rest induction =>
      rw [List.cons_append, run, run]
      cases state.step c with
      | none => rfl
      | some next => exact induction next

def inside (outer : List Char) (state : State) : State := { state with awaited := state.awaited ++ outer }

theorem stepCode_inside {slash : Bool} {awaited : List Char} {c : Char} {next : State}
    (stepped : stepCode slash awaited c = some next) (outer : List Char) :
    stepCode slash (awaited ++ outer) c = some (next.inside outer) := by
  unfold stepCode at stepped ⊢
  by_cases quote : c = '"'
  · rw [if_pos quote] at stepped ⊢
    cases stepped
    rfl
  rw [if_neg quote] at stepped ⊢
  by_cases solidus : c = '/'
  · rw [if_pos solidus] at stepped ⊢
    cases stepped
    rfl
  rw [if_neg solidus] at stepped ⊢
  cases opened : closing? c with
  | some closing =>
      rw [opened] at stepped
      cases stepped
      rfl
  | none =>
      rw [opened] at stepped
      by_cases closes : isClosing c = true
      · simp only [if_pos closes] at stepped ⊢
        cases awaited with
        | nil => exact absurd stepped (by simp)
        | cons expected rest =>
            by_cases same : c = expected
            · simp only [if_pos same] at stepped
              cases stepped
              exact if_pos same
            · simp only [if_neg same] at stepped
              exact absurd stepped (by simp)
      · simp only [if_neg closes] at stepped ⊢
        cases stepped
        rfl

theorem stepString_inside {awaited : List Char} {c : Char} {next : State}
    (stepped : stepString awaited c = some next) (outer : List Char) :
    stepString (awaited ++ outer) c = some (next.inside outer) := by
  unfold stepString at stepped ⊢
  split at stepped
  · next backslash =>
      cases stepped
      exact if_pos backslash
  · next other =>
      rw [if_neg other]
      split at stepped
      · next quote =>
          cases stepped
          exact if_pos quote
      · next other =>
          rw [if_neg other]
          split at stepped
          · exact absurd stepped (by simp)
          · next inner =>
              cases stepped
              exact if_neg inner

theorem step_inside {state next : State} {c : Char} (stepped : state.step c = some next)
    (outer : List Char) : (state.inside outer).step c = some (next.inside outer) := by
  obtain ⟨mode, awaited⟩ := state
  cases mode with
  | code slash => exact stepCode_inside stepped outer
  | string => exact stepString_inside stepped outer
  | escape =>
      cases stepped
      rfl
  | comment =>
      cases stepped
      rfl

theorem run_inside {state next : State} {text : Text} (ran : state.run text = some next)
    (outer : List Char) : (state.inside outer).run text = some (next.inside outer) := by
  induction text generalizing state with
  | nil =>
      cases ran
      rfl
  | cons c rest induction =>
      obtain ⟨middle, stepped, others⟩ := Option.bind_eq_some_iff.mp ran
      rw [run, step_inside stepped outer]
      exact induction others

end State

/-- The text leads from code to code, with the brackets that are awaited before and after it. -/
def Leads (before after : List Char) (text : Text) : Prop :=
  (State.mk (.code false) before).run text = some (State.mk (.code false) after)

instance (before after : List Char) (text : Text) : Decidable (Leads before after text) :=
  inferInstanceAs (Decidable (_ = _))

/-- All brackets of the text are closed in it, and no string and no comment is left open. -/
def Neutral (text : Text) : Prop := Leads [] [] text

instance (text : Text) : Decidable (Neutral text) := inferInstanceAs (Decidable (Leads [] [] text))

namespace Leads

theorem nil (awaited : List Char) : Leads awaited awaited [] := rfl

theorem append {before middle after : List Char} {first second : Text}
    (left : Leads before middle first) (right : Leads middle after second) :
    Leads before after (first ++ second) := by
  rw [Leads, State.run_append, left]
  exact right

theorem inside {before after : List Char} {text : Text} (leads : Leads before after text)
    (outer : List Char) : Leads (before ++ outer) (after ++ outer) text :=
  State.run_inside leads outer

theorem step {before middle after : List Char} {c : Char} {rest : Text}
    (stepped : (State.mk (.code false) before).step c = some ⟨.code false, middle⟩)
    (others : Leads middle after rest) : Leads before after (c :: rest) := by
  rw [Leads, State.run, stepped]
  exact others

end Leads

theorem Neutral.leads {text : Text} (neutral : Neutral text) (awaited : List Char) :
    Leads awaited awaited text := Leads.inside neutral awaited

theorem Neutral.append {first second : Text} (left : Neutral first) (right : Neutral second) :
    Neutral (first ++ second) := Leads.append left right

theorem neutral_flatten {texts : List Text} (each : ∀ text ∈ texts, Neutral text) :
    Neutral texts.flatten := by
  induction texts with
  | nil => exact Leads.nil []
  | cons text rest induction =>
      rw [List.flatten_cons]
      exact (each text List.mem_cons_self).append
        (induction fun other member => each other (List.mem_cons_of_mem text member))

theorem neutral_joinWith {separator : Text} {texts : List Text} (between : Neutral separator)
    (each : ∀ text ∈ texts, Neutral text) : Neutral (Text.joinWith separator texts) := by
  induction texts with
  | nil => exact Leads.nil []
  | cons text rest induction =>
      have first := each text List.mem_cons_self
      by_cases last : rest = []
      · rw [last]
        exact first
      · rw [Text.joinWith_cons last]
        exact (first.append between).append
          (induction fun other member => each other (List.mem_cons_of_mem text member))

/-- The characters that mean something outside of strings and comments. -/
def marks : List Char := ['"', '/', '(', ')', '[', ']', '\x7b', '\x7d']

def isPlain (c : Char) : Bool := !marks.contains c

theorem isPlain_of_kind {kind : Char → Bool} (unmarked : marks.all (fun mark => !kind mark) = true)
    {c : Char} (known : kind c = true) : isPlain c = true := by
  rw [isPlain, Bool.not_eq_true', ← Bool.not_eq_true]
  intro member
  have unknown := List.all_eq_true.mp unmarked c (List.contains_iff_mem.mp member)
  rw [known] at unknown
  exact absurd unknown (by decide)

theorem step_plain {c : Char} (plain : isPlain c = true) (slash : Bool) (awaited : List Char) :
    (State.mk (.code slash) awaited).step c = some ⟨.code false, awaited⟩ := by
  have others : c ∉ marks := by simpa [isPlain] using plain
  simp only [marks, List.mem_cons, List.not_mem_nil, or_false, not_or] at others
  obtain ⟨quote, solidus, open₁, close₁, open₂, close₂, open₃, close₃⟩ := others
  have opens : closing? c = none := by rw [closing?, if_neg open₁, if_neg open₂, if_neg open₃]
  have closes : isClosing c = false := by simp [isClosing, close₁, close₂, close₃]
  simp only [State.step, State.stepCode, if_neg quote, if_neg solidus, opens, closes]
  rfl

/-- The scanner does not fail in the text, and after it no string, comment or bracket is open. -/
def Accepted (text : Text) : Prop := ∃ slash, State.start.run text = some ⟨.code slash, []⟩

theorem Neutral.accepted {text : Text} (neutral : Neutral text) : Accepted text := ⟨false, neutral⟩

theorem Accepted.neutral {text : Text} (accepted : Accepted text) (complete : text.Complete) :
    Neutral text := by
  obtain ⟨slash, ran⟩ := accepted
  rcases complete with rfl | ended
  · exact rfl
  · have last : text.getLast? = some '\n' := by simpa [Text.endsLine] using ended
    obtain ⟨start, rfl⟩ := List.getLast?_eq_some_iff.mp last
    have parts := ran
    rw [State.run_append] at parts
    obtain ⟨⟨mode, awaited⟩, -, stepped⟩ := Option.bind_eq_some_iff.mp parts
    -- A line feed leads to code from code and from a comment only, and then no slash is pending.
    have settled : slash = false := by
      cases mode with
      | code pending =>
          rw [State.run, step_plain (by decide)] at stepped
          cases stepped
          rfl
      | string => exact absurd stepped (by simp [State.run, State.step, State.stepString, isLineEnd])
      | escape => exact absurd stepped (by simp [State.run, State.step])
      | comment =>
          cases stepped
          rfl
    rw [settled] at ran
    exact ran

theorem neutral_plain {text : Text} (plain : ∀ c ∈ text, isPlain c = true) : Neutral text := by
  induction text with
  | nil => exact Leads.nil []
  | cons c rest induction =>
      exact Leads.step (step_plain (plain c List.mem_cons_self) false [])
        (induction fun other member => plain other (List.mem_cons_of_mem c member))

theorem run_comment {text : Text} (single : ∀ c ∈ text, isLineEnd c = false) (awaited : List Char) :
    (State.mk .comment awaited).run text = some ⟨.comment, awaited⟩ := by
  induction text with
  | nil => rfl
  | cons c rest induction =>
      rw [State.run, State.step, single c List.mem_cons_self]
      exact induction fun other member => single other (List.mem_cons_of_mem c member)

theorem neutral_comment {text : Text} (single : ∀ c ∈ text, isLineEnd c = false) :
    Neutral ('/' :: '/' :: (text ++ ['\n'])) := by
  have slashes : State.start.run ['/', '/'] = some ⟨.comment, []⟩ := rfl
  have whole : State.start.run (['/', '/'] ++ (text ++ ['\n'])) = some State.start := by
    rw [State.run_append, slashes, Option.bind_some, State.run_append, run_comment single]
    rfl
  exact whole

end UniversalModule.Scanner
