import Mathlib.Data.List.Forall2
import UniversalModule.Proofs.Text.Split
import UniversalModule.Text.Blank

/-!
Trimmed texts. What trimming leaves of a text is the one text without blanks at its ends from which
the text comes by putting blanks around it. Blanks around joined pieces are blanks around the first
and the last piece, so that a text may be trimmed before it is split or not.
-/

namespace UniversalModule.Text

def Padded (inner outer : Text) : Prop :=
  ∃ before after : Text, before.allBlank = true ∧ after.allBlank = true ∧ outer = before ++ inner ++ after

structure Trimmed (text : Text) : Prop where
  first : ∀ c, text.head? = some c → isBlank c = false
  last : ∀ c, text.getLast? = some c → isBlank c = false

variable {text inner outer blanks : Text}

theorem Padded.refl (text : Text) : Padded text text := ⟨[], [], rfl, rfl, (List.append_nil text).symm⟩

theorem allBlank_reverse (text : Text) : allBlank text.reverse = text.allBlank := List.all_reverse

theorem trimStart_append (blank : blanks.allBlank = true) (rest : Text) :
    trimStart (blanks ++ rest) = trimStart rest :=
  List.dropWhile_append_of_pos (List.all_eq_true.mp blank)

/-- Trimming at the end is trimming the reversed text at the start. -/
theorem trimEnd_eq (text : Text) : trimEnd text = (trimStart text.reverse).reverse := rfl

theorem trimEnd_append (blank : blanks.allBlank = true) (text : Text) :
    trimEnd (text ++ blanks) = trimEnd text := by
  have reversed : allBlank blanks.reverse = true := by rw [allBlank_reverse, blank]
  rw [trimEnd_eq, List.reverse_append, trimStart_append reversed, ← trimEnd_eq]

theorem exists_trimStart (text : Text) :
    ∃ blanks : Text, blanks.allBlank = true ∧ text = blanks ++ trimStart text :=
  ⟨text.takeWhile isBlank, List.all_takeWhile, List.takeWhile_append_dropWhile.symm⟩

theorem exists_trimEnd (text : Text) :
    ∃ blanks : Text, blanks.allBlank = true ∧ text = trimEnd text ++ blanks := by
  obtain ⟨blanks, blank, whole⟩ := exists_trimStart text.reverse
  refine ⟨blanks.reverse, by rw [allBlank_reverse, blank], ?_⟩
  rw [trimEnd_eq, ← List.reverse_append, ← whole, List.reverse_reverse]

theorem trimStart_eq_self (first : ∀ c, text.head? = some c → isBlank c = false) : trimStart text = text := by
  cases text with
  | nil => rfl
  | cons c rest => exact List.dropWhile_cons_of_neg (by simp [first c rfl])

theorem trimEnd_eq_self (last : ∀ c, text.getLast? = some c → isBlank c = false) : trimEnd text = text := by
  have reversed : ∀ c, text.reverse.head? = some c → isBlank c = false := by
    rw [List.head?_reverse]
    exact last
  rw [trimEnd_eq, trimStart_eq_self reversed, List.reverse_reverse]

theorem head_trimStart {c : Char} (head : (trimStart text).head? = some c) : isBlank c = false := by
  have stopped := List.head?_dropWhile_not isBlank text
  rw [trimStart] at head
  rw [head] at stopped
  exact stopped

theorem last_trimEnd {c : Char} (last : (trimEnd text).getLast? = some c) : isBlank c = false := by
  rw [trimEnd_eq, List.getLast?_reverse] at last
  exact head_trimStart last

theorem Trimmed.trim (trimmed : Trimmed text) : text.trim = text := by
  rw [Text.trim, trimStart_eq_self trimmed.first, trimEnd_eq_self trimmed.last]

theorem trimmed_trim (text : Text) : Trimmed text.trim where
  first c head := by
    -- What is dropped at the end leaves the first character.
    obtain ⟨blanks, -, whole⟩ := exists_trimEnd (trimStart text)
    have kept : (trimStart text).head? = some c := by
      rw [Text.trim] at head
      rw [whole, List.head?_append, head]
      rfl
    exact head_trimStart kept
  last _ last := last_trimEnd last

theorem padded_trim (text : Text) : Padded text.trim text := by
  obtain ⟨before, blankBefore, start⟩ := exists_trimStart text
  obtain ⟨after, blankAfter, ending⟩ := exists_trimEnd (trimStart text)
  refine ⟨before, after, blankBefore, blankAfter, ?_⟩
  rw [Text.trim, List.append_assoc, ← ending, ← start]

theorem Padded.trim (padded : Padded inner outer) : outer.trim = inner.trim := by
  obtain ⟨before, after, blankBefore, blankAfter, rfl⟩ := padded
  have gone : trimStart after = [] := trimStart_eq_nil_iff.mpr blankAfter
  rw [Text.trim, Text.trim, List.append_assoc, trimStart_append blankBefore]
  by_cases empty : trimStart inner = []
  · have whole : trimStart (inner ++ after) = [] := by
      have blank := trimStart_eq_nil_iff.mp empty
      rw [trimStart_append blank, gone]
    rw [whole, empty]
  · have shown : trimStart (inner ++ after) = trimStart inner ++ after := by
      rw [trimStart, List.dropWhile_append, if_neg (by simpa [trimStart] using empty)]
      rfl
    rw [shown, trimEnd_append blankAfter]

theorem allBlank_of_padded (padded : Padded inner outer) : outer.allBlank = inner.allBlank := by
  obtain ⟨before, after, blankBefore, blankAfter, rfl⟩ := padded
  rw [allBlank_append, allBlank_append, blankBefore, blankAfter, Bool.true_and, Bool.and_true]

/-- Blanks around joined pieces are blanks around the pieces at both ends. -/
theorem exists_joinWith_padded (separator : Text) {pieces : List Text} (nonempty : pieces ≠ [])
    (padded : Padded (joinWith separator pieces) outer) :
    ∃ others, outer = joinWith separator others ∧ List.Forall₂ Padded pieces others := by
  obtain ⟨before, after, blankBefore, blankAfter, rfl⟩ := padded
  induction pieces generalizing before with
  | nil => exact absurd rfl nonempty
  | cons piece rest induction =>
      by_cases last : rest = []
      · subst last
        exact ⟨[before ++ piece ++ after], rfl, .cons ⟨before, after, blankBefore, blankAfter, rfl⟩ .nil⟩
      · obtain ⟨others, joined, each⟩ := induction last [] rfl
        have some : others ≠ [] := by
          rintro rfl
          cases each
          exact last rfl
        refine ⟨(before ++ piece) :: others, ?_, .cons ⟨before, [], blankBefore, rfl, ?_⟩ each⟩
        · rw [joinWith_cons some, joinWith_cons last, ← joined]
          simp only [List.append_assoc, List.nil_append]
        · rw [List.append_nil]

theorem notMem_of_padded {c : Char} (shown : isBlank c = false) (absent : c ∉ inner)
    (padded : Padded inner outer) : c ∉ outer := by
  obtain ⟨before, after, blankBefore, blankAfter, rfl⟩ := padded
  have outside {blanks : Text} (blank : blanks.allBlank = true) : c ∉ blanks := by
    intro member
    rw [List.all_eq_true.mp blank c member] at shown
    exact absurd shown (by simp)
  simp only [List.mem_append, not_or]
  exact ⟨⟨outside blankBefore, absent⟩, outside blankAfter⟩

/-- What blanks around a text do not change holds of pieces with blanks around them. -/
theorem forall_of_padded {good : Text → Prop} (kept : ∀ inner outer, Padded inner outer → good inner → good outer)
    {inners outers : List Text} (padded : List.Forall₂ Padded inners outers) (each : ∀ inner ∈ inners, good inner) :
    ∀ outer ∈ outers, good outer := by
  induction padded with
  | nil => exact fun _ member => absurd member List.not_mem_nil
  | cons first _ induction =>
      obtain ⟨here, others⟩ := List.forall_mem_cons.mp each
      exact List.forall_mem_cons.mpr ⟨kept _ _ first here, induction others⟩

theorem forall_notMem_of_padded {c : Char} (shown : isBlank c = false) {inners outers : List Text}
    (padded : List.Forall₂ Padded inners outers) (absent : ∀ inner ∈ inners, c ∉ inner) :
    ∀ outer ∈ outers, c ∉ outer :=
  forall_of_padded (fun _ _ around here => notMem_of_padded shown here around) padded absent

theorem forall_shown_of_padded {inners outers : List Text} (padded : List.Forall₂ Padded inners outers)
    (shown : ∀ inner ∈ inners, inner.allBlank = false) : ∀ outer ∈ outers, outer.allBlank = false :=
  forall_of_padded (fun _ _ around here => (allBlank_of_padded around).trans here) padded shown

theorem map_trim_of_padded {inners outers : List Text} (padded : List.Forall₂ Padded inners outers) :
    outers.map Text.trim = inners.map Text.trim := by
  induction padded with
  | nil => rfl
  | cons first _ induction => rw [List.map_cons, List.map_cons, first.trim, induction]

/-- The pieces of a text with blanks around it are those of the text, with blanks around them. -/
theorem splitAt_padded {separator : Char} (shown : isBlank separator = false)
    (padded : Padded inner outer) :
    List.Forall₂ Padded (splitAt separator inner) (splitAt separator outer) := by
  rw [← joinWith_splitAt separator inner] at padded
  obtain ⟨others, rfl, each⟩ := exists_joinWith_padded [separator] (splitAt_ne_nil separator inner) padded
  have nonempty : others ≠ [] := by
    rintro rfl
    exact splitAt_ne_nil separator inner (List.forall₂_nil_right_iff.mp each)
  have whole := forall_notMem_of_padded shown each fun piece => notMem_of_mem_splitAt
  rw [splitAt_joinWith nonempty whole]
  exact each

end UniversalModule.Text
