import UniversalModule.Proofs.Emission.Rows

/-!
What the rows of an emitted text show. Each row of each source is shown once, in order, by a row
with the same text; the other rows are those of the same steps around empty sources.
-/

namespace UniversalModule.Emission

open SourceMap (Mark)

/-- The places in sources that are shown, source by source and row by row. -/
def places (sources : List Source) (next : Nat) : List (Nat × Nat) :=
  (sources.zipIdx next).flatMap fun (source, index) =>
    (List.range source.content.rows.length).map fun line => (index, line)

theorem filterMap_shown_shownRows (source line : Nat) (texts : List Text) :
    (shownRows source line texts).filterMap Row.shown =
      (List.range' line texts.length).map fun line => (source, line) := by
  induction texts generalizing line with
  | nil => rfl
  | cons text rest induction =>
      have first : (⟨text, some (source, line)⟩ : Row).shown = some (source, line) := rfl
      rw [shownRows, List.filterMap_cons_some first, induction, List.length_cons, List.range'_succ,
        List.map_cons]

theorem filterMap_shown_own (texts : List Text) :
    (texts.map fun text => (⟨text, none⟩ : Row)).filterMap Row.shown = [] := by
  rw [List.filterMap_eq_nil_iff]
  intro row member
  obtain ⟨text, -, rfl⟩ := List.mem_map.mp member
  rfl

theorem filterMap_shown_step (step : Step) (next depth : Nat) :
    (step.rows next depth).filterMap Row.shown = places step.embedded next := by
  cases step with
  | embed source =>
      rw [Step.rows, filterMap_shown_shownRows, ← List.range_eq_range', places]
      simp [Step.embedded]
  | _ => exact filterMap_shown_own _

theorem filterMap_shown_rows (steps : List Step) (next depth : Nat) :
    (rows next depth steps).filterMap Row.shown = places (embedded steps) next := by
  induction steps generalizing next depth with
  | nil => rfl
  | cons step rest induction =>
      have all : embedded (step :: rest) = step.embedded ++ embedded rest := List.flatMap_cons
      rw [rows, List.filterMap_append, filterMap_shown_step, induction, all, places, places, places,
        List.zipIdx_append, List.flatMap_append]

theorem text_of_mem_shownRows {source start line index : Nat} {texts : List Text} {row : Row}
    (member : row ∈ shownRows source start texts) (shows : row.shown = some (index, line)) :
    index = source ∧ start ≤ line ∧ texts[line - start]? = some row.text := by
  induction texts generalizing start with
  | nil => exact absurd member (by simp [shownRows])
  | cons text rest induction =>
      rw [shownRows, List.mem_cons] at member
      rcases member with rfl | member
      · cases shows
        exact ⟨rfl, Nat.le_refl _, by simp⟩
      · obtain ⟨same, later, found⟩ := induction member
        have onward : line - start = line - (start + 1) + 1 := by omega
        exact ⟨same, by omega, by rw [onward, List.getElem?_cons_succ, found]⟩

theorem text_of_shown {steps : List Step} {next depth index line : Nat} {row : Row}
    (member : row ∈ rows next depth steps) (shows : row.shown = some (index, line)) :
    next ≤ index ∧ ∃ source, (embedded steps)[index - next]? = some source ∧
      source.content.rows[line]? = some row.text := by
  induction steps generalizing next depth with
  | nil => exact absurd member (by simp [rows])
  | cons step rest induction =>
      rw [rows, List.mem_append] at member
      rcases member with member | member
      · cases step with
        | embed source =>
            obtain ⟨rfl, -, found⟩ := text_of_mem_shownRows member shows
            exact ⟨Nat.le_refl _, source, by simp [embedded, Step.embedded], found⟩
        | _ =>
            obtain ⟨text, -, rfl⟩ := List.mem_map.mp member
            exact absurd shows (by simp)
      · obtain ⟨later, source, placed, found⟩ := induction member
        have onward : index - next - step.embedded.length = index - (next + step.embedded.length) := by
          omega
        refine ⟨by omega, source, ?_, found⟩
        rw [embedded, List.flatMap_cons, List.getElem?_append_right (by omega), onward]
        exact placed

def ownTexts (rows : List Row) : List Text :=
  (rows.filter fun row => row.shown.isNone).map Row.text

theorem ownTexts_shownRows (source line : Nat) (texts : List Text) :
    ownTexts (shownRows source line texts) = [] := by
  induction texts generalizing line with
  | nil => rfl
  | cons text rest induction => exact induction (line + 1)

theorem ownTexts_own (texts : List Text) :
    ownTexts (texts.map fun text => (⟨text, none⟩ : Row)) = texts := by
  rw [ownTexts, List.filter_eq_self.mpr (by simp), List.map_map]
  exact List.map_id texts

theorem ownTexts_step (step : Step) (next depth : Nat) :
    ownTexts (step.rows next depth) = (step.emptied.textAt depth).rows := by
  cases step with
  | embed source => exact ownTexts_shownRows next 0 source.content.rows
  | _ => exact ownTexts_own _

theorem complete_emptied {step : Step} (complete : step.Complete) : step.emptied.Complete := by
  cases step <;> exact complete

theorem depthAfter_emptied (depth : Nat) (step : Step) :
    step.emptied.depthAfter depth = step.depthAfter depth := by
  cases step <;> rfl

/-- The rows that show none of a source are those of the same steps around empty sources. -/
theorem ownTexts_rows {steps : List Step} (complete : ∀ step ∈ steps, step.Complete) (next depth : Nat) :
    ownTexts (rows next depth steps) = (render depth (steps.map Step.emptied)).rows := by
  induction steps generalizing next depth with
  | nil => rfl
  | cons step rest induction =>
      have first := complete_textAt (complete_emptied (complete step List.mem_cons_self)) depth
      have others := induction (fun other member => complete other (List.mem_cons_of_mem step member))
        (next + step.embedded.length) (step.depthAfter depth)
      have parts : ownTexts (rows next depth (step :: rest)) =
          ownTexts (step.rows next depth) ++
            ownTexts (rows (next + step.embedded.length) (step.depthAfter depth) rest) := by
        simp [ownTexts, rows]
      rw [parts, ownTexts_step, others, List.map_cons, render, Text.rows_append first,
        depthAfter_emptied]

theorem marksFrom_mem {line : Nat} {rows : List Row} {mark : Mark} (member : mark ∈ marksFrom line rows) :
    ∃ index row source shown, rows[index]? = some row ∧ row.shown = some (source, shown) ∧
      mark = ⟨⟨line + index, 0⟩, source, shown, 0⟩ := by
  induction rows generalizing line with
  | nil => exact absurd member (by simp [marksFrom])
  | cons row rest induction =>
      have later (found : mark ∈ marksFrom (line + 1) rest) : ∃ index row' source shown,
          (row :: rest)[index]? = some row' ∧ row'.shown = some (source, shown) ∧
            mark = ⟨⟨line + index, 0⟩, source, shown, 0⟩ := by
        obtain ⟨index, other, source, shown, placed, shows, same⟩ := induction found
        refine ⟨index + 1, other, source, shown, placed, shows, ?_⟩
        rw [same, Nat.add_assoc, Nat.add_comm 1]
      cases shows : row.shown with
      | none =>
          rw [marksFrom, shows] at member
          exact later member
      | some place =>
          rw [marksFrom, shows, List.mem_cons] at member
          rcases member with rfl | member
          · exact ⟨0, row, place.1, place.2, rfl, shows, rfl⟩
          · exact later member

theorem le_line_of_mem_marksFrom {line : Nat} {rows : List Row} {mark : Mark}
    (member : mark ∈ marksFrom line rows) : line ≤ mark.generated.line := by
  obtain ⟨index, -, -, -, -, -, rfl⟩ := marksFrom_mem member
  exact Nat.le_add_right line index

/-- No line has two marks, and marks stand in the order of their lines. -/
theorem pairwise_marksFrom (line : Nat) (rows : List Row) :
    (marksFrom line rows).Pairwise fun earlier later => earlier.generated.line < later.generated.line := by
  induction rows generalizing line with
  | nil => exact List.Pairwise.nil
  | cons row rest induction =>
      cases shows : row.shown with
      | none =>
          rw [marksFrom, shows]
          exact induction (line + 1)
      | some place =>
          rw [marksFrom, shows]
          refine List.Pairwise.cons ?_ (induction (line + 1))
          intro mark member
          exact le_line_of_mem_marksFrom member

def rowsOutside (lines : List Nat) (start : Nat) : List Text → List Text
  | [] => []
  | row :: rest =>
      if start ∈ lines then rowsOutside lines (start + 1) rest
      else row :: rowsOutside lines (start + 1) rest

theorem rowsOutside_cons_of_lt {line start : Nat} (before : line < start) (lines : List Nat)
    (texts : List Text) : rowsOutside (line :: lines) start texts = rowsOutside lines start texts := by
  induction texts generalizing start with
  | nil => rfl
  | cons row rest induction =>
      have other : start ∈ line :: lines ↔ start ∈ lines := by
        rw [List.mem_cons, or_iff_right (by omega)]
      simp only [rowsOutside, induction (Nat.lt_succ_of_lt before), other]

theorem rowsOutside_nil (start : Nat) (texts : List Text) : rowsOutside [] start texts = texts := by
  induction texts generalizing start with
  | nil => rfl
  | cons row rest induction =>
      rw [rowsOutside, induction]
      rfl

theorem rowsOutside_marksFrom (start : Nat) (rows : List Row) (more : List Text) :
    rowsOutside ((marksFrom start rows).map fun mark => mark.generated.line) start
        (rows.map Row.text ++ more) = ownTexts rows ++ more := by
  induction rows generalizing start with
  | nil => exact rowsOutside_nil start more
  | cons row rest induction =>
      -- Marks of later rows are in later lines, so only the row itself can mark its line.
      have unmarked : start ∉ (marksFrom (start + 1) rest).map fun mark => mark.generated.line := by
        intro member
        obtain ⟨mark, found, same⟩ := List.mem_map.mp member
        have later := le_line_of_mem_marksFrom found
        omega
      rw [List.map_cons, List.cons_append, rowsOutside, marksFrom]
      cases shows : row.shown with
      | none =>
          have own : ownTexts (row :: rest) = row.text :: ownTexts rest := by
            simp [ownTexts, shows]
          rw [if_neg unmarked, induction, own, List.cons_append]
      | some place =>
          have shown : ownTexts (row :: rest) = ownTexts rest := by simp [ownTexts, shows]
          rw [List.map_cons, if_pos List.mem_cons_self, rowsOutside_cons_of_lt (Nat.lt_succ_self start),
            induction, shown]

end UniversalModule.Emission
