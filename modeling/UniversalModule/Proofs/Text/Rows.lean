import UniversalModule.Proofs.Text.Split
import UniversalModule.Text.Lines

/-!
The rows of a text are its lines without their line feeds. A text is taken apart row by row, and
a complete text (one that is empty or ends in a line feed) leaves the place after it at the start
of a line, so that rows of complete texts are simply strung together.
-/

namespace UniversalModule

namespace Text

def rows : Text → List Text
  | [] => []
  | c :: rest =>
      if c = '\n' then [] :: rows rest
      else
        match rows rest with
        | [] => [[c]]
        | row :: more => (c :: row) :: more

def Complete (text : Text) : Prop := text = [] ∨ text.endsLine = true

/-- A text is empty, or it is a row without a line feed, or its first row comes before the rest. -/
@[elab_as_elim]
theorem byRows {motive : Text → Prop} (empty : motive [])
    (last : ∀ row, row ≠ [] → '\n' ∉ row → motive row)
    (first : ∀ row rest, '\n' ∉ row → motive rest → motive (row ++ '\n' :: rest)) (text : Text) :
    motive text := by
  have generalized : ∀ start : Text, '\n' ∉ start → motive (start ++ text) := by
    induction text with
    | nil =>
        intro start feedless
        rw [List.append_nil]
        by_cases bare : start = []
        · rw [bare]
          exact empty
        · exact last start bare feedless
    | cons c rest induction =>
        intro start feedless
        by_cases feed : c = '\n'
        · rw [feed]
          exact first start rest feedless (by simpa using induction [] (by simp))
        · have longer := induction (start ++ [c]) (by simp [feedless, Ne.symm feed])
          rwa [List.append_assoc] at longer
  exact generalized [] (by simp)

theorem rows_row {row : Text} (nonempty : row ≠ []) (feedless : '\n' ∉ row) : rows row = [row] := by
  induction row with
  | nil => exact absurd rfl nonempty
  | cons c rest induction =>
      have feed : ¬c = '\n' := fun same => feedless (by simp [same])
      rw [rows, if_neg feed]
      cases rest with
      | nil => rfl
      | cons d more =>
          rw [induction (by simp) (fun member => feedless (List.mem_cons_of_mem c member))]

theorem rows_append_feed {row : Text} (feedless : '\n' ∉ row) (rest : Text) :
    rows (row ++ '\n' :: rest) = row :: rows rest := by
  induction row with
  | nil => simp [rows]
  | cons c more induction =>
      have feed : ¬c = '\n' := fun same => feedless (by simp [same])
      rw [List.cons_append, rows, if_neg feed,
        induction (fun member => feedless (List.mem_cons_of_mem c member))]

theorem lines_row {row : Text} (nonempty : row ≠ []) (feedless : '\n' ∉ row) : lines row = [row] := by
  induction row with
  | nil => exact absurd rfl nonempty
  | cons c rest induction =>
      have feed : ¬c = '\n' := fun same => feedless (by simp [same])
      rw [lines, if_neg feed]
      cases rest with
      | nil => rfl
      | cons d more =>
          rw [induction (by simp) (fun member => feedless (List.mem_cons_of_mem c member))]

theorem lines_append_feed {row : Text} (feedless : '\n' ∉ row) (rest : Text) :
    lines (row ++ '\n' :: rest) = (row ++ ['\n']) :: lines rest := by
  induction row with
  | nil => simp [lines]
  | cons c more induction =>
      have feed : ¬c = '\n' := fun same => feedless (by simp [same])
      rw [List.cons_append, lines, if_neg feed,
        induction (fun member => feedless (List.mem_cons_of_mem c member)), List.cons_append]

theorem endsLine_row {row : Text} (feedless : '\n' ∉ row) : endsLine row = false := by
  rw [endsLine, beq_eq_false_iff_ne]
  intro last
  exact feedless (List.mem_of_getLast? last)

theorem endsLine_append_feed (row rest : Text) :
    endsLine (row ++ '\n' :: rest) = (rest.isEmpty || endsLine rest) := by
  cases rest with
  | nil => simp [endsLine]
  | cons c more =>
      have last := List.getLast?_eq_some_getLast (List.cons_ne_nil c more)
      rw [endsLine, endsLine, List.getLast?_append, List.getLast?_cons_cons, last]
      rfl

/-- The rows are the pieces between line feeds, without the empty piece after a last one. -/
theorem splitAt_eq_rows (text : Text) :
    splitAt '\n' text = rows text ++ if text.isEmpty || endsLine text then [[]] else [] := by
  induction text using byRows with
  | empty => rfl
  | last row nonempty feedless =>
      have unended : (row.isEmpty || endsLine row) = false := by
        rw [endsLine_row feedless]
        simpa using nonempty
      rw [splitAt_of_notMem feedless, rows_row nonempty feedless, unended]
      rfl
  | first row rest feedless induction =>
      have nonempty : (row ++ '\n' :: rest).isEmpty = false := by simp
      rw [splitAt_append_separator feedless, rows_append_feed feedless, induction, nonempty,
        endsLine_append_feed, Bool.false_or, List.cons_append]

theorem getElem?_splitAt_of_getElem?_rows {text row : Text} {index : Nat}
    (found : (rows text)[index]? = some row) : (splitAt '\n' text)[index]? = some row := by
  have early := (List.getElem?_eq_some_iff.mp found).1
  rw [splitAt_eq_rows, List.getElem?_append_left early, found]

theorem complete_append {first second : Text} (left : Complete first) (right : Complete second) :
    Complete (first ++ second) := by
  rcases right with rfl | ended
  · rw [List.append_nil]
    exact left
  · right
    cases second with
    | nil => simp [endsLine] at ended
    | cons c rest => simpa [endsLine, List.getLast?_append] using ended

theorem complete_append_feed (text : Text) : Complete (text ++ ['\n']) := by
  right
  simp [endsLine]

theorem complete_terminated (text : Text) : Complete text.terminated := by
  unfold terminated
  split
  · next same =>
      rcases Bool.or_eq_true_iff.mp same with empty | ended
      · exact .inl (by simpa using empty)
      · exact .inr ended
  · exact complete_append_feed text

theorem not_complete_row {row : Text} (nonempty : row ≠ []) (feedless : '\n' ∉ row) : ¬Complete row := by
  rintro (empty | ended)
  · exact nonempty empty
  · rw [endsLine_row feedless] at ended
    exact absurd ended (by decide)

theorem complete_rest {row rest : Text} (whole : Complete (row ++ '\n' :: rest)) : Complete rest := by
  rcases whole with empty | ended
  · exact absurd empty (by simp)
  · rw [endsLine_append_feed, Bool.or_eq_true_iff] at ended
    exact ended.imp List.isEmpty_iff.mp id

theorem rows_append {first : Text} (complete : Complete first) (second : Text) :
    rows (first ++ second) = rows first ++ rows second := by
  induction first using byRows with
  | empty => rfl
  | last row nonempty feedless => exact absurd complete (not_complete_row nonempty feedless)
  | first row rest feedless induction =>
      rw [List.append_assoc, List.cons_append, rows_append_feed feedless,
        induction (complete_rest complete), rows_append_feed feedless, List.cons_append]

theorem rows_terminated (text : Text) : rows text.terminated = rows text := by
  unfold terminated
  split
  · rfl
  · next unended =>
      induction text using byRows with
      | empty => exact absurd rfl unended
      | last row nonempty feedless =>
          rw [rows_append_feed feedless, rows_row nonempty feedless]
          rfl
      | first row rest feedless induction =>
          rw [List.append_assoc, List.cons_append, rows_append_feed feedless,
            rows_append_feed feedless]
          rw [endsLine_append_feed, Bool.or_eq_true_iff, not_or] at unended
          rw [induction (by simpa using unended.2)]

theorem complete_closed (text : Text) : Complete text.closed := by
  by_cases empty : text = []
  · rw [empty]
    exact .inr rfl
  · rw [← terminated_eq_closed empty]
    exact complete_terminated text

theorem rows_closed (text : Text) : rows text.closed = if text = [] then [[]] else rows text := by
  by_cases empty : text = []
  · rw [if_pos empty, empty]
    rfl
  · rw [if_neg empty, ← terminated_eq_closed empty, rows_terminated]

end Text

namespace Position

theorem after_feedless {row : Text} (feedless : '\n' ∉ row) (place : Position) :
    (place.after row).line = place.line := by
  rw [line_after, List.count_eq_zero_of_not_mem feedless]
  rfl

theorem after_append_feed {row : Text} (feedless : '\n' ∉ row) (place : Position) (rest : Text) :
    place.after (row ++ '\n' :: rest) = (Position.mk (place.line + 1) 0).after rest := by
  have ended : (place.after row).step '\n' = ⟨place.line + 1, 0⟩ := by
    rw [step, if_pos rfl, after_feedless feedless]
  rw [after_append, ← ended]
  rfl

/-- A complete text that begins at the start of a line ends there, as many lines on as it has rows. -/
theorem after_complete {text : Text} (complete : text.Complete) {place : Position}
    (atStart : place.column = 0) : place.after text = ⟨place.line + text.rows.length, 0⟩ := by
  induction text using Text.byRows generalizing place with
  | empty =>
      rw [after_nil]
      cases place
      simp_all [Text.rows]
  | last row nonempty feedless => exact absurd complete (Text.not_complete_row nonempty feedless)
  | first row rest feedless induction =>
      rw [after_append_feed feedless, induction (Text.complete_rest complete) rfl,
        Text.rows_append_feed feedless, List.length_cons]
      rw [Nat.add_assoc, Nat.add_comm 1]

end Position

end UniversalModule
