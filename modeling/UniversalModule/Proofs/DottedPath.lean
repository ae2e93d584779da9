import UniversalModule.DottedPath
import UniversalModule.Proofs.Text.Trim

/-!
The grammar of dotted paths. Reading a path is splitting it at every dot and trimming the pieces, whatever
blanks stand around the whole path; it fails when a piece is blank, and gives segments back however they
are spaced when they are joined.
-/

namespace UniversalModule.DottedPath

open Text (Padded Trimmed splitAt joinWith)

structure IsSegment (segment : Text) : Prop extends Trimmed segment where
  nonempty : segment ≠ []
  dotless : '.' ∉ segment

theorem isBlank_dot : isBlank '.' = false := by decide

variable {text segment piece : Text} {segments pieces : List Text}

theorem allBlank_of_isSegment (isSegment : IsSegment segment) : segment.allBlank = false := by
  cases segment with
  | nil => exact absurd rfl isSegment.nonempty
  | cons c rest => simp [Text.allBlank, isSegment.first c rfl]

theorem isSegment_trim (shown : Text.allBlank piece = false) (dotless : '.' ∉ piece) : IsSegment piece.trim where
  toTrimmed := Text.trimmed_trim piece
  nonempty := by
    rw [Ne, Text.trim_eq_nil_iff, shown]
    decide
  dotless member := by
    obtain ⟨before, after, -, -, whole⟩ := Text.padded_trim piece
    apply dotless
    rw [whole]
    exact List.mem_append_left after (List.mem_append_right before member)

theorem map_trim_splitAt_trim (text : Text) :
    (splitAt '.' text.trim).map Text.trim = (splitAt '.' text).map Text.trim :=
  (Text.map_trim_of_padded (Text.splitAt_padded isBlank_dot (Text.padded_trim text))).symm

theorem any_isEmpty_iff :
    ((pieces.map Text.trim).any fun segment => segment.isEmpty) = true ↔ ∃ piece ∈ pieces, Text.allBlank piece = true := by
  simp [List.any_map, Text.trim_eq_nil_iff]

theorem segments?_eq (text : Text) : segments? text =
    if ∃ piece ∈ splitAt '.' text, Text.allBlank piece = true then none
    else some ((splitAt '.' text).map Text.trim) := by
  unfold segments?
  simp only [map_trim_splitAt_trim, any_isEmpty_iff, List.isEmpty_iff, Text.trim_eq_nil_iff]
  split
  · next blank =>
      -- A blank path has no dot, so that it is its own only piece.
      have dotless : '.' ∉ text := by
        intro member
        have dot := List.all_eq_true.mp blank '.' member
        rw [isBlank_dot] at dot
        exact absurd dot (by simp)
      rw [if_pos ⟨text, by simp [Text.splitAt_of_notMem dotless], blank⟩]
  · rfl

theorem segments?_eq_some_iff :
    segments? text = some segments ↔
      (∀ piece ∈ splitAt '.' text, Text.allBlank piece = false) ∧ segments = (splitAt '.' text).map Text.trim := by
  rw [segments?_eq]
  split
  · next blank =>
      obtain ⟨piece, member, isBlank⟩ := blank
      simp only [reduceCtorEq, false_iff, not_and]
      intro shown
      rw [shown piece member] at isBlank
      exact absurd isBlank (by simp)
  · next shown =>
      have each : ∀ piece ∈ splitAt '.' text, Text.allBlank piece = false := by
        intro piece member
        exact Bool.eq_false_iff.mpr fun isBlank => shown ⟨piece, member, isBlank⟩
      rw [Option.some.injEq, eq_comm]
      exact ⟨fun same => ⟨each, same⟩, And.right⟩

theorem segments?_iff_padded :
    segments? text = some segments ↔
      (∀ segment ∈ segments, IsSegment segment) ∧ List.Forall₂ Padded segments (splitAt '.' text) := by
  rw [segments?_eq_some_iff]
  constructor
  · rintro ⟨shown, rfl⟩
    constructor
    · intro segment member
      obtain ⟨piece, among, rfl⟩ := List.mem_map.mp member
      exact isSegment_trim (shown piece among) (Text.notMem_of_mem_splitAt among)
    · rw [List.forall₂_map_left_iff, List.forall₂_same]
      intro piece _
      exact Text.padded_trim piece
  · rintro ⟨isSegment, padded⟩
    constructor
    · exact Text.forall_shown_of_padded padded fun segment member => allBlank_of_isSegment (isSegment segment member)
    · have trimmed : ∀ segment ∈ segments, segment.trim = segment :=
        fun segment member => (isSegment segment member).trim
      rw [Text.map_trim_of_padded padded, List.map_congr_left trimmed, List.map_id']

/-- Segments are read back from a joined path, whatever blanks stand around them. -/
theorem segments?_joinWith (nonempty : segments ≠ []) (isSegment : ∀ segment ∈ segments, IsSegment segment)
    (padded : List.Forall₂ Padded segments pieces) :
    segments? (joinWith ['.'] pieces) = some segments := by
  have dotless := Text.forall_notMem_of_padded isBlank_dot padded fun segment member => (isSegment segment member).dotless
  have present : pieces ≠ [] := by
    rintro rfl
    exact nonempty (List.forall₂_nil_right_iff.mp padded)
  rw [segments?_iff_padded, Text.splitAt_joinWith present dotless]
  exact ⟨isSegment, padded⟩

theorem segments_ne_nil (found : segments? text = some segments) : segments ≠ [] := by
  rintro rfl
  obtain ⟨-, padded⟩ := segments?_iff_padded.mp found
  exact Text.splitAt_ne_nil '.' text (List.forall₂_nil_left_iff.mp padded)

/-- Reading a dotted path takes exactly the texts whose pieces between the dots all show something. It gives
these pieces without the blanks around them, and gives segments back from any way to join them. -/
theorem segments_exact :
    (∀ text pieces, splitAt '.' text = pieces ↔
      pieces ≠ [] ∧ (∀ piece ∈ pieces, '.' ∉ piece) ∧ joinWith ['.'] pieces = text) ∧
    (∀ text, (∃ segments, segments? text = some segments) ↔ ∀ piece ∈ splitAt '.' text, Text.allBlank piece = false) ∧
    (∀ text segments, segments? text = some segments →
      segments = (splitAt '.' text).map Text.trim ∧ (∀ segment ∈ segments, IsSegment segment) ∧
        List.Forall₂ Padded segments (splitAt '.' text)) ∧
    (∀ segments pieces, segments ≠ [] → (∀ segment ∈ segments, IsSegment segment) →
      List.Forall₂ Padded segments pieces → segments? (joinWith ['.'] pieces) = some segments) ∧
    ∀ text segments, segments? text = some segments → segments? (joinWith ['.'] segments) = some segments := by
  refine ⟨fun text pieces => Text.splitAt_eq_iff, ?_, ?_, ?_, ?_⟩
  · intro text
    constructor
    · rintro ⟨segments, found⟩
      exact (segments?_eq_some_iff.mp found).1
    · intro shown
      exact ⟨_, segments?_eq_some_iff.mpr ⟨shown, rfl⟩⟩
  · intro text segments found
    exact ⟨(segments?_eq_some_iff.mp found).2, segments?_iff_padded.mp found⟩
  · intro segments pieces nonempty isSegment padded
    exact segments?_joinWith nonempty isSegment padded
  · intro text segments found
    have same : List.Forall₂ Padded segments segments := List.forall₂_same.mpr fun segment _ => .refl segment
    exact segments?_joinWith (segments_ne_nil found) (segments?_iff_padded.mp found).1 same

/-- A path with blanks of several kinds, one of them inside a segment. -/
theorem segments_exact_spaced : ∃ segments : List Text, segments = ["ya maps", "v2"] ∧
    (∀ segment ∈ segments, IsSegment segment) ∧
    segments? "\u00a0 ya maps\u2028. v2\n" = some segments ∧ segments? "ya maps.v2" = some segments := by
  have first : IsSegment "ya maps" := ⟨Text.trimmed_trim "ya maps", by decide, by decide⟩
  have second : IsSegment "v2" := ⟨Text.trimmed_trim "v2", by decide, by decide⟩
  have each : ∀ segment ∈ (["ya maps", "v2"] : List Text), IsSegment segment := by
    intro segment member
    rcases List.mem_cons.mp member with rfl | member
    · exact first
    · rw [List.mem_singleton.mp member]
      exact second
  have padded : List.Forall₂ Padded ["ya maps", "v2"] ["\u00a0 ya maps\u2028", " v2\n"] :=
    .cons ⟨"\u00a0 ", "\u2028", by decide, by decide, rfl⟩
      (.cons ⟨" ", "\n", by decide, by decide, rfl⟩ .nil)
  obtain ⟨-, -, -, joined, again⟩ := segments_exact
  have found := joined _ _ (by simp) each padded
  exact ⟨_, rfl, each, found, again _ _ found⟩

end UniversalModule.DottedPath
