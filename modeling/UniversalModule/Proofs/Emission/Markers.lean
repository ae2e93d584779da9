import UniversalModule.Emission.Module

/-!
Rows taken apart at their markers. A scan gives the blocks, each with the rows between its two
markers; it refuses rows in which a block begins within another, ends without having begun, or is left
open. What the scan accepts is what is put together of blocks and of rows outside them.
-/

namespace UniversalModule.Emission

inductive Marker where
  | begins (label : Text)
  | ends (label : Text)

def marker? (row : Text) : Option Marker :=
  match Text.after? beginStart row with
  | some label => some (.begins label)
  | none => (Text.after? endStart row).map .ends

def isMarker (row : Text) : Bool := (marker? row).isSome

def Unmarked (rows : List Text) : Prop := ∀ row ∈ rows, isMarker row = false

instance (rows : List Text) : Decidable (Unmarked rows) :=
  inferInstanceAs (Decidable (∀ row ∈ rows, isMarker row = false))

structure Block where
  label : Text
  rows : List Text
deriving DecidableEq

namespace Block

def markers (block : Block) : List Text := [beginStart ++ block.label, endStart ++ block.label]

def allRows (block : Block) : List Text :=
  (beginStart ++ block.label) :: (block.rows ++ [endStart ++ block.label])

end Block

/-- The blocks of rows, behind the beginning of the block that is open. -/
def blocksFrom : Option Block → List Text → Option (List Block)
  | none, [] => some []
  | some _, [] => none
  | none, row :: rest =>
      match marker? row with
      | none => blocksFrom none rest
      | some (.begins label) => blocksFrom (some ⟨label, []⟩) rest
      | some (.ends _) => none
  | some block, row :: rest =>
      match marker? row with
      | none => blocksFrom (some { block with rows := block.rows ++ [row] }) rest
      | some (.begins _) => none
      | some (.ends label) => if label = block.label then (blocksFrom none rest).map (block :: ·) else none

def blocks? (rows : List Text) : Option (List Block) := blocksFrom none rows

/-- The rows are blocks, in this order, and rows outside them that are no markers. -/
inductive TakenApart : List Text → List Block → Prop where
  | nil : TakenApart [] []
  | outside {row : Text} {rows : List Text} {blocks : List Block} (unmarked : isMarker row = false)
      (rest : TakenApart rows blocks) : TakenApart (row :: rows) blocks
  | block {block : Block} {rows : List Text} {blocks : List Block} (unmarked : Unmarked block.rows)
      (rest : TakenApart rows blocks) : TakenApart (block.allRows ++ rows) (block :: blocks)

theorem marker?_begins_iff {row label : Text} :
    marker? row = some (.begins label) ↔ row = beginStart ++ label := by
  unfold marker?
  rw [← Text.after?_eq_some_iff]
  cases Text.after? beginStart row with
  | none => simp
  | some found => simp

theorem marker?_ends_iff {row label : Text} : marker? row = some (.ends label) ↔ row = endStart ++ label := by
  unfold marker?
  constructor
  · intro found
    split at found
    · exact absurd found (by simp)
    · obtain ⟨rest, after, same⟩ := Option.map_eq_some_iff.mp found
      cases same
      exact Text.after?_eq_some_iff.mp after
  · rintro rfl
    have other : Text.after? beginStart (endStart ++ label) = none := rfl
    rw [other, Text.after?_eq_some_iff.mpr rfl]
    rfl

theorem isMarker_iff {row : Text} : isMarker row = true ↔ beginStart <+: row ∨ endStart <+: row := by
  unfold isMarker
  rw [Option.isSome_iff_exists]
  constructor
  · rintro ⟨marker, found⟩
    cases marker with
    | begins label => exact .inl ⟨label, (marker?_begins_iff.mp found).symm⟩
    | ends label => exact .inr ⟨label, (marker?_ends_iff.mp found).symm⟩
  · rintro (⟨label, same⟩ | ⟨label, same⟩)
    · exact ⟨_, marker?_begins_iff.mpr same.symm⟩
    · exact ⟨_, marker?_ends_iff.mpr same.symm⟩

theorem marker?_begin (label : Text) : marker? (beginStart ++ label) = some (.begins label) :=
  marker?_begins_iff.mpr rfl

theorem marker?_end (label : Text) : marker? (endStart ++ label) = some (.ends label) :=
  marker?_ends_iff.mpr rfl

theorem isMarker_eq_false_iff {row : Text} : isMarker row = false ↔ marker? row = none :=
  Option.isSome_eq_false_iff.trans Option.isNone_iff_eq_none

theorem unmarked_of_head {row : Text} (head : row.head? ≠ some '/') : isMarker row = false := by
  apply Bool.eq_false_iff.mpr
  intro marked
  rcases isMarker_iff.mp marked with ⟨label, rfl⟩ | ⟨label, rfl⟩
  · exact head rfl
  · exact head rfl

theorem unmarked_append {first second : List Text} :
    Unmarked (first ++ second) ↔ Unmarked first ∧ Unmarked second := List.forall_mem_append

theorem unmarked_cons {row : Text} {rest : List Text} :
    Unmarked (row :: rest) ↔ isMarker row = false ∧ Unmarked rest := List.forall_mem_cons

theorem unmarked_nil : Unmarked [] := by
  intro row member
  exact absurd member List.not_mem_nil

theorem filter_unmarked {rows : List Text} (unmarked : Unmarked rows) : rows.filter isMarker = [] := by
  apply List.filter_eq_nil_iff.mpr
  intro row member
  simp [unmarked row member]

/-- A scan within a block takes up the rows as far as the block's end. -/
theorem blocksFrom_within {rows : List Text} (unmarked : Unmarked rows) (block : Block) (rest : List Text) :
    blocksFrom (some block) (rows ++ (endStart ++ block.label) :: rest) =
      (blocksFrom none rest).map ({ block with rows := block.rows ++ rows } :: ·) := by
  induction rows generalizing block with
  | nil => simp [blocksFrom, marker?_end]
  | cons row more induction =>
      obtain ⟨first, others⟩ := unmarked_cons.mp unmarked
      rw [List.cons_append, blocksFrom, isMarker_eq_false_iff.mp first]
      have found := induction others { block with rows := block.rows ++ [row] }
      simp only [List.append_assoc, List.singleton_append] at found
      exact found

namespace TakenApart

variable {rows others : List Text} {blocks more : List Block}

theorem scanned (apart : TakenApart rows blocks) : blocks? rows = some blocks := by
  unfold blocks?
  induction apart with
  | nil => rfl
  | outside unmarked _ induction => rw [blocksFrom, isMarker_eq_false_iff.mp unmarked, induction]
  | @block block rows blocks unmarked _ induction =>
      have opened : blocksFrom none (block.allRows ++ rows) =
          blocksFrom (some ⟨block.label, []⟩) (block.rows ++ (endStart ++ block.label) :: rows) := by
        rw [Block.allRows, List.cons_append, List.append_assoc, blocksFrom, marker?_begin]
        rfl
      have within := blocksFrom_within unmarked ⟨block.label, []⟩ rows
      rw [induction] at within
      rw [opened]
      exact within

/-- The markers among the rows are those of the blocks, a pair for each and no other. -/
theorem markers (apart : TakenApart rows blocks) : rows.filter isMarker = blocks.flatMap Block.markers := by
  induction apart with
  | nil => rfl
  | outside unmarked _ induction => rw [List.filter_cons, if_neg (by simp [unmarked]), induction]
  | @block block rows blocks unmarked _ induction =>
      have begins : isMarker (beginStart ++ block.label) = true := isMarker_iff.mpr (.inl ⟨_, rfl⟩)
      have ends : isMarker (endStart ++ block.label) = true := isMarker_iff.mpr (.inr ⟨_, rfl⟩)
      rw [List.filter_append, Block.allRows, List.filter_cons, if_pos begins, List.filter_append,
        filter_unmarked unmarked, List.filter_cons, if_pos ends, induction]
      rfl

theorem append (first : TakenApart rows blocks) (second : TakenApart others more) :
    TakenApart (rows ++ others) (blocks ++ more) := by
  induction first with
  | nil => exact second
  | outside unmarked _ induction => exact .outside unmarked induction
  | block unmarked _ induction =>
      rw [List.append_assoc]
      exact .block unmarked induction

theorem of_unmarked (unmarked : Unmarked rows) : TakenApart rows [] := by
  induction rows with
  | nil => exact .nil
  | cons row rest induction =>
      obtain ⟨first, others⟩ := unmarked_cons.mp unmarked
      exact .outside first (induction others)

theorem of_block {block : Block} (unmarked : Unmarked block.rows) : TakenApart block.allRows [block] := by
  have apart := TakenApart.block unmarked .nil
  rwa [List.append_nil] at apart

end TakenApart

/-- The rows behind the beginning of a block: the rest of the block, its end, and rows taken apart. -/
def Continues : Option Block → List Text → List Block → Prop
  | none, rows, blocks => TakenApart rows blocks
  | some block, rows, blocks =>
      ∃ inner rest more, rows = inner ++ (endStart ++ block.label) :: rest ∧ Unmarked inner ∧
        blocks = { block with rows := block.rows ++ inner } :: more ∧ TakenApart rest more

theorem continues_of_blocksFrom {current : Option Block} {rows : List Text} {blocks : List Block} :
    blocksFrom current rows = some blocks → Continues current rows blocks := by
  fun_induction blocksFrom current rows generalizing blocks with
  | case1 =>
      intro scanned
      cases scanned
      exact .nil
  | case2 =>
      intro scanned
      exact absurd scanned (by simp)
  | case3 row rest found induction =>
      intro scanned
      exact TakenApart.outside (isMarker_eq_false_iff.mpr found) (induction scanned)
  | case4 row rest label found induction =>
      intro scanned
      obtain ⟨inner, after, more, rfl, unmarked, rfl, apart⟩ := induction scanned
      have whole := @TakenApart.block ⟨label, inner⟩ after more unmarked apart
      rw [Block.allRows, List.cons_append, List.append_assoc] at whole
      rw [marker?_begins_iff.mp found]
      exact whole
  | case5 =>
      intro scanned
      exact absurd scanned (by simp)
  | case6 block row rest found induction =>
      intro scanned
      obtain ⟨inner, after, more, rfl, unmarked, rfl, apart⟩ := induction scanned
      have first : isMarker row = false := isMarker_eq_false_iff.mpr found
      refine ⟨row :: inner, after, more, rfl, unmarked_cons.mpr ⟨first, unmarked⟩, ?_, apart⟩
      rw [List.append_assoc, List.singleton_append]
  | case7 =>
      intro scanned
      exact absurd scanned (by simp)
  | case8 block row rest found induction =>
      intro scanned
      obtain ⟨more, apart, rfl⟩ := Option.map_eq_some_iff.mp scanned
      refine ⟨[], rest, more, ?_, unmarked_nil, ?_, induction apart⟩
      · rw [marker?_ends_iff.mp found]
        rfl
      · rw [List.append_nil]
  | case9 =>
      intro scanned
      exact absurd scanned (by simp)

/-- The scan gives the blocks of exactly those rows that consist of blocks and of rows that are no
markers. -/
theorem blocks?_eq_some_iff {rows : List Text} {blocks : List Block} :
    blocks? rows = some blocks ↔ TakenApart rows blocks :=
  ⟨fun scanned => continues_of_blocksFrom scanned, TakenApart.scanned⟩

end UniversalModule.Emission
