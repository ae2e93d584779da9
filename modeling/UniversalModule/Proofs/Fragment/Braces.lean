import UniversalModule.Proofs.Fragment.Wrapping

/-!
What unwrapping does to the braces of a template. The brace that it takes away at the end is the last
one of the text. The body keeps its balance exactly when that brace closes the function; when more
braces come after the function, the body is left with one that closes nothing.
-/

namespace UniversalModule.Wrapper

/-- Read from the left, as many braces are closed as are open already and as the text opens. -/
structure Closes (depth : Nat) (text : Text) : Prop where
  starts : ∀ start, start <+: text → start.count '\x7d' ≤ depth + start.count '\x7b'
  total : text.count '\x7d' = depth + text.count '\x7b'

/-- No beginning of the text closes more braces than it opens, and all are closed. -/
def Balanced (text : Text) : Prop :=
  (∀ start, start <+: text → start.count '\x7d' ≤ start.count '\x7b') ∧ text.count '\x7d' = text.count '\x7b'

def untilClosed? : Nat → Text → Option Text
  | _, [] => none
  | depth, c :: rest =>
      if c = '\x7d' then
        match depth with
        | 0 => some []
        | depth + 1 => (untilClosed? depth rest).map (c :: ·)
      else (untilClosed? (if c = '\x7b' then depth + 1 else depth) rest).map (c :: ·)

theorem closes_zero_iff {text : Text} : Closes 0 text ↔ Balanced text := by
  constructor
  · intro closes
    exact ⟨by simpa using closes.starts, by simpa using closes.total⟩
  · rintro ⟨starts, total⟩
    exact ⟨by simpa using starts, by simpa using total⟩

theorem closes_nil_iff {depth : Nat} : Closes depth [] ↔ depth = 0 := by
  constructor
  · intro closes
    have total := closes.total
    simp at total
    omega
  · rintro rfl
    exact ⟨by simp, rfl⟩

theorem forall_prefix_cons {c : Char} {text : Text} {holds : Text → Prop} :
    (∀ start, start <+: c :: text → holds start) ↔ holds [] ∧ ∀ start, start <+: text → holds (c :: start) := by
  constructor
  · intro all
    refine ⟨all [] List.nil_prefix, ?_⟩
    intro start begins
    exact all (c :: start) (List.cons_prefix_cons.mpr ⟨rfl, begins⟩)
  · rintro ⟨empty, others⟩ start begins
    cases start with
    | nil => exact empty
    | cons d start =>
        obtain ⟨rfl, later⟩ := List.cons_prefix_cons.mp begins
        exact others start later

theorem closes_cons_iff {depth inner : Nat} {c : Char} {text : Text}
    (shift : inner + [c].count '\x7d' = depth + [c].count '\x7b') :
    Closes depth (c :: text) ↔ Closes inner text := by
  have counts (brace : Char) (start : Text) : (c :: start).count brace = [c].count brace + start.count brace := by
    rw [← List.singleton_append, List.count_append]
  constructor
  · rintro ⟨starts, total⟩
    rw [forall_prefix_cons] at starts
    rw [counts '\x7d' text, counts '\x7b' text] at total
    refine ⟨?_, by omega⟩
    intro start begins
    have bound := starts.2 start begins
    rw [counts '\x7d' start, counts '\x7b' start] at bound
    omega
  · rintro ⟨starts, total⟩
    refine ⟨?_, ?_⟩
    · rw [forall_prefix_cons]
      refine ⟨by simp, ?_⟩
      intro start begins
      have bound := starts start begins
      rw [counts '\x7d' start, counts '\x7b' start]
      omega
    · rw [counts '\x7d' text, counts '\x7b' text]
      omega

theorem not_closes_stray {text : Text} : ¬Closes 0 ('\x7d' :: text) := by
  intro closes
  have bound := closes.starts ['\x7d'] (List.cons_prefix_cons.mpr ⟨rfl, List.nil_prefix⟩)
  exact absurd bound (by decide)

theorem untilClosed?_eq_some_iff {depth : Nat} {text own : Text} :
    untilClosed? depth text = some own ↔ Closes depth own ∧ ∃ rest, text = own ++ '\x7d' :: rest := by
  induction text generalizing depth own with
  | nil => simp [untilClosed?]
  | cons c text induction =>
      by_cases close : c = '\x7d'
      · subst close
        cases depth with
        | zero =>
            cases own with
            | nil => simp [untilClosed?, closes_nil_iff]
            | cons d own =>
                constructor
                · simp [untilClosed?]
                · rintro ⟨closes, rest, same⟩
                  obtain ⟨rfl, -⟩ := List.cons.inj same
                  exact absurd closes not_closes_stray
        | succ depth =>
            have inner (own : Text) : Closes (depth + 1) ('\x7d' :: own) ↔ Closes depth own :=
              closes_cons_iff (by simp)
            cases own with
            | nil => simp [untilClosed?, closes_nil_iff]
            | cons d own =>
                simp only [untilClosed?, if_true, Option.map_eq_some_iff, induction]
                constructor
                · rintro ⟨own, ⟨closes, rest, rfl⟩, same⟩
                  obtain ⟨rfl, rfl⟩ := List.cons.inj same
                  exact ⟨(inner _).mpr closes, rest, rfl⟩
                · rintro ⟨closes, rest, same⟩
                  obtain ⟨rfl, rfl⟩ := List.cons.inj same
                  exact ⟨own, ⟨(inner _).mp closes, rest, rfl⟩, rfl⟩
      · have inner (own : Text) : Closes depth (c :: own) ↔ Closes (if c = '\x7b' then depth + 1 else depth) own := by
          apply closes_cons_iff
          by_cases opening : c = '\x7b'
          · simp [opening]
          · simp [opening, close]
        simp only [untilClosed?, if_neg close, Option.map_eq_some_iff, induction]
        constructor
        · rintro ⟨own, ⟨closes, rest, rfl⟩, rfl⟩
          exact ⟨(inner own).mpr closes, rest, rfl⟩
        · rintro ⟨closes, rest, same⟩
          cases own with
          | nil => exact absurd (List.cons.inj same).1 close
          | cons d own =>
              obtain ⟨rfl, rfl⟩ := List.cons.inj same
              exact ⟨own, ⟨(inner own).mp closes, rest, rfl⟩, rfl⟩

/-- A text is balanced when a brace behind it closes what is open before it. -/
theorem untilClosed?_append_iff {text rest : Text} :
    untilClosed? 0 (text ++ '\x7d' :: rest) = some text ↔ Balanced text := by
  rw [untilClosed?_eq_some_iff, closes_zero_iff]
  constructor
  · exact And.left
  · intro balanced
    exact ⟨balanced, rest, rfl⟩

instance (text : Text) : Decidable (Balanced text) := decidable_of_iff _ (@untilClosed?_append_iff text [])

/-- The brace that opens the body is closed by the one that stands behind it. -/
def Wrapped.Matches (wrapped : Wrapped) : Prop :=
  untilClosed? 0 (wrapped.body ++ wrapped.ending.text) = some wrapped.body

theorem Wrapped.matches_iff {wrapped : Wrapped} : wrapped.Matches ↔ Balanced wrapped.body :=
  untilClosed?_append_iff

/-- Two balanced texts before a brace that closes nothing of them are the same. -/
theorem Balanced.eq_of_append {first second rest other : Text} (balanced : Balanced first)
    (same : first ++ '\x7d' :: rest = second ++ '\x7d' :: other) (also : Balanced second) : first = second := by
  have left := (@untilClosed?_append_iff first rest).mpr balanced
  have right := (@untilClosed?_append_iff second other).mpr also
  rw [same, right] at left
  exact (Option.some.inj left).symm

/-- What unwrapping leaves of a balanced text is balanced exactly when the braces that it takes away
belong together. That is so when only the end of the wrapper follows the function; with more braces
behind it, unwrapping a text never leaves a balanced one. -/
theorem balanced_unwrapTemplate_iff {source : Text} (balanced : Balanced source) :
    (Balanced (unwrapTemplate source) ↔ ∀ wrapped : Wrapped, wrapped.text = source → wrapped.Matches) ∧
    ∀ (header : Header) (own more : Text), source = header.text ++ own ++ '\x7d' :: more → Balanced own →
      ((∃ ending : Ending, '\x7d' :: more = ending.text) → unwrapTemplate source = own) ∧
      ('\x7d' ∈ more → (∃ wrapped : Wrapped, wrapped.text = source) → ¬Balanced (unwrapTemplate source)) := by
  refine ⟨⟨?_, ?_⟩, ?_⟩
  · rintro kept wrapped rfl
    rw [unwrapTemplate_text] at kept
    exact Wrapped.matches_iff.mpr kept
  · intro matching
    cases found : body? source with
    | none => rwa [unwrapTemplate_of_body?_eq_none found]
    | some body =>
        obtain ⟨wrapped, rfl, rfl⟩ := body?_eq_some_iff.mp found
        rw [unwrapTemplate_text]
        exact Wrapped.matches_iff.mp (matching wrapped rfl)
  · rintro header own more whole closed
    constructor
    · rintro ⟨ending, same⟩
      rw [whole, same]
      exact unwrapTemplate_text ⟨header, own, ending⟩
    · rintro later ⟨wrapped, rfl⟩ kept
      rw [unwrapTemplate_text] at kept
      -- Both headers end at the same brace, so both bodies begin there.
      have heads : afterHead? wrapped.text = some (own ++ '\x7d' :: more) := by
        apply afterHead?_eq_some_iff.mpr
        exact ⟨header, by rw [whole, List.append_assoc]⟩
      have tails : afterHead? wrapped.text = some (wrapped.body ++ '\x7d' :: wrapped.ending.rest) := by
        apply afterHead?_eq_some_iff.mpr
        refine ⟨wrapped.header, ?_⟩
        rw [Wrapped.text, List.append_assoc]
        rfl
      have both := Option.some.inj (heads.symm.trans tails)
      have same := closed.eq_of_append both kept
      rw [same] at both
      have rest := (List.cons.inj (List.append_cancel_left both)).2
      rw [rest] at later
      exact wrapped.ending.brace_notMem_rest later

def namedHeader : Header where
  start := noGap
  beforeSign := space
  beforeFunction := space
  beforeName := space
  name := "view"
  named := List.all_eq_true.mp (by decide)
  afterName := noGap
  parameters := "bt"
  unclosed := by decide
  beforeBrace := space

def followed : Text := "module.exports = function view(bt) \x7b a(); \x7d;\nif (b) \x7b c(); \x7d\n"

theorem balanced_unwrapTemplate_iff_followed :
    Balanced followed ∧ followed = namedHeader.text ++ " a(); " ++ '\x7d' :: ";\nif (b) \x7b c(); \x7d\n" ∧
    unwrapTemplate followed = " a(); \x7d;\nif (b) \x7b c(); " ∧ ¬Balanced (unwrapTemplate followed) := by
  have balanced : Balanced followed := by decide
  have whole : followed = namedHeader.text ++ " a(); " ++ '\x7d' :: ";\nif (b) \x7b c(); \x7d\n" := by decide
  have found : body? followed = some (" a(); \x7d;\nif (b) \x7b c(); " : Text) := by decide
  obtain ⟨wrapped, taken, -⟩ := body?_eq_some_iff.mp found
  have stray := ((balanced_unwrapTemplate_iff balanced).2 namedHeader _ _ whole (by decide)).2
  exact ⟨balanced, whole, by decide, stray (by decide) ⟨wrapped, taken⟩⟩

end UniversalModule.Wrapper
