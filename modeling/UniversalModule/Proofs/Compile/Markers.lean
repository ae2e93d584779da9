import UniversalModule.Proofs.Compile.Exports
import UniversalModule.Proofs.Emission.Markers
import UniversalModule.Proofs.Emission.Scanning
import UniversalModule.Proofs.Json.Values

/-!
A module taken apart again. Texts without markers among their rows are put between markers, and nothing
else that the module writes looks like a marker; so the blocks of the module are its core and its
fragments, in their order and row by row.
-/

namespace UniversalModule

namespace Emission

structure Divides (steps : List Step) (blocks : List Block) : Prop where
  level : Level steps
  complete : ∀ step ∈ steps, step.Complete
  apart : TakenApart (render 0 steps).rows blocks

namespace Divides

variable {steps others : List Step} {blocks more : List Block}

theorem nil : Divides [] [] where
  level := level_nil
  complete := by simp
  apart := .nil

theorem append (first : Divides steps blocks) (second : Divides others more) :
    Divides (steps ++ others) (blocks ++ more) where
  level := level_append.mpr ⟨first.level, second.level⟩
  complete := List.forall_mem_append.mpr ⟨first.complete, second.complete⟩
  apart := by
    rw [render_level_append first.level, Text.rows_append (complete_render first.complete 0)]
    exact first.apart.append second.apart

theorem line {text : Text} (feedless : '\n' ∉ text) (unmarked : isMarker text = false) :
    Divides [.line text] [] where
  level := level_cons.mpr ⟨level_line text, level_nil⟩
  complete := by
    intro step member
    rw [List.mem_singleton.mp member]
    trivial
  apart := by
    rw [rows_line feedless]
    exact .outside unmarked .nil

theorem embed {source : Source} (unmarked : Unmarked source.content.rows) : Divides [.embed source] [] where
  level := level_cons.mpr ⟨level_embed source, level_nil⟩
  complete := by
    intro step member
    rw [List.mem_singleton.mp member]
    trivial
  apart := by
    have text : render 0 [.embed source] = source.content.terminated := List.append_nil _
    rw [text, Text.rows_terminated]
    exact .of_unmarked unmarked

theorem flatMap {α : Type} {items : List α} {made : α → List Step} {found : α → Block}
    (each : ∀ item ∈ items, Divides (made item) [found item]) :
    Divides (items.flatMap made) (items.map found) := by
  induction items with
  | nil => exact .nil
  | cons item rest induction =>
      rw [List.flatMap_cons, List.map_cons]
      exact (each item List.mem_cons_self).append
        (induction fun other member => each other (List.mem_cons_of_mem item member))

theorem marked (level : Level steps) (complete : ∀ step ∈ steps, step.Complete)
    (unmarked : Unmarked (render 0 steps).rows) (label : Text) :
    Divides (Emission.marked label steps) [⟨flatLabel label, (render 0 steps).rows⟩] where
  level := by
    simp only [Emission.marked, level_cons, level_append, level_line, level, level_nil, implies_true, and_self]
  complete := complete_marked complete label
  apart := by
    have feedless (start : Text) (single : '\n' ∉ start) : '\n' ∉ start ++ flatLabel label := by
      rw [List.mem_append, not_or]
      refine ⟨single, ?_⟩
      intro member
      exact absurd (isLineEnd_flatLabel member) (by decide)
    have rows : (render 0 (Emission.marked label steps)).rows =
        Block.allRows ⟨flatLabel label, (render 0 steps).rows⟩ := by
      rw [Emission.marked, rows_line (feedless _ (by decide)), render_level_append level,
        Text.rows_append (complete_render complete 0), rows_line (feedless _ (by decide))]
      rfl
    rw [rows]
    exact .of_block unmarked

end Divides

/-- The block of a source: its rows, within those of a function when it runs in one of its own. -/
def sourceBlock (isolated : Bool) (source : Source) : Block where
  label := flatLabel source.label
  rows :=
    if isolated then "(function () \x7b".toList :: (source.content.rows ++ ["\x7d)();".toList])
    else source.content.rows

theorem divides_coreBlock {core : Source} (unmarked : Unmarked core.content.rows) :
    Divides (coreBlock core) [sourceBlock false core] := by
  have embedded := Divides.embed unmarked
  have text : render 0 [.embed core] = core.content.terminated := List.append_nil _
  have rows : (render 0 [.embed core]).rows = core.content.rows := by rw [text, Text.rows_terminated]
  have divided := Divides.marked embedded.level embedded.complete (rows ▸ unmarked) core.label
  rw [rows] at divided
  exact divided

theorem divides_fragmentBlock (isolated : Bool) {fragment : Source}
    (unmarked : Unmarked fragment.content.rows) :
    Divides (fragmentBlock isolated fragment) [sourceBlock isolated fragment] := by
  cases isolated with
  | false => exact divides_coreBlock unmarked
  | true =>
      have opening : Divides [.line "(function () \x7b"] [] := .line (by decide) (by decide)
      have closing : Divides [.line "\x7d)();"] [] := .line (by decide) (by decide)
      have steps := opening.append ((Divides.embed unmarked).append closing)
      have rows : (render 0 ([.line "(function () \x7b"] ++ ([.embed fragment] ++ [.line "\x7d)();"]))).rows =
          "(function () \x7b".toList :: (fragment.content.rows ++ ["\x7d)();".toList]) := by
        have inner : render 0 ([.embed fragment] ++ [.line "\x7d)();"]) =
            fragment.content.terminated ++ "\x7d)();\n".toList := rfl
        rw [List.singleton_append, rows_line (by decide), inner,
          Text.rows_append (Text.complete_terminated _), Text.rows_terminated]
        rfl
      have quiet : Unmarked ("(function () \x7b".toList :: (fragment.content.rows ++ ["\x7d)();".toList])) := by
        rw [unmarked_cons, unmarked_append, unmarked_cons]
        exact ⟨by decide, unmarked, by decide, unmarked_nil⟩
      have divided := Divides.marked steps.level steps.complete (rows ▸ quiet) fragment.label
      rw [rows] at divided
      exact divided

theorem unmarked_wrapBundle {bundle : Text} (unmarked : Unmarked bundle.rows) :
    Unmarked (wrapBundle bundle).rows := by
  have opening : Text.Complete ("var " ++ requireName ++ " = (function () \x7b\n" ++ "var require;\n") :=
    .inr (by decide)
  have closed : Unmarked bundle.closed.rows := by
    rw [Text.rows_closed]
    by_cases empty : bundle = []
    · rw [if_pos empty]
      exact unmarked_cons.mpr ⟨by decide, unmarked_nil⟩
    · rw [if_neg empty]
      exact unmarked
  unfold wrapBundle
  rw [List.append_assoc, List.append_assoc, Text.rows_append opening, Text.rows_append (Text.complete_closed bundle),
    unmarked_append, unmarked_append]
  exact ⟨by decide, closed, by decide⟩

theorem divides_bundlePart {bundle : Option Text} (unmarked : ∀ text, bundle = some text → Unmarked text.rows) :
    Divides (bundlePart bundle) [] := by
  cases bundle with
  | none => exact .nil
  | some text =>
      refine ⟨level_bundlePart (some text), ?_, ?_⟩
      · intro step member
        rw [List.mem_singleton.mp member]
        exact complete_wrapBundle text
      · have shape : render 0 (bundlePart (some text)) = wrapBundle text := List.append_nil _
        rw [shape]
        exact .of_unmarked (unmarked_wrapBundle (unmarked text rfl))

section Names

variable {options : Options}

theorem divides_setup (faultless : options.Faultless) : Divides (setup options) [] := by
  have each {step : Step} (member : step ∈ setup options) : Divides [step] [] := by
    obtain ⟨text, rfl, feedless, -, head⟩ := line_of_mem_setup faultless member
    exact .line feedless (unmarked_of_head (head '/' rfl (by decide)))
  exact (each (.head _)).append ((each (.tail _ (.head _))).append (each (.tail _ (.tail _ (.head _)))))

/-- Up to the bundle a module has the block of its core and those of its fragments. -/
theorem divides_beforeBundle (faultless : options.Faultless) {core : Source} {fragments : List Source}
    (coreUnmarked : Unmarked core.content.rows)
    (fragmentsUnmarked : ∀ fragment ∈ fragments, Unmarked fragment.content.rows) :
    Divides (beforeBundle options core fragments)
      (sourceBlock false core :: fragments.map (sourceBlock options.scopeTemplates)) := by
  have own (text : Text) (feedless : '\n' ∉ text) (unmarked : isMarker text = false) :
      Divides [.line text] [] := .line feedless unmarked
  have blocks := Divides.flatMap fun fragment member =>
    divides_fragmentBlock options.scopeTemplates (fragmentsUnmarked fragment member)
  have routine := (own ("var " ++ initName ++ " = function () \x7b") (by decide) (by decide)).append
    (blocks.append (own ("\x7d;") (by decide) (by decide)))
  have start := (own ("(function (global) \x7b") (by decide) (by decide)).append
    (divides_coreBlock coreUnmarked)
  have flag := own ("var " ++ flagName ++ " = true;") (by decide) (by decide)
  have whole := ((start.append (divides_setup faultless)).append routine).append flag
  simp only [List.nil_append, List.append_nil, List.singleton_append] at whole
  exact whole

/-- The branches are rows of their own heads and of indented statements. -/
theorem unmarked_afterBundle (faultless : options.Faultless) :
    Unmarked (render 0 (afterBundle options)).rows := by
  obtain ⟨rows, indents, whole⟩ := rows_afterBundle (whole_of_isIdentifier faultless.runtimeVar)
  have head (branch : Branch) : isMarker (branchHead branch) = false := by cases branch <;> decide
  have statements (branch : Branch) : Unmarked (rows branch) := by
    intro row member
    have indented := isIndented_of_mem (indents branch) row member
    apply unmarked_of_head
    rw [eq_of_beq indented]
    decide
  rw [whole]
  simp only [unmarked_cons, unmarked_append]
  exact ⟨head _, statements _, head _, statements _, by decide, head _, statements _, by decide, by decide,
    unmarked_nil⟩

end Names

end Emission

open Emission

def Options.blocks (options : Options) (core : Text) (fragments : List Fragment) : List Block :=
  sourceBlock false (options.coreSource core) ::
    (fragments.map Fragment.source).map (sourceBlock options.scopeTemplates)

theorem unmarked_rows {text : Text} (unmarked : Unmarked (Text.splitAt '\n' text)) : Unmarked text.rows := by
  rw [Text.splitAt_eq_rows, unmarked_append] at unmarked
  exact unmarked.1

theorem takenApart_emit {options : Options} (faultless : options.Faultless) (outputFile : Path)
    {core bundle : Text} {fragments : List Fragment} (coreUnmarked : Unmarked core.rows)
    (bundleUnmarked : Unmarked bundle.rows)
    (fragmentsUnmarked : ∀ fragment ∈ fragments, Unmarked fragment.content.rows) :
    TakenApart (emit options outputFile (options.coreSource core) fragments
      (options.embeddedBundle bundle)).code.rows (options.blocks core fragments) := by
  have bundled : ∀ text, options.embeddedBundle bundle = some text → Unmarked text.rows := by
    intro text embedded
    unfold Options.embeddedBundle at embedded
    split at embedded
    · cases embedded
      exact bundleUnmarked
    · exact absurd embedded (by simp)
  have sources : ∀ source ∈ fragments.map Fragment.source, Unmarked source.content.rows := by
    intro source member
    obtain ⟨fragment, among, rfl⟩ := List.mem_map.mp member
    exact fragmentsUnmarked fragment among
  have coreSource : Unmarked (options.coreSource core).content.rows := coreUnmarked
  have before := (divides_beforeBundle faultless coreSource sources).append (divides_bundlePart bundled)
  obtain ⟨more, whole, comments⟩ := rows_emit options outputFile (options.coreSource core) fragments
    (options.embeddedBundle bundle)
  have behind : Unmarked ((render 0 (afterBundle options)).rows ++ more) := by
    refine unmarked_append.mpr ⟨unmarked_afterBundle faultless, ?_⟩
    intro row member
    obtain ⟨map, rfl⟩ := comments row member
    rfl
  have apart := before.apart.append (.of_unmarked behind)
  rw [List.append_nil, List.append_nil] at apart
  rw [whole]
  exact apart

/-- The marked blocks of a module can be taken apart again. Scanning its lines gives the block of the core
and then one for each fragment, in their order; the markers are the pairs of these blocks and no others. -/
theorem compile_blocks {options : Options} {outputFile : Path} (accepted : options.validate = .ok outputFile)
    {core bundle : Text} {fragments : List Fragment} (coreUnmarked : Unmarked (Text.splitAt '\n' core))
    (bundleUnmarked : Unmarked (Text.splitAt '\n' bundle))
    (fragmentsUnmarked : ∀ fragment ∈ fragments, Unmarked (Text.splitAt '\n' fragment.content))
    (schedule : Schedule) :
    ∃ output, compile (Supplies.ofTexts core bundle) schedule options fragments = .ok output ∧
      blocks? (Text.splitAt '\n' output.code) = some (options.blocks core fragments) ∧
      (Text.splitAt '\n' output.code).filter isMarker =
        (options.blocks core fragments).flatMap Block.markers := by
  have faultless := (Options.validate_eq_ok_iff.mp accepted).faultless
  have rows := takenApart_emit faultless outputFile (unmarked_rows coreUnmarked) (unmarked_rows bundleUnmarked)
    fun fragment member => unmarked_rows (fragmentsUnmarked fragment member)
  refine ⟨_, compile_ofTexts accepted core bundle schedule fragments, ?_⟩
  generalize (emit options outputFile (options.coreSource core) fragments
    (options.embeddedBundle bundle)).code = code at rows
  have last : Unmarked (if code.isEmpty || code.endsLine then [[]] else []) := by
    split
    · exact unmarked_cons.mpr ⟨rfl, unmarked_nil⟩
    · exact unmarked_nil
  have apart := rows.append (.of_unmarked last)
  rw [List.append_nil, ← Text.splitAt_eq_rows] at apart
  exact ⟨blocks?_eq_some_iff.mpr apart, apart.markers⟩

/-- Fragments with a label that looks like a marker and an empty one that two of them share; one text
lacks its last line feed, and one is empty. -/
def hostileFragments : List Fragment :=
  [⟨⟨"a.js"⟩, some "a\n// end: a", "f()\n\ng()"⟩, ⟨⟨[]⟩, none, []⟩, ⟨⟨[]⟩, none, " // begin: a\n"⟩]

theorem compile_blocks_hostile :
    Options.least.validate = .ok ⟨"module.js"⟩ ∧ Unmarked (Text.splitAt '\n' "core") ∧
    Unmarked (Text.splitAt '\n' []) ∧
    (∀ fragment ∈ hostileFragments, Unmarked (Text.splitAt '\n' fragment.content)) ∧
    Options.least.blocks "core" hostileFragments =
      [⟨"core.js", ["core"]⟩,
        ⟨"a // end: a", ["(function () \x7b", "f()", "", "g()", "\x7d)();"]⟩,
        ⟨"", ["(function () \x7b", "\x7d)();"]⟩,
        ⟨"", ["(function () \x7b", " // begin: a", "\x7d)();"]⟩] ∧
    ∃ output, compile (Supplies.ofTexts "core" []) .coreFirst Options.least hostileFragments = .ok output ∧
      blocks? (Text.splitAt '\n' output.code) = some (Options.least.blocks "core" hostileFragments) ∧
      (Text.splitAt '\n' output.code).filter isMarker =
        (Options.least.blocks "core" hostileFragments).flatMap Block.markers := by
  have unmarked : ∀ fragment ∈ hostileFragments, Unmarked (Text.splitAt '\n' fragment.content) := by decide
  exact ⟨Options.validate_least, by decide, by decide, unmarked, by decide +kernel,
    compile_blocks Options.validate_least (by decide) (by decide) unmarked .coreFirst⟩

end UniversalModule
