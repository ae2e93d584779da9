import UniversalModule.Proofs.Compile.Texts
import UniversalModule.Proofs.Emission.Parts
import UniversalModule.Proofs.Resolution.Providers

/-!
A module without a map is put together of the texts that it embeds and of others that the options
fix. Embedded texts stand side by side: each is unchanged, and none has an effect on what is
written for another or around it.
-/

namespace UniversalModule

open Emission

namespace Emission

def Level (steps : List Step) : Prop := ∀ step ∈ steps, ∀ depth, step.depthAfter depth = depth

theorem depthAfter_level {steps : List Step} (level : Level steps) (depth : Nat) :
    depthAfter depth steps = depth := by
  induction steps generalizing depth with
  | nil => rfl
  | cons step rest induction =>
      have first := level step List.mem_cons_self depth
      have others := induction (fun other member => level other (List.mem_cons_of_mem step member)) depth
      rw [depthAfter, List.foldl_cons, first]
      exact others

theorem render_level_append {first : List Step} (level : Level first) (depth : Nat) (second : List Step) :
    render depth (first ++ second) = render depth first ++ render depth second := by
  rw [render_append, depthAfter_level level]

theorem level_append {first second : List Step} :
    Level (first ++ second) ↔ Level first ∧ Level second := List.forall_mem_append

theorem level_cons {step : Step} {rest : List Step} :
    Level (step :: rest) ↔ (∀ depth, step.depthAfter depth = depth) ∧ Level rest := List.forall_mem_cons

theorem level_nil : Level [] := by
  intro step member
  exact absurd member (by simp)

theorem level_line (text : Text) : ∀ depth, (Step.line text).depthAfter depth = depth := fun _ => rfl

theorem level_embed (source : Source) : ∀ depth, (Step.embed source).depthAfter depth = depth :=
  fun _ => rfl

theorem level_splice (text : Text) : ∀ depth, (Step.splice text).depthAfter depth = depth := fun _ => rfl

/-- The text before a fragment: its label, and the head of its function. -/
def blockStart (isolated : Bool) (label : Text) : Text :=
  render 0 (.line (beginStart ++ flatLabel label) ::
    if isolated then [.line "(function () \x7b"] else [])

def blockEnd (isolated : Bool) (label : Text) : Text :=
  render 0 ((if isolated then [.line "\x7d)();"] else []) ++ [.line (endStart ++ flatLabel label)])

def block (isolated : Bool) (fragment : Source) : Text :=
  blockStart isolated fragment.label ++ fragment.content.terminated ++ blockEnd isolated fragment.label

theorem level_fragmentBlock (isolated : Bool) (fragment : Source) :
    Level (fragmentBlock isolated fragment) := by
  cases isolated <;>
    simp only [fragmentBlock, marked, level_cons, level_append, level_line, level_embed, level_nil,
      if_true, if_false, Bool.false_eq_true, implies_true, and_self]

theorem render_fragmentBlock (isolated : Bool) (fragment : Source) :
    render 0 (fragmentBlock isolated fragment) = block isolated fragment := by
  cases isolated <;>
    simp [fragmentBlock, marked, block, blockStart, blockEnd, render, Step.textAt, Step.depthAfter]

theorem render_fragmentBlocks (isolated : Bool) (fragments : List Source) :
    render 0 (fragments.flatMap (fragmentBlock isolated)) = fragments.flatMap (block isolated) := by
  induction fragments with
  | nil => rfl
  | cons fragment rest induction =>
      rw [List.flatMap_cons, List.flatMap_cons, render_level_append (level_fragmentBlock isolated fragment),
        render_fragmentBlock, induction]

end Emission

structure Layout where
  start : Text
  middle : Text
  ending : Text
  final : Text
  /-- Whether each fragment runs in a function of its own. -/
  isolated : Bool
  bundled : Bool

namespace Layout

def blocks (layout : Layout) (fragments : List Fragment) : List Text :=
  fragments.map fun fragment => block layout.isolated fragment.source

def bundlePart (layout : Layout) (bundle : Text) : Text :=
  if layout.bundled then wrapBundle bundle else []

def fill (layout : Layout) (core : Text) (fragments : List Fragment) (bundle : Text) : Text :=
  layout.start ++ core.terminated ++ layout.middle ++ (layout.blocks fragments).flatten ++
    layout.ending ++ layout.bundlePart bundle ++ layout.final

/-- Every embedded text stands unchanged at a place of its own, and a change of one text is a
change at its place only. -/
structure Composes (layout : Layout) : Prop where
  block : ∃ before after : Text → Text, ∀ fragment : Fragment,
    block layout.isolated fragment.source =
      before fragment.label ++ fragment.content.terminated ++ after fragment.label
  wrapper : ∃ before after, ∀ bundle, wrapBundle bundle = before ++ bundle.closed ++ after
  append : ∀ first second, layout.blocks (first ++ second) = layout.blocks first ++ layout.blocks second
  permuted : ∀ first second, first.Perm second → (layout.blocks first).Perm (layout.blocks second)
  fragments : ∀ core bundle, ∃ before after, ∀ fragments,
    layout.fill core fragments bundle = before ++ (layout.blocks fragments).flatten ++ after
  core : ∀ fragments bundle, ∃ before after, ∀ core,
    layout.fill core fragments bundle = before ++ core.terminated ++ after
  fragment : ∀ core bundle first (fragment : Fragment) second, ∃ before after, ∀ content,
    layout.fill core (first ++ { fragment with content } :: second) bundle =
      before ++ content.terminated ++ after
  bundle : ∀ core fragments, ∃ before after, ∀ bundle,
    layout.fill core fragments bundle =
      before ++ (if layout.bundled then bundle.closed else []) ++ after

theorem wrapBundle_eq : ∃ before after, ∀ bundle, wrapBundle bundle = before ++ bundle.closed ++ after := by
  refine ⟨"var " ++ requireName ++ " = (function () \x7b\n" ++ "var require;\n",
    "return require;\n" ++ "\x7d)();\n", fun bundle => ?_⟩
  unfold wrapBundle
  rw [List.append_assoc]

variable (layout : Layout)

theorem blocks_append (first second : List Fragment) :
    layout.blocks (first ++ second) = layout.blocks first ++ layout.blocks second := List.map_append

theorem fill_core (fragments : List Fragment) (bundle : Text) : ∃ before after, ∀ core,
    layout.fill core fragments bundle = before ++ core.terminated ++ after := by
  refine ⟨layout.start, layout.middle ++ (layout.blocks fragments).flatten ++ layout.ending ++
    layout.bundlePart bundle ++ layout.final, fun core => ?_⟩
  simp only [fill, List.append_assoc]

theorem fill_fragments (core bundle : Text) : ∃ before after, ∀ fragments,
    layout.fill core fragments bundle = before ++ (layout.blocks fragments).flatten ++ after := by
  refine ⟨layout.start ++ core.terminated ++ layout.middle,
    layout.ending ++ layout.bundlePart bundle ++ layout.final, fun fragments => ?_⟩
  simp only [fill, List.append_assoc]

theorem fill_fragment (core bundle : Text) (first : List Fragment) (fragment : Fragment)
    (second : List Fragment) : ∃ before after, ∀ content,
      layout.fill core (first ++ { fragment with content } :: second) bundle =
        before ++ content.terminated ++ after := by
  obtain ⟨before, after, filled⟩ := layout.fill_fragments core bundle
  refine ⟨before ++ (layout.blocks first).flatten ++ blockStart layout.isolated fragment.label,
    blockEnd layout.isolated fragment.label ++ (layout.blocks second).flatten ++ after, fun content => ?_⟩
  have own : layout.blocks ({ fragment with content } :: second) =
      (blockStart layout.isolated fragment.label ++ content.terminated ++
        blockEnd layout.isolated fragment.label) :: layout.blocks second := rfl
  rw [filled, blocks_append, own, List.flatten_append, List.flatten_cons]
  simp only [List.append_assoc]

theorem fill_bundle (core : Text) (fragments : List Fragment) : ∃ before after, ∀ bundle,
    layout.fill core fragments bundle =
      before ++ (if layout.bundled then bundle.closed else []) ++ after := by
  obtain ⟨opening, closing, wrapped⟩ := wrapBundle_eq
  cases bundled : layout.bundled with
  | true =>
      refine ⟨layout.start ++ core.terminated ++ layout.middle ++ (layout.blocks fragments).flatten ++
        layout.ending ++ opening, closing ++ layout.final, fun bundle => ?_⟩
      simp only [fill, bundlePart, bundled, wrapped, if_true, List.append_assoc]
  | false =>
      refine ⟨layout.start ++ core.terminated ++ layout.middle ++ (layout.blocks fragments).flatten ++
        layout.ending, layout.final, fun bundle => ?_⟩
      simp only [fill, bundlePart, bundled, Bool.false_eq_true, if_false, List.append_nil]

theorem composes : layout.Composes where
  block := ⟨blockStart layout.isolated, blockEnd layout.isolated, fun _ => rfl⟩
  wrapper := wrapBundle_eq
  append := layout.blocks_append
  permuted _ _ permuted := permuted.map _
  fragments := layout.fill_fragments
  core := layout.fill_core
  fragment := layout.fill_fragment
  bundle := layout.fill_bundle

end Layout

namespace Options

def startSteps (options : Options) : List Step :=
  [.line "(function (global) \x7b", .line (beginStart ++ flatLabel options.coreFilename.text)]

def middleSteps (options : Options) : List Step :=
  .line (endStart ++ flatLabel options.coreFilename.text) :: (setup options ++
    [.line ("var " ++ initName ++ " = function () \x7b")])

def endingSteps : List Step := [.line "\x7d;", .line ("var " ++ flagName ++ " = true;")]

def finalSteps (options : Options) : List Step :=
  namedModuleBranch options ++ commonJsBranch options ++ plainBranch options ++
    [.line "\x7d)(typeof window !== \"undefined\" ? window : global);"]

def layout (options : Options) : Layout where
  start := render 0 options.startSteps
  middle := render 0 options.middleSteps
  ending := render 0 endingSteps
  final := render 0 options.finalSteps
  isolated := options.scopeTemplates
  bundled := options.needsBundle

/-- There is a bundle when one of the requirements can come as a package. -/
theorem needsBundle_iff (options : Options) :
    options.needsBundle = true ↔
      ∃ requirement ∈ options.requires, ∃ package, .bundled package ∈ requirement.providers := by
  rw [← Resolution.bundledPackages_ne_nil_iff, needsBundle]
  simp

end Options

theorem render_bundlePart (options : Options) (bundle : Text) :
    render 0 (Emission.bundlePart (options.embeddedBundle bundle)) = options.layout.bundlePart bundle := by
  unfold Options.embeddedBundle Layout.bundlePart
  by_cases needed : options.needsBundle = true
  · have bundled : options.layout.bundled = true := needed
    rw [if_pos needed, if_pos bundled]
    exact List.append_nil _
  · have unbundled : ¬options.layout.bundled = true := needed
    rw [if_neg needed, if_neg unbundled]
    rfl

theorem level_bundlePart (bundle : Option Text) : Level (Emission.bundlePart bundle) := by
  cases bundle with
  | none => exact level_nil
  | some text => exact level_cons.mpr ⟨level_splice _, level_nil⟩

theorem level_setup (options : Options) : Level (setup options) := by
  simp only [setup, level_cons, level_line, level_nil, implies_true, and_self]

theorem level_fragmentBlocks (isolated : Bool) (fragments : List Source) :
    Level (fragments.flatMap (fragmentBlock isolated)) := by
  intro step member
  obtain ⟨fragment, -, found⟩ := List.mem_flatMap.mp member
  exact level_fragmentBlock isolated fragment step found

theorem level_startSteps (options : Options) : Level options.startSteps := by
  simp only [Options.startSteps, level_cons, level_line, level_nil, implies_true, and_self]

theorem level_middleSteps (options : Options) : Level options.middleSteps := by
  simp only [Options.middleSteps, level_cons, level_append, level_setup, level_line, level_nil,
    implies_true, and_self]

theorem level_endingSteps : Level Options.endingSteps := by
  simp only [Options.endingSteps, level_cons, level_line, level_nil, implies_true, and_self]

theorem moduleSteps_eq (options : Options) (core : Text) (fragments : List Source)
    (bundle : Option Text) :
    moduleSteps options (options.coreSource core) fragments bundle =
      options.startSteps ++ ([.embed (options.coreSource core)] ++ (options.middleSteps ++
        (fragments.flatMap (fragmentBlock options.scopeTemplates) ++ (Options.endingSteps ++
          (Emission.bundlePart bundle ++ options.finalSteps))))) := by
  simp only [moduleSteps, coreBlock, marked, initRoutine, exportsPart_eq, Options.startSteps,
    Options.middleSteps, Options.endingSteps, Options.finalSteps, List.append_assoc, List.cons_append,
    List.nil_append]
  rfl

theorem render_moduleSteps (options : Options) (core bundle : Text) (fragments : List Fragment) :
    render 0 (moduleSteps options (options.coreSource core) (fragments.map Fragment.source)
      (options.embeddedBundle bundle)) = options.layout.fill core fragments bundle := by
  have level_core : Level [.embed (options.coreSource core)] := level_cons.mpr ⟨level_embed _, level_nil⟩
  have coreText : render 0 [.embed (options.coreSource core)] = core.terminated := List.append_nil _
  have blocks : (fragments.map Fragment.source).flatMap (block options.scopeTemplates) =
      (options.layout.blocks fragments).flatten := by
    rw [List.flatMap_def, List.map_map]
    rfl
  rw [moduleSteps_eq, render_level_append (level_startSteps options), render_level_append level_core,
    render_level_append (level_middleSteps options), render_level_append (level_fragmentBlocks _ _),
    render_level_append level_endingSteps, render_level_append (level_bundlePart _), coreText,
    render_fragmentBlocks, render_bundlePart, blocks]
  simp only [Layout.fill, List.append_assoc]
  rfl

/-- A compilation that is asked for no map fills the layout of its options with the texts that it is
given, in any order of its jobs. The layout has a place for the bundle exactly when a requirement can
come as a package. -/
theorem compile_fills {options : Options} {outputFile : Path}
    (accepted : options.validate = .ok outputFile) (unmapped : options.sourceMap = false) :
    (∀ core bundle schedule fragments, compile (Supplies.ofTexts core bundle) schedule options fragments =
      .ok ⟨options.layout.fill core fragments bundle, none⟩) ∧
    options.layout.isolated = options.scopeTemplates ∧
    (options.layout.bundled = true ↔
      ∃ requirement ∈ options.requires, ∃ package, .bundled package ∈ requirement.providers) ∧
    options.layout.Composes := by
  refine ⟨?_, rfl, options.needsBundle_iff, options.layout.composes⟩
  intro core bundle schedule fragments
  rw [compile_ofTexts accepted, emit_unmapped unmapped outputFile rfl, render_moduleSteps]

theorem compile_fills_least :
    Options.least.validate = .ok ⟨"module.js"⟩ ∧ Options.least.sourceMap = false ∧
    compile (Supplies.ofTexts "core" []) .bundleFirst Options.least [⟨⟨"a.js"⟩, none, "f()"⟩] =
      .ok ⟨Options.least.layout.fill "core" [⟨⟨"a.js"⟩, none, "f()"⟩] [], none⟩ ∧
    Options.least.layout.bundled = false ∧ Options.least.layout.Composes := by
  obtain ⟨filled, -, -, composes⟩ := compile_fills Options.validate_least rfl
  exact ⟨Options.validate_least, rfl, filled _ _ _ _, rfl, composes⟩

end UniversalModule
