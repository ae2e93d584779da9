import Mathlib.Data.List.Nodup
import UniversalModule.Proofs.Emission.Names
import UniversalModule.Proofs.Emission.Scanning
import UniversalModule.Proofs.Json.Numerals
import UniversalModule.Proofs.Options
import UniversalModule.Proofs.Resolution.Bundling
import UniversalModule.Proofs.Resolution.Statements

/-!
The names of an emitted module lead to what they stand for. The module's function binds five names
that are fixed or checked with the options; handlers bind parameters that are recognised by their
shape; and what comes from outside is called otherwise.
-/

namespace UniversalModule

theorem isParameterName_parameterName (index : Nat) : isParameterName (parameterName index) = true := by
  have digits : Text.after? parameterStart (parameterName index) = some (Text.ofNat index) :=
    Text.after?_append parameterStart (Text.ofNat index)
  unfold isParameterName
  rw [digits]
  simp only [Bool.and_eq_true, Bool.not_eq_true', List.isEmpty_eq_false_iff, List.all_eq_true]
  exact ⟨Text.ofNat_ne_nil index, fun c member => Text.isDigit_of_mem_ofNat member⟩

theorem parameterName_injective : Function.Injective parameterName := by
  intro first second same
  have digits : Text.ofNat first = Text.ofNat second := List.append_cancel_left same
  have value := congrArg Json.digitsValue digits
  rwa [Json.digitsValue_ofNat, Json.digitsValue_ofNat] at value

/-- A parameter is called otherwise than whatever does not have the shape of one. -/
theorem parameterName_ne {name : Text} (other : isParameterName name = false) (index : Nat) :
    parameterName index ≠ name := by
  rintro rfl
  rw [isParameterName_parameterName] at other
  exact absurd other (by simp)

namespace Emission

theorem nodup_parameterNames (count : Nat) : (parameterNames count).Nodup :=
  (List.nodup_map_iff parameterName_injective).mpr List.nodup_range

theorem mem_parameterNames {count : Nat} {name : Text} :
    name ∈ parameterNames count ↔ ∃ index < count, parameterName index = name := by
  simp only [parameterNames, List.mem_map, List.mem_range]

theorem nodup_handlerNames (count : Nat) : (provideName :: parameterNames count).Nodup := by
  refine List.nodup_cons.mpr ⟨?_, nodup_parameterNames count⟩
  rw [mem_parameterNames]
  rintro ⟨index, -, same⟩
  exact parameterName_ne (by decide) index same

open Script

/-- The name leads to its referent from within the scope, under the naming of the options. -/
abbrev Leads (options : Options) (scope : List Referent) (referent : Referent) : Prop :=
  Reaches options.naming Referent.isBound scope referent

abbrev Fitting (options : Options) (scope declared : List Referent) (script : Named) : Prop :=
  Fits options.naming Referent.isBound scope declared script

section Fitting

variable {options : Options} {scope declared : List Referent} {depth : Nat}

theorem fitting_named {scripts : List Named} (fits : Fitting options scope declared (concat scripts)) :
    Fitting options scope declared (named depth scripts) where
  explicit := by
    rw [named, isExplicit_concat, List.forall_mem_cons, List.forall_mem_append]
    refine ⟨rfl, isExplicit_concat.mp fits.explicit, fun script member => ?_⟩
    rw [List.mem_singleton.mp member]
    rfl
  declares := by
    rw [named, declared_concat, List.flatMap_cons, List.flatMap_append, ← declared_concat, fits.declares]
    exact List.append_nil declared
  resolved := by
    rw [named, resolved_concat, List.forall_mem_cons, List.forall_mem_append]
    refine ⟨trivial, resolved_concat.mp fits.resolved, fun script member => ?_⟩
    rw [List.mem_singleton.mp member]
    trivial

theorem fitting_namedFunction {parameters : List Referent} {body : Named}
    (distinct : ((parameters ++ declared).map options.naming).Nodup)
    (isBound : ∀ referent ∈ parameters ++ declared, referent.isBound = true)
    (fits : Fitting options (parameters ++ declared ++ scope) declared body) :
    Fitting options scope [] (namedFunction depth parameters body) := by
  have lines : Fitting options (parameters ++ declared ++ scope) (declared ++ [])
      (concat [body, .blank (4 * depth)]) := fits.cons ⟨rfl, rfl, ⟨trivial, trivial⟩⟩
  have whole : Fitting options (parameters ++ declared ++ scope) declared
      (concat [.fixed "\n", body, .blank (4 * depth)]) := by
    rw [List.append_nil] at lines
    exact ⟨lines.explicit, lines.declares, trivial, lines.resolved⟩
  exact whole.function distinct isBound

theorem fitting_plainFunction {body : Named} (fits : Fitting options scope [] body) :
    Fitting options scope [] (namedFunction depth [] body) :=
  @fitting_namedFunction options scope [] depth [] body List.nodup_nil (by simp) fits

theorem fitting_namedAccess {access : Access} (ambient : Leads options scope .ambient)
    (bundled : ∀ package, access = .bundled package → Leads options scope .bundleRequire)
    (parameter : ∀ index, access = .parameter index → Leads options scope (.parameter index)) :
    Fitting options scope [] (namedAccess access) := by
  cases access with
  | global segments =>
      have subscripts : Fitting options scope [] (concat (segments.map namedSubscript)) :=
        fits_concat_map fun segment _ => ⟨rfl, rfl, trivial, trivial, trivial, trivial⟩
      exact ⟨subscripts.explicit, subscripts.declares, ambient, subscripts.resolved⟩
  | bundled package => exact ⟨rfl, rfl, bundled package rfl, trivial, trivial, trivial, trivial⟩
  | parameter index => exact ⟨rfl, rfl, parameter index rfl⟩

theorem fitting_namedAssignments {branch : Branch} (runtime : Leads options scope .runtime)
    (accesses : ∀ assignment ∈ Resolution.assignments options.requires branch,
      Fitting options scope [] (namedAccess assignment.value)) :
    Fitting options scope [] (namedAssignments depth options branch) := by
  refine fits_concat_map fun assignment member => fitting_named ?_
  have access := accesses assignment member
  have target : Fitting options scope [] (concat [.reference .runtime, .property "lib", .fixed "[",
      .quoted assignment.name, .fixed "] = "]) :=
    ⟨rfl, rfl, runtime, trivial, trivial, trivial, trivial, trivial⟩
  have ended : Fitting options scope [] (concat [.fixed ";"]) := ⟨rfl, rfl, trivial, trivial⟩
  exact target.append (access.cons ended)

theorem fitting_namedCallInit (init : Leads options scope .init) :
    Fitting options scope [] (namedCallInit depth) :=
  fitting_named ⟨rfl, rfl, init, trivial, trivial⟩

theorem fitting_namedLowerFlag (flag : Leads options scope .flag) :
    Fitting options scope [] (namedLowerFlag depth) :=
  fitting_named ⟨rfl, rfl, flag, trivial, trivial⟩

theorem fitting_namedQuotes (texts : List Text) : Fitting options scope [] (namedQuotes texts) := by
  induction texts with
  | nil => exact ⟨rfl, rfl, trivial⟩
  | cons text rest induction =>
      cases rest with
      | nil => exact ⟨rfl, rfl, trivial⟩
      | cons next others =>
          have first : Fitting options scope [] (concat [.quoted text, .fixed ", "]) :=
            ⟨rfl, rfl, trivial, trivial, trivial⟩
          exact first.append (induction.cons fits_nil)

/-- A definition fits when its handler does, inside of the names that the handler binds. -/
theorem fitting_namedDefinition {name : Text} {modules : List Text} {parameters : List Referent}
    {handler : Named} (system : Leads options scope .modules)
    (distinct : ((.provide :: parameters).map options.naming).Nodup)
    (isBound : ∀ referent ∈ .provide :: parameters, Referent.isBound referent = true)
    (inner : Fitting options (.provide :: parameters ++ scope) [] handler) :
    Fitting options scope [] (namedDefinition name modules parameters handler) := by
  have handled : Fitting options scope [] (namedFunction 1 (.provide :: parameters) handler) := by
    apply fitting_namedFunction
    · rw [List.append_nil]
      exact distinct
    · rw [List.append_nil]
      exact isBound
    · rw [List.append_nil]
      exact inner
  have called : Fitting options scope [] (concat [.reference .modules, .property "define", .fixed "(",
      .quoted name, .fixed ", ["]) :=
    ⟨rfl, rfl, system, trivial, trivial, trivial, trivial, trivial⟩
  have between : Fitting options scope [] (concat [.fixed "], "]) := ⟨rfl, rfl, trivial, trivial⟩
  have ended : Fitting options scope [] (concat [.fixed ");"]) := ⟨rfl, rfl, trivial, trivial⟩
  exact fitting_named (called.append ((fitting_namedQuotes modules).cons
    (between.append (handled.cons ended))))

theorem fitting_namedMarker {kind : Text} (single : (kind.all fun c => !Scanner.isLineEnd c) = true)
    (label : Text) : Fitting options scope [] (namedMarker kind label) := by
  have comment : (Script.comment (kind ++ flatLabel label) : Named).isExplicit = true := by
    rw [isExplicit, List.all_append, single, Bool.true_and, List.all_eq_true]
    intro c member
    rw [isLineEnd_flatLabel member]
    rfl
  exact fitting_named (Fits.cons ⟨comment, rfl, trivial⟩ fits_nil)

theorem fitting_namedMarked {label : Text} {inner : Named} (fits : Fitting options scope declared inner) :
    Fitting options scope declared (namedMarked label inner) := by
  have begins : Fitting options scope [] (namedMarker " begin: " label) :=
    fitting_namedMarker (by decide) label
  have ends : Fitting options scope [] (namedMarker " end: " label) :=
    fitting_namedMarker (by decide) label
  have whole := begins.cons (fits.cons (ends.cons fits_nil))
  rwa [List.nil_append, List.nil_append, List.append_nil] at whole

theorem fitting_namedSetup (runtime : Leads options scope .runtime)
    (made : Leads options scope .constructor) :
    Fitting options scope [.runtime] (namedSetup options) := by
  have declares : Fitting options scope [.runtime] (concat [.fixed "var ", .declaration .runtime,
      .fixed " = new ", .reference .constructor, .fixed "();"]) :=
    ⟨rfl, rfl, trivial, runtime, trivial, made, trivial, trivial⟩
  have calls : Fitting options scope [] (concat [.reference .runtime, .property "setOptions", .fixed "(",
      .value options.coreOptions, .fixed ");"]) :=
    ⟨rfl, rfl, runtime, trivial, trivial, trivial, trivial, trivial⟩
  have library : Fitting options scope [] (concat [.reference .runtime, .property "lib", .fixed " = ",
      .reference .runtime, .property "lib", .fixed " || \x7b\x7d;"]) :=
    ⟨rfl, rfl, runtime, trivial, trivial, runtime, trivial, trivial, trivial⟩
  exact (fitting_named declares).cons ((fitting_named calls).cons ((fitting_named library).cons fits_nil))

theorem fitting_namedFragment (isolated : Bool) (fragment : Source) :
    Fitting options scope [] (namedFragment isolated fragment) := by
  refine fitting_namedMarked ?_
  have content : Fitting options scope [] (.embedded fragment.content.terminated) := ⟨rfl, rfl, trivial⟩
  cases isolated with
  | false => exact content
  | true =>
      have function : Fitting options scope [] (namedFunction 0 [] (.embedded fragment.content.terminated)) :=
        fitting_plainFunction content
      have opened : Fitting options scope [] (concat [.fixed "("]) := ⟨rfl, rfl, trivial, trivial⟩
      have ended : Fitting options scope [] (concat [.fixed ")();"]) := ⟨rfl, rfl, trivial, trivial⟩
      exact fitting_named (opened.append (function.cons ended))

theorem fitting_namedInit (init : Leads options scope .init) (isolated : Bool) (fragments : List Source) :
    Fitting options scope [.init] (namedInit isolated fragments) := by
  have inner : Fitting options scope [] (concat (fragments.map (namedFragment isolated))) :=
    fits_concat_map fun fragment _ => fitting_namedFragment isolated fragment
  have routine : Fitting options scope []
      (namedFunction 0 [] (concat (fragments.map (namedFragment isolated)))) :=
    fitting_plainFunction inner
  have declares : Fitting options scope [.init] (concat [.fixed "var ", .declaration .init, .fixed " = "]) :=
    ⟨rfl, rfl, trivial, init, trivial, trivial⟩
  have ended : Fitting options scope [] (concat [.fixed ";"]) := ⟨rfl, rfl, trivial, trivial⟩
  exact fitting_named (declares.append (routine.cons ended))

def bundleReferents : Option Text → List Referent
  | none => []
  | some _ => [.bundleRequire]

theorem fitting_namedBundle {bundle : Option Text}
    (bundled : bundle.isSome = true → Leads options scope .bundleRequire) :
    Fitting options scope (bundleReferents bundle) (namedBundle bundle) := by
  cases bundle with
  | none => exact ⟨rfl, rfl, trivial⟩
  | some text =>
      have required : Leads options ([.innerRequire] ++ scope) .innerRequire :=
        reaches_of_mem (List.nodup_singleton _) List.mem_cons_self rfl
      have declared : Fitting options ([.innerRequire] ++ scope) [.innerRequire]
          (named 0 [.fixed "var ", .declaration .innerRequire, .fixed ";"]) :=
        fitting_named ⟨rfl, rfl, trivial, required, trivial, trivial⟩
      have inner : Fitting options ([.innerRequire] ++ scope) [] (.embedded text.closed) :=
        ⟨rfl, rfl, trivial⟩
      have returned : Fitting options ([.innerRequire] ++ scope) []
          (named 0 [.fixed "return ", .reference .innerRequire, .fixed ";"]) :=
        fitting_named ⟨rfl, rfl, trivial, required, trivial, trivial⟩
      have wrapper : Fitting options scope [] (namedFunction 0 [] (concat [
          named 0 [.fixed "var ", .declaration .innerRequire, .fixed ";"],
          .embedded text.closed,
          named 0 [.fixed "return ", .reference .innerRequire, .fixed ";"]])) :=
        @fitting_namedFunction options scope [.innerRequire] 0 [] _ (List.nodup_singleton _) (by simp [Referent.isBound])
          (declared.cons (inner.cons (returned.cons fits_nil)))
      have declares : Fitting options scope [.bundleRequire]
          (concat [.fixed "var ", .declaration .bundleRequire, .fixed " = ("]) :=
        ⟨rfl, rfl, trivial, bundled rfl, trivial, trivial⟩
      have ended : Fitting options scope [] (concat [.fixed ")();"]) := ⟨rfl, rfl, trivial, trivial⟩
      exact fitting_named (declares.append (wrapper.cons ended))

end Fitting

def closureReferents (bundle : Option Text) : List Referent :=
  .ambient :: .runtime :: .init :: .flag :: bundleReferents bundle

def handlerReferents (count : Nat) : List Referent :=
  .provide :: (List.range count).map .parameter

abbrev handlerScope (options : Options) (bundle : Option Text) : List Referent :=
  handlerReferents (Resolution.namedModules options.requires).length ++ closureReferents bundle

def closureNames : List Text := [globalName, initName, flagName, requireName]

section Scopes

variable {options : Options} {bundle : Option Text}

theorem sublist_closureNames : (globalName :: initName :: flagName ::
    (bundleReferents bundle).map options.naming).Sublist closureNames := by
  cases bundle with
  | none => exact List.sublist_append_left [globalName, initName, flagName] [requireName]
  | some text => exact List.Sublist.refl closureNames

/-- The names of the module's function, with the runtime's in front. -/
theorem perm_closureReferents : ((closureReferents bundle).map options.naming).Perm
    (options.runtimeVar :: globalName :: initName :: flagName ::
      (bundleReferents bundle).map options.naming) := List.Perm.swap _ _ _

theorem naming_closureReferents {referent : Referent} (member : referent ∈ closureReferents bundle) :
    options.naming referent = options.runtimeVar ∨ options.naming referent ∈ closureNames := by
  have named := (@perm_closureReferents options bundle).mem_iff.mp (List.mem_map_of_mem member)
  exact (List.mem_cons.mp named).imp_right fun known => sublist_closureNames.subset known

theorem isBound_closureReferents {referent : Referent} (member : referent ∈ closureReferents bundle) :
    referent.isBound = true := by
  have all : (closureReferents bundle).all Referent.isBound = true := by cases bundle <;> rfl
  exact List.all_eq_true.mp all referent member

theorem closureNames_subset {name : Text} (member : name ∈ closureNames) : name ∈ wrapperNames := by
  have all : ∀ name ∈ closureNames, name ∈ wrapperNames := by decide
  exact all name member

theorem nodup_closure (faultless : options.Faultless) :
    ((closureReferents bundle).map options.naming).Nodup := by
  have apart : options.runtimeVar ∉ closureNames :=
    fun member => faultless.runtimeFree (closureNames_subset member)
  have others : closureNames.Nodup := by decide
  -- The runtime's is the only name that is not fixed; it is brought to the front.
  exact perm_closureReferents.nodup_iff.mpr (List.nodup_cons.mpr
    ⟨fun member => apart (sublist_closureNames.subset member), sublist_closureNames.nodup others⟩)

theorem leads_closure (faultless : options.Faultless) {referent : Referent}
    (member : referent ∈ closureReferents bundle) (isBound : referent.isBound = true) :
    Leads options (closureReferents bundle) referent := by
  have leads := @reaches_of_mem _ options.naming Referent.isBound _ [] referent (nodup_closure faultless)
    member isBound
  rwa [List.append_nil] at leads

/-- What comes from outside is not called like anything that the module's function binds. -/
theorem leads_free {referent : Referent} (free : referent.isBound = false)
    (different : options.naming referent ≠ options.runtimeVar)
    (unbound : options.naming referent ∉ closureNames) :
    Leads options (closureReferents bundle) referent := by
  refine reaches_of_free (fun other member same => ?_) free
  rcases naming_closureReferents member with runtime | known
  · exact different (same.symm.trans runtime)
  · exact unbound (same ▸ known)

theorem map_naming_handlerReferents (count : Nat) :
    (handlerReferents count).map options.naming = provideName :: parameterNames count := by
  rw [handlerReferents, List.map_cons, map_naming_parameters]
  rfl

/-- A name of the module's function is seen through a handler, whose own names are different. -/
theorem leads_handler {referent : Referent} {count : Nat}
    (leads : Leads options (closureReferents bundle) referent)
    (different : options.naming referent ≠ provideName)
    (noParameter : isParameterName (options.naming referent) = false) :
    Leads options (handlerReferents count ++ closureReferents bundle) referent := by
  refine reaches_append (fun other member same => ?_) leads
  have named : options.naming referent ∈ provideName :: parameterNames count := by
    rw [← map_naming_handlerReferents, ← same]
    exact List.mem_map_of_mem member
  rcases List.mem_cons.mp named with provide | parameter
  · exact different provide
  · obtain ⟨index, -, found⟩ := mem_parameterNames.mp parameter
    exact parameterName_ne noParameter index found

theorem leads_bound {referent : Referent} {count : Nat} (member : referent ∈ handlerReferents count)
    (isBound : referent.isBound = true) (outer : List Referent) :
    Leads options (handlerReferents count ++ outer) referent := by
  refine reaches_of_mem ?_ member isBound
  rw [map_naming_handlerReferents]
  exact nodup_handlerNames count

end Scopes

section Parts

variable {options : Options} {bundle : Option Text}

theorem leads_constructor (faultless : options.Faultless) :
    Leads options (closureReferents bundle) .constructor :=
  leads_free rfl (Ne.symm faultless.different) fun member =>
    faultless.exportFree (closureNames_subset member)

/-- What the wrapper takes from a module system is not called like the runtime. -/
theorem leads_system (faultless : options.Faultless) {referent : Referent} (name : Text)
    (named : options.naming referent = name) (free : referent.isBound = false)
    (system : name ∈ wrapperNames) (unbound : name ∉ closureNames) :
    Leads options (closureReferents bundle) referent := by
  subst named
  exact leads_free free (fun same => faultless.runtimeFree (same ▸ system)) unbound

theorem leads_runtime (faultless : options.Faultless) : Leads options (closureReferents bundle) .runtime :=
  leads_closure faultless (by simp [closureReferents]) rfl

theorem leads_ambient (faultless : options.Faultless) : Leads options (closureReferents bundle) .ambient :=
  leads_closure faultless List.mem_cons_self rfl

theorem leads_init (faultless : options.Faultless) : Leads options (closureReferents bundle) .init :=
  leads_closure faultless (by simp [closureReferents]) rfl

theorem leads_flag (faultless : options.Faultless) : Leads options (closureReferents bundle) .flag :=
  leads_closure faultless (by simp [closureReferents]) rfl

theorem leads_bundleRequire (faultless : options.Faultless) (bundled : bundle.isSome = true) :
    Leads options (closureReferents bundle) .bundleRequire := by
  refine leads_closure faultless ?_ rfl
  obtain ⟨text, rfl⟩ := Option.isSome_iff_exists.mp bundled
  simp [closureReferents, bundleReferents]

/-- Outside of the branch of named modules all values are on the ambient object or in the bundle. -/
theorem fitting_access (faultless : options.Faultless)
    (supplied : Resolution.bundledPackages options.requires ≠ [] → bundle.isSome = true)
    {branch : Branch} (other : branch ≠ .namedModule) {assignment : Assignment}
    (member : assignment ∈ Resolution.assignments options.requires branch) :
    Fitting options (closureReferents bundle) [] (namedAccess assignment.value) := by
  obtain ⟨name, value⟩ := assignment
  refine fitting_namedAccess (leads_ambient faultless) ?_ ?_
  · rintro package rfl
    have selected := Resolution.exists_mem_assignments_bundled_iff.mp ⟨name, member⟩
    exact leads_bundleRequire faultless
      (supplied (List.ne_nil_of_mem (Resolution.mem_bundledPackages_of_selected selected)))
  · rintro index rfl
    exact absurd (Resolution.index_lt_of_mem_assignments member).1 other

/-- In a handler all values are on the ambient object or in the handler's parameters. -/
theorem fitting_handlerAccess (faultless : options.Faultless) {assignment : Assignment}
    (member : assignment ∈ Resolution.assignments options.requires .namedModule) :
    Fitting options (handlerScope options bundle) [] (namedAccess assignment.value) := by
  obtain ⟨name, value⟩ := assignment
  refine fitting_namedAccess (leads_handler (leads_ambient faultless) ?_ ?_) ?_ ?_
  · exact (by decide : globalName ≠ provideName)
  · exact (by decide : isParameterName globalName = false)
  · rintro package rfl
    have selected := Resolution.exists_mem_assignments_bundled_iff.mp ⟨name, member⟩
    rw [Resolution.selectedPackages_namedModule] at selected
    exact absurd selected List.not_mem_nil
  · rintro index rfl
    have small := (Resolution.index_lt_of_mem_assignments member).2
    refine leads_bound (List.mem_cons_of_mem _ ?_) rfl _
    exact List.mem_map_of_mem (List.mem_range.mpr small)

theorem isBound_handlerReferents {count : Nat} {referent : Referent}
    (member : referent ∈ handlerReferents count) : referent.isBound = true := by
  rcases List.mem_cons.mp member with rfl | parameter
  · rfl
  · obtain ⟨index, -, rfl⟩ := List.mem_map.mp parameter
    rfl

theorem fitting_handler (faultless : options.Faultless) :
    Fitting options (handlerScope options bundle) []
      (concat [namedAssignments 2 options .namedModule, namedCallInit 2,
        named 2 [.reference .provide, .fixed "(", .reference .runtime, .fixed ");"]]) := by
  have notProvide : options.runtimeVar ≠ provideName := by
    intro same
    exact faultless.runtimeFree (same ▸ (by decide : provideName ∈ wrapperNames))
  have runtime : Leads options (handlerScope options bundle) .runtime :=
    leads_handler (leads_runtime faultless) notProvide faultless.noParameter
  have init : Leads options (handlerScope options bundle) .init :=
    leads_handler (leads_init faultless) (by decide : initName ≠ provideName)
      (by decide : isParameterName initName = false)
  have provide : Leads options (handlerScope options bundle) .provide :=
    leads_bound List.mem_cons_self rfl _
  have assigned : Fitting options (handlerScope options bundle) []
      (namedAssignments 2 options .namedModule) :=
    fitting_namedAssignments runtime fun _ member => fitting_handlerAccess faultless member
  have called : Fitting options (handlerScope options bundle) [] (namedCallInit 2) :=
    fitting_namedCallInit init
  have provided : Fitting options (handlerScope options bundle) []
      (named 2 [.reference .provide, .fixed "(", .reference .runtime, .fixed ");"]) :=
    fitting_named ⟨rfl, rfl, provide, trivial, runtime, trivial, trivial⟩
  exact assigned.cons (called.cons (provided.cons fits_nil))

/-- An alias is defined with a handler of two parameters, which uses nothing else. The second one may
be called like the runtime. -/
theorem fitting_aliasDefinition {scope : List Referent} (system : Leads options scope .modules)
    (name : Text) :
    Fitting options scope [] (namedDefinition name [options.exportName] [.aliased]
      (named 2 [.reference .provide, .fixed "(", .reference .aliased, .fixed ");"])) := by
  have distinct : (([.provide, .aliased] : List Referent).map options.naming).Nodup :=
    (by decide : ([provideName, "runtime"] : List Text).Nodup)
  have provide : Leads options ([.provide, .aliased] ++ scope) .provide :=
    reaches_of_mem distinct List.mem_cons_self rfl
  have aliased : Leads options ([.provide, .aliased] ++ scope) .aliased :=
    reaches_of_mem distinct (List.mem_cons_of_mem _ List.mem_cons_self) rfl
  have inner : Fitting options ([.provide, .aliased] ++ scope) []
      (named 2 [.reference .provide, .fixed "(", .reference .aliased, .fixed ");"]) :=
    fitting_named ⟨rfl, rfl, provide, trivial, aliased, trivial, trivial⟩
  exact fitting_namedDefinition system distinct (by decide) inner

theorem fitting_namedModuleScript (faultless : options.Faultless) :
    Fitting options (closureReferents bundle) [] (namedModuleScript options) := by
  have system : Leads options (closureReferents bundle) .modules :=
    leads_system faultless "modules" rfl rfl (by decide) (by decide)
  have opened : Fitting options (closureReferents bundle) [] (named 0 [.fixed "if (typeof ",
      .reference .modules, .fixed " === ", .quoted "object", .fixed ") \x7b"]) :=
    fitting_named ⟨rfl, rfl, trivial, system, trivial, trivial, trivial, trivial⟩
  have distinct : ((handlerReferents (Resolution.namedModules options.requires).length).map
      options.naming).Nodup := by
    rw [map_naming_handlerReferents]
    exact nodup_handlerNames _
  have canonical : Fitting options (closureReferents bundle) [] (namedDefinition options.exportName
      ((Resolution.namedModules options.requires).map Prod.snd)
      ((List.range ((Resolution.namedModules options.requires).map Prod.snd).length).map .parameter)
      (concat [namedAssignments 2 options .namedModule, namedCallInit 2,
        named 2 [.reference .provide, .fixed "(", .reference .runtime, .fixed ");"]])) := by
    rw [List.length_map]
    exact fitting_namedDefinition system distinct (fun _ member => isBound_handlerReferents member)
      (fitting_handler faultless)
  have aliases : Fitting options (closureReferents bundle) [] (concat (options.effectiveAliases.map fun name =>
      namedDefinition name [options.exportName] [.aliased]
        (named 2 [.reference .provide, .fixed "(", .reference .aliased, .fixed ");"]))) :=
    fits_concat_map fun name _ => fitting_aliasDefinition system name
  have lowered : Fitting options (closureReferents bundle) [] (namedLowerFlag 1) :=
    fitting_namedLowerFlag (leads_flag faultless)
  have inner := canonical.cons (aliases.cons (lowered.cons fits_nil))
  exact opened.cons (inner.cons fits_nil)

theorem fitting_publications {object : Referent} {scope : List Referent} {depth : Nat}
    (root : Leads options scope object)
    (runtime : Leads options scope .runtime) (names : List Text) :
    Fitting options scope [] (concat (names.map fun name => named depth
      [.reference object, namedSubscript name, .fixed " = ", .reference .runtime, .fixed ";"])) :=
  fits_concat_map fun _ _ => fitting_named
    ⟨rfl, rfl, root, ⟨trivial, trivial, trivial, trivial⟩, trivial, runtime, trivial, trivial⟩

theorem fitting_commonJsScript (faultless : options.Faultless)
    (supplied : Resolution.bundledPackages options.requires ≠ [] → bundle.isSome = true) :
    Fitting options (closureReferents bundle) [] (commonJsScript options) := by
  have runtime : Leads options (closureReferents bundle) .runtime := leads_runtime faultless
  have exports : Leads options (closureReferents bundle) .exports :=
    leads_system faultless "exports" rfl rfl (by decide) (by decide)
  have system : Leads options (closureReferents bundle) .module :=
    leads_system faultless "module" rfl rfl (by decide) (by decide)
  have opened : Fitting options (closureReferents bundle) [] (named 0 [.fixed "\x7d else if (typeof ",
      .reference .exports, .fixed " === ", .quoted "object", .fixed ") \x7b"]) :=
    fitting_named ⟨rfl, rfl, trivial, exports, trivial, trivial, trivial, trivial⟩
  have assigned : Fitting options (closureReferents bundle) [] (namedAssignments 1 options .commonJs) :=
    fitting_namedAssignments runtime fun _ member => fitting_access faultless supplied (by simp) member
  have exported : Fitting options (closureReferents bundle) [] (named 1 [.reference .module,
      .property "exports", .fixed " = ", .reference .runtime, .fixed ";"]) :=
    fitting_named ⟨rfl, rfl, system, trivial, trivial, runtime, trivial, trivial⟩
  have closed : Fitting options (closureReferents bundle) [] (named 0 [.fixed "\x7d"]) :=
    fitting_named ⟨rfl, rfl, trivial, trivial⟩
  have called : Fitting options (closureReferents bundle) [] (namedCallInit 1) :=
    fitting_namedCallInit (leads_init faultless)
  have lowered : Fitting options (closureReferents bundle) [] (namedLowerFlag 1) :=
    fitting_namedLowerFlag (leads_flag faultless)
  have aliases := @fitting_publications options .runtime (closureReferents bundle) 1 runtime runtime
    options.effectiveAliases
  have inner := assigned.cons (called.cons (aliases.cons (exported.cons (lowered.cons fits_nil))))
  exact opened.cons (inner.cons (closed.cons fits_nil))

theorem fitting_plainScript (faultless : options.Faultless)
    (supplied : Resolution.bundledPackages options.requires ≠ [] → bundle.isSome = true) :
    Fitting options (closureReferents bundle) [] (plainScript options) := by
  have runtime : Leads options (closureReferents bundle) .runtime := leads_runtime faultless
  have opened : Fitting options (closureReferents bundle) [] (named 0 [.fixed "if (", .reference .flag,
      .fixed ") \x7b"]) :=
    fitting_named ⟨rfl, rfl, trivial, leads_flag faultless, trivial, trivial⟩
  have assigned : Fitting options (closureReferents bundle) [] (namedAssignments 1 options .plain) :=
    fitting_namedAssignments runtime fun _ member => fitting_access faultless supplied (by simp) member
  have closed : Fitting options (closureReferents bundle) [] (named 0 [.fixed "\x7d"]) :=
    fitting_named ⟨rfl, rfl, trivial, trivial⟩
  have called : Fitting options (closureReferents bundle) [] (namedCallInit 1) :=
    fitting_namedCallInit (leads_init faultless)
  have names := @fitting_publications options .ambient (closureReferents bundle) 1
    (leads_ambient faultless) runtime (options.exportName :: options.effectiveAliases)
  have inner := assigned.cons (called.cons (names.cons fits_nil))
  exact opened.cons (inner.cons (closed.cons fits_nil))

/-- The module's function declares its variables once each, and all names in it lead to what they
stand for. -/
theorem fitting_closureScript (faultless : options.Faultless)
    (supplied : Resolution.bundledPackages options.requires ≠ [] → bundle.isSome = true)
    (core : Source) (fragments : List Source) :
    Fitting options (closureReferents bundle) (.runtime :: .init :: .flag :: bundleReferents bundle)
      (closureScript options core fragments bundle) := by
  have embedded : Fitting options (closureReferents bundle) []
      (namedMarked core.label (.embedded core.content.terminated)) :=
    fitting_namedMarked ⟨rfl, rfl, trivial⟩
  have made : Fitting options (closureReferents bundle) [.runtime] (namedSetup options) :=
    fitting_namedSetup (leads_runtime faultless) (leads_constructor faultless)
  have routine : Fitting options (closureReferents bundle) [.init]
      (namedInit options.scopeTemplates fragments) :=
    fitting_namedInit (leads_init faultless) options.scopeTemplates fragments
  have raised : Fitting options (closureReferents bundle) [.flag]
      (named 0 [.fixed "var ", .declaration .flag, .fixed " = true;"]) :=
    fitting_named ⟨rfl, rfl, trivial, leads_flag faultless, trivial, trivial⟩
  have bundled : Fitting options (closureReferents bundle) (bundleReferents bundle) (namedBundle bundle) :=
    fitting_namedBundle (leads_bundleRequire faultless)
  have named : Fitting options (closureReferents bundle) [] (namedModuleScript options) :=
    fitting_namedModuleScript faultless
  have commonJs := fitting_commonJsScript faultless supplied
  have plain := fitting_plainScript faultless supplied
  have whole := embedded.cons (made.cons (routine.cons (raised.cons (bundled.cons
    (named.cons (commonJs.cons (plain.cons fits_nil)))))))
  simp only [List.nil_append, List.append_nil, List.cons_append] at whole
  exact whole

theorem fitting_moduleScript (faultless : options.Faultless)
    (supplied : Resolution.bundledPackages options.requires ≠ [] → bundle.isSome = true)
    (core : Source) (fragments : List Source) :
    Fitting options [] [] (moduleScript options core fragments bundle) := by
  have inner : Fitting options (closureReferents bundle ++ [])
      (.runtime :: .init :: .flag :: bundleReferents bundle)
      (closureScript options core fragments bundle) := by
    rw [List.append_nil]
    exact fitting_closureScript faultless supplied core fragments
  have closure : Fitting options [] []
      (namedFunction 0 [.ambient] (closureScript options core fragments bundle)) :=
    @fitting_namedFunction options [] (.runtime :: .init :: .flag :: bundleReferents bundle) 0 [.ambient] _
      (nodup_closure faultless) (fun _ member => isBound_closureReferents member) inner
  have opened : Fitting options [] [] (concat [.fixed "("]) := ⟨rfl, rfl, trivial, trivial⟩
  have called : Fitting options [] [] (concat [.fixed ")(typeof ", .reference .window, .fixed " !== ",
      .quoted "undefined", .fixed " ? ", .reference .window, .fixed " : ", .reference .outerGlobal,
      .fixed ");"]) :=
    ⟨rfl, rfl, trivial, rfl, trivial, trivial, trivial, rfl, trivial, rfl, trivial, trivial⟩
  exact fitting_named (opened.append (closure.cons called))

end Parts

end Emission

end UniversalModule
