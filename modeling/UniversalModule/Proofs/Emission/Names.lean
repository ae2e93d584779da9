import UniversalModule.Proofs.Emission.Parts
import UniversalModule.Proofs.Script.Scopes

/-!
The names of an emitted module and what they stand for. The module is written here as a script of
its names; its text under the naming of the options is the text of the module.
-/

namespace UniversalModule

inductive Referent where
  /-- The module's parameter for the ambient object. -/
  | ambient
  | runtime
  | init
  | flag
  | bundleRequire
  /-- The variable in which a bundle leaves the function that hands out its packages. -/
  | innerRequire
  | provide
  | parameter (index : Nat)
  /-- The parameter that brings the runtime to an alias. -/
  | aliased
  | constructor
  | modules
  | module
  | exports
  | window
  /-- The ambient object outside of the module. -/
  | outerGlobal
deriving DecidableEq

def Referent.isBound : Referent → Bool
  | .constructor | .modules | .module | .exports | .window | .outerGlobal => false
  | _ => true

def Options.naming (options : Options) : Referent → Text
  | .ambient => globalName
  | .runtime => options.runtimeVar
  | .init => initName
  | .flag => flagName
  | .bundleRequire => requireName
  | .innerRequire => "require"
  | .provide => provideName
  | .parameter index => parameterName index
  | .aliased => "runtime"
  | .constructor => options.exportName
  | .modules => "modules"
  | .module => "module"
  | .exports => "exports"
  | .window => "window"
  | .outerGlobal => globalName

namespace Emission

abbrev Named := Script Referent

open Script

def named (depth : Nat) (scripts : List Named) : Named :=
  concat (.blank (4 * depth) :: (scripts ++ [.fixed "\n"]))

def namedFunction (depth : Nat) (parameters : List Referent) (body : Named) : Named :=
  .function parameters (concat [.fixed "\n", body, .blank (4 * depth)])

def namedMarker (kind label : Text) : Named :=
  named 0 [.comment (kind ++ flatLabel label)]

def namedMarked (label : Text) (inner : Named) : Named :=
  concat [namedMarker " begin: " label, inner, namedMarker " end: " label]

def namedSetup (options : Options) : Named :=
  concat [
    named 0 [.fixed "var ", .declaration .runtime, .fixed " = new ", .reference .constructor, .fixed "();"],
    named 0 [.reference .runtime, .property "setOptions", .fixed "(", .value options.coreOptions, .fixed ");"],
    named 0 [.reference .runtime, .property "lib", .fixed " = ", .reference .runtime, .property "lib",
      .fixed " || \x7b\x7d;"]]

def namedFragment (isolated : Bool) (fragment : Source) : Named :=
  let content : Named := .embedded fragment.content.terminated
  namedMarked fragment.label
    (if isolated then
      named 0 [.fixed "(", namedFunction 0 [] content, .fixed ")();"]
    else content)

def namedInit (isolated : Bool) (fragments : List Source) : Named :=
  named 0 [.fixed "var ", .declaration .init, .fixed " = ",
    namedFunction 0 [] (concat (fragments.map (namedFragment isolated))), .fixed ";"]

def namedBundle : Option Text → Named
  | none => .empty
  | some bundle =>
      named 0 [.fixed "var ", .declaration .bundleRequire, .fixed " = (",
        namedFunction 0 [] (concat [
          named 0 [.fixed "var ", .declaration .innerRequire, .fixed ";"],
          .embedded bundle.closed,
          named 0 [.fixed "return ", .reference .innerRequire, .fixed ";"]]),
        .fixed ")();"]

def namedSubscript (segment : Text) : Named := concat [.fixed "[", .quoted segment, .fixed "]"]

def namedAccess : Access → Named
  | .global segments => .sequence (.reference .ambient) (concat (segments.map namedSubscript))
  | .bundled package => concat [.reference .bundleRequire, .fixed "(", .quoted package, .fixed ")"]
  | .parameter index => .reference (.parameter index)

def namedAssignment (depth : Nat) (assignment : Assignment) : Named :=
  named depth [.reference .runtime, .property "lib", .fixed "[", .quoted assignment.name, .fixed "] = ",
    namedAccess assignment.value, .fixed ";"]

def namedAssignments (depth : Nat) (options : Options) (branch : Branch) : Named :=
  concat ((Resolution.assignments options.requires branch).map (namedAssignment depth))

def namedCallInit (depth : Nat) : Named := named depth [.reference .init, .fixed "();"]

def namedLowerFlag (depth : Nat) : Named := named depth [.reference .flag, .fixed " = false;"]

def namedQuotes : List Text → Named
  | [] => .empty
  | [text] => .quoted text
  | text :: next :: rest => concat [.quoted text, .fixed ", ", namedQuotes (next :: rest)]

def namedDefinition (name : Text) (modules : List Text) (parameters : List Referent)
    (handler : Named) : Named :=
  named 1 [.reference .modules, .property "define", .fixed "(", .quoted name, .fixed ", [",
    namedQuotes modules, .fixed "], ",
    namedFunction 1 (.provide :: parameters) handler, .fixed ");"]

def namedModuleScript (options : Options) : Named :=
  let modules := (Resolution.namedModules options.requires).map Prod.snd
  concat [
    named 0 [.fixed "if (typeof ", .reference .modules, .fixed " === ", .quoted "object", .fixed ") \x7b"],
    concat [
      namedDefinition options.exportName modules ((List.range modules.length).map .parameter)
        (concat [namedAssignments 2 options .namedModule, namedCallInit 2,
          named 2 [.reference .provide, .fixed "(", .reference .runtime, .fixed ");"]]),
      concat (options.effectiveAliases.map fun name =>
        namedDefinition name [options.exportName] [.aliased]
          (named 2 [.reference .provide, .fixed "(", .reference .aliased, .fixed ");"])),
      namedLowerFlag 1]]

def commonJsScript (options : Options) : Named :=
  concat [
    named 0 [.fixed "\x7d else if (typeof ", .reference .exports, .fixed " === ", .quoted "object",
      .fixed ") \x7b"],
    concat [
      namedAssignments 1 options .commonJs,
      namedCallInit 1,
      concat (options.effectiveAliases.map fun name =>
        named 1 [.reference .runtime, namedSubscript name, .fixed " = ", .reference .runtime, .fixed ";"]),
      named 1 [.reference .module, .property "exports", .fixed " = ", .reference .runtime, .fixed ";"],
      namedLowerFlag 1],
    named 0 [.fixed "\x7d"]]

def plainScript (options : Options) : Named :=
  concat [
    named 0 [.fixed "if (", .reference .flag, .fixed ") \x7b"],
    concat [
      namedAssignments 1 options .plain,
      namedCallInit 1,
      concat ((options.exportName :: options.effectiveAliases).map fun name =>
        named 1 [.reference .ambient, namedSubscript name, .fixed " = ", .reference .runtime, .fixed ";"])],
    named 0 [.fixed "\x7d"]]

def closureScript (options : Options) (core : Source) (fragments : List Source)
    (bundle : Option Text) : Named :=
  concat [namedMarked core.label (.embedded core.content.terminated), namedSetup options,
    namedInit options.scopeTemplates fragments,
    named 0 [.fixed "var ", .declaration .flag, .fixed " = true;"],
    namedBundle bundle, namedModuleScript options, commonJsScript options, plainScript options]

def moduleScript (options : Options) (core : Source) (fragments : List Source)
    (bundle : Option Text) : Named :=
  named 0 [.fixed "(", namedFunction 0 [.ambient] (closureScript options core fragments bundle),
    .fixed ")(typeof ", .reference .window, .fixed " !== ", .quoted "undefined", .fixed " ? ",
    .reference .window, .fixed " : ", .reference .outerGlobal, .fixed ");"]

theorem text_named (naming : Referent → Text) (depth : Nat) (scripts : List Named) :
    (named depth scripts).text naming = indentation depth ++ (scripts.flatMap (Script.text naming) ++ ['\n']) := by
  rw [named, text_concat, List.flatMap_cons, List.flatMap_append]
  rfl

/-- The steps have the text of the script, and leave the depth as it is. -/
structure Shows (naming : Referent → Text) (depth : Nat) (steps : List Step) (script : Named) : Prop where
  text : render depth steps = script.text naming
  level : depthAfter depth steps = depth

namespace Shows

variable {naming : Referent → Text} {depth : Nat}

theorem nil : Shows naming depth [] .empty := ⟨rfl, rfl⟩

theorem of_eq {steps other : List Step} {script : Named} (shown : Shows naming depth other script)
    (same : steps = other) : Shows naming depth steps script := same ▸ shown

theorem append {first second : List Step} {left right : Named} (shown : Shows naming depth first left)
    (others : Shows naming depth second right) :
    Shows naming depth (first ++ second) (.sequence left right) where
  text := by
    rw [render_append, shown.level, shown.text, others.text]
    rfl
  level := by
    have whole : depthAfter depth (first ++ second) = depthAfter (depthAfter depth first) second :=
      List.foldl_append
    rw [whole, shown.level, others.level]

theorem line {text : Text} {scripts : List Named}
    (shown : text = scripts.flatMap (Script.text naming)) :
    Shows naming depth [.line text] (named depth scripts) where
  text := by
    rw [text_named, shown]
    simp [render, Step.textAt]
  level := rfl

theorem cons {text : Text} {scripts : List Named} {rest : List Step} {script : Named}
    (shown : text = scripts.flatMap (Script.text naming)) (others : Shows naming depth rest script) :
    Shows naming depth (.line text :: rest) (.sequence (named depth scripts) script) :=
  (line shown).append others

theorem embed (source : Source) :
    Shows naming depth [.embed source] (.embedded source.content.terminated) :=
  ⟨List.append_nil _, rfl⟩

theorem indented {steps : List Step} {script : Named} (shown : Shows naming (depth + 1) steps script) :
    Shows naming depth (.indent :: (steps ++ [.outdent])) script where
  text := by
    have whole : render depth (.indent :: (steps ++ [.outdent])) = render (depth + 1) (steps ++ [.outdent]) := rfl
    rw [whole, render_append, shown.text]
    exact List.append_nil _
  level := by
    have whole : depthAfter depth (.indent :: (steps ++ [.outdent])) =
        (depthAfter (depth + 1) steps) - 1 := by
      simp [depthAfter, Step.depthAfter]
    rw [whole, shown.level, Nat.add_sub_cancel]

theorem flatMap {α : Type} {items : List α} {steps : α → List Step} {script : α → Named}
    (shown : ∀ item ∈ items, Shows naming depth (steps item) (script item)) :
    Shows naming depth (items.flatMap steps) (concat (items.map script)) := by
  induction items with
  | nil => exact nil
  | cons item rest induction =>
      rw [List.flatMap_cons]
      exact (shown item List.mem_cons_self).append
        (induction fun other member => shown other (List.mem_cons_of_mem item member))

theorem lines {α : Type} {items : List α} {text : α → Text} {scripts : α → List Named}
    (shown : ∀ item ∈ items, text item = (scripts item).flatMap (Script.text naming)) :
    Shows naming depth (items.map fun item => .line (text item))
      (concat (items.map fun item => named depth (scripts item))) := by
  rw [← List.flatMap_singleton' (items.map _), List.flatMap_map]
  exact flatMap fun item member => line (shown item member)

end Shows

section Parts

variable (options : Options) {depth : Nat}

theorem shows_setup : Shows options.naming 0 (setup options) (namedSetup options) := by
  refine .cons ?_ (.cons ?_ (.cons ?_ .nil))
  · simp only [List.append_assoc]
    rfl
  · simp only [List.append_assoc]
    rfl
  · simp only [List.append_assoc]
    rfl

theorem shows_marked {naming : Referent → Text} {label : Text} {steps : List Step} {inner : Named}
    (shown : Shows naming 0 steps inner) :
    Shows naming 0 (marked label steps) (namedMarked label inner) := by
  refine .cons ?_ (shown.append (.cons ?_ .nil))
  · rw [List.flatMap_singleton]
    rfl
  · rw [List.flatMap_singleton]
    rfl

/-- Lines that begin and end a function, around lines of their own. -/
theorem shows_function {naming : Referent → Text} {steps : List Step} {inner : Named}
    (shown : Shows naming depth steps inner) {first last : Text} {before after : List Named}
    {parameters : List Referent}
    (opens : first = before.flatMap (Script.text naming) ++
      ("function (" ++ (Text.joinWith ", " (parameters.map naming) ++ ") \x7b")))
    (closes : last = '\x7d' :: after.flatMap (Script.text naming)) :
    Shows naming depth (.line first :: (steps ++ [.line last]))
      (named depth (before ++ namedFunction depth parameters inner :: after)) where
  text := by
    have body : (concat [.fixed "\n", inner, .blank (4 * depth)] : Named).text naming =
        '\n' :: (inner.text naming ++ indentation depth) := by
      rw [text_concat, List.flatMap_cons, List.flatMap_cons, List.flatMap_singleton]
      rfl
    have shape : (namedFunction depth parameters inner).text naming =
        "function (" ++ (Text.joinWith ", " (parameters.map naming) ++ (") \x7b" ++
          ('\n' :: (inner.text naming ++ (indentation depth ++ ['\x7d']))))) := by
      unfold namedFunction
      rw [text_function, body]
      unfold functionText
      simp only [List.append_assoc, List.cons_append]
    have start : render depth [.line first] = indentation depth ++ (first ++ ['\n']) := by
      simp [render, Step.textAt]
    have finish : render depth [.line last] = indentation depth ++ (last ++ ['\n']) := by
      simp [render, Step.textAt]
    have whole : render depth (.line first :: (steps ++ [.line last])) =
        render depth [.line first] ++ (render depth steps ++ render (depthAfter depth steps) [.line last]) := by
      rw [← List.singleton_append, render_append, render_append]
      rfl
    -- The function begins and ends within a line, so that both sides are compared as flat appends.
    rw [whole, shown.level, start, finish, shown.text, opens, closes, text_named, List.flatMap_append,
      List.flatMap_cons, shape]
    simp only [List.append_assoc, List.cons_append, List.nil_append]
  level := by
    have whole : depthAfter depth (.line first :: (steps ++ [.line last])) = depthAfter depth steps := by
      simp [depthAfter, Step.depthAfter]
    rw [whole, shown.level]

theorem shows_fragmentBlock (naming : Referent → Text) (isolated : Bool) (fragment : Source) :
    Shows naming 0 (fragmentBlock isolated fragment) (namedFragment isolated fragment) := by
  refine shows_marked ?_
  cases isolated with
  | false => exact .embed fragment
  | true =>
      rw [if_pos rfl, if_pos rfl]
      exact @shows_function _ naming [.embed fragment] _ (.embed fragment) _ _ [.fixed "("] [.fixed ")();"]
        _ rfl rfl

theorem shows_initRoutine (isolated : Bool) (fragments : List Source) :
    Shows options.naming 0 (initRoutine isolated fragments) (namedInit isolated fragments) := by
  have blocks : Shows options.naming 0 (fragments.flatMap (fragmentBlock isolated))
      (concat (fragments.map (namedFragment isolated))) :=
    .flatMap fun fragment _ => shows_fragmentBlock options.naming isolated fragment
  exact @shows_function _ options.naming _ _ blocks _ _
    [.fixed "var ", .declaration .init, .fixed " = "] [.fixed ";"] _ rfl rfl

def bundleSteps (text : Text) : List Step :=
  .line ("var " ++ requireName ++ " = (function () \x7b") ::
    ([.line "var require;", .splice text.closed, .line "return require;"] ++ [.line "\x7d)();"])

theorem render_around_splice (first second third last text : Text) :
    render 0 (.line first :: ([.line second, .splice text, .line third] ++ [.line last])) =
      (first ++ ['\n']) ++ (second ++ ['\n']) ++ text ++ (third ++ ['\n']) ++ (last ++ ['\n']) := by
  simp [render, Step.textAt, Step.depthAfter, indentation]

theorem render_bundleSteps (text : Text) : render 0 (bundleSteps text) = wrapBundle text := by
  -- The lines are variables in there: rendering their characters one by one takes too long.
  refine (render_around_splice _ _ _ _ _).trans ?_
  unfold wrapBundle
  rfl

theorem shows_bundleSteps (text : Text) :
    Shows options.naming 0 (bundleSteps text) (namedBundle (some text)) := by
  have declared : Shows options.naming 0 [.line "var require;"]
      (named 0 [.fixed "var ", .declaration .innerRequire, .fixed ";"]) := .line rfl
  have inner : Shows options.naming 0 [.splice text.closed] (.embedded text.closed) :=
    ⟨List.append_nil _, rfl⟩
  have returned : Shows options.naming 0 [.line "return require;"]
      (named 0 [.fixed "return ", .reference .innerRequire, .fixed ";"]) := .line rfl
  exact @shows_function 0 options.naming _ _ (declared.append (inner.append (returned.append .nil))) _ _
    [.fixed "var ", .declaration .bundleRequire, .fixed " = ("] [.fixed ")();"] [] rfl rfl

theorem shows_bundlePart (bundle : Option Text) :
    Shows options.naming 0 (bundlePart bundle) (namedBundle bundle) := by
  cases bundle with
  | none => exact .nil
  | some text =>
      refine ⟨?_, rfl⟩
      rw [← (shows_bundleSteps options text).text, render_bundleSteps]
      exact List.append_nil _

theorem text_namedSubscript (naming : Referent → Text) (segment : Text) :
    (namedSubscript segment).text naming = '[' :: (Json.stringLiteral segment ++ [']']) := rfl

theorem text_namedAccess (access : Access) :
    (namedAccess access).text options.naming = access.render := by
  cases access with
  | global segments =>
      have shape : (namedAccess (.global segments)).text options.naming =
          globalName ++ (concat (segments.map namedSubscript)).text options.naming := rfl
      rw [shape, text_concat, List.flatMap_map]
      rfl
  | bundled package => rfl
  | parameter index => rfl

theorem shows_assignmentLines (branch : Branch) :
    Shows options.naming depth (assignmentLines options branch) (namedAssignments depth options branch) := by
  refine .lines fun assignment _ => ?_
  simp only [List.flatMap_cons, List.flatMap_nil, Script.text, text_namedAccess, Assignment.render,
    List.append_assoc, List.append_nil]
  rfl

theorem text_namedQuotes (naming : Referent → Text) (texts : List Text) :
    (namedQuotes texts).text naming = Text.joinWith ", " (texts.map Json.stringLiteral) := by
  induction texts with
  | nil => rfl
  | cons text rest induction =>
      cases rest with
      | nil => rfl
      | cons next others =>
          rw [List.map_cons, Text.joinWith_cons (by simp), ← induction]
          simp only [namedQuotes, text_concat, List.flatMap_cons, List.flatMap_nil, Script.text,
            List.append_nil, List.append_assoc]

theorem shows_definition {name : Text} {modules : List Text} {parameters : List Referent}
    {handler : List Step} {inner : Named} (shown : Shows options.naming 2 handler inner) :
    Shows options.naming 1
      (definition name modules (parameters.map options.naming) handler)
      (namedDefinition name modules parameters inner) := by
  have shape : definition name modules (parameters.map options.naming) handler =
      .line ("modules.define(" ++ Json.stringLiteral name ++ ", [" ++
        Text.joinWith ", " (modules.map Json.stringLiteral) ++ "], function (" ++
        Text.joinWith ", " ((Referent.provide :: parameters).map options.naming) ++ ") \x7b") ::
        ((.indent :: (handler ++ [.outdent])) ++ [.line "\x7d);"]) := by
    rw [List.cons_append, List.append_assoc handler]
    rfl
  rw [shape]
  refine @shows_function _ options.naming _ _ shown.indented _ _
    [.reference .modules, .property "define", .fixed "(", .quoted name, .fixed ", [",
      namedQuotes modules, .fixed "], "] [.fixed ");"] _ ?_ rfl
  simp only [List.flatMap_cons, List.flatMap_nil, Script.text, text_namedQuotes, List.append_assoc, List.append_nil]
  rfl

theorem shows_callInit : Shows options.naming depth [callInit] (namedCallInit depth) := .line rfl

theorem shows_lowerFlag : Shows options.naming depth [lowerFlag] (namedLowerFlag depth) := .line rfl

theorem shows_publications {object : Referent} {root : Text} (named : options.naming object = root)
    (names : List Text) :
    Shows options.naming depth
      (names.map fun name => .line (subscriptChain root [name] ++ " = " ++ options.runtimeVar ++ ";"))
      (concat (names.map fun name => Emission.named depth
        [.reference object, namedSubscript name, .fixed " = ", .reference .runtime, .fixed ";"])) := by
  refine .lines fun name _ => ?_
  simp only [subscriptChain, List.flatMap_cons, List.flatMap_nil, text_namedSubscript, Script.text, named,
    List.append_assoc, List.append_nil]
  rfl

theorem map_naming_parameters (count : Nat) :
    ((List.range count).map Referent.parameter).map options.naming = parameterNames count := List.map_map

theorem shows_namedModuleBranch :
    Shows options.naming 0 (namedModuleBranch options) (namedModuleScript options) := by
  have opened : Shows options.naming 0 [.line "if (typeof modules === \"object\") \x7b"]
      (named 0 [.fixed "if (typeof ", .reference .modules, .fixed " === ", .quoted "object",
        .fixed ") \x7b"]) := .line rfl
  have provided : Shows options.naming 2 [.line (provideName ++ "(" ++ options.runtimeVar ++ ");")]
      (named 2 [.reference .provide, .fixed "(", .reference .runtime, .fixed ");"]) := by
    refine .line ?_
    simp only [List.append_assoc]
    rfl
  have handler := (shows_assignmentLines options .namedModule).append
    ((shows_callInit options).append (provided.append .nil))
  have canonical := @shows_definition options options.exportName
    ((Resolution.namedModules options.requires).map Prod.snd)
    ((List.range ((Resolution.namedModules options.requires).map Prod.snd).length).map .parameter)
    _ _ handler
  rw [map_naming_parameters] at canonical
  have aliases : Shows options.naming 1
      (options.effectiveAliases.flatMap fun name =>
        definition name [options.exportName] ["runtime"] [.line (provideName ++ "(runtime);")])
      (concat (options.effectiveAliases.map fun name =>
        namedDefinition name [options.exportName] [.aliased]
          (named 2 [.reference .provide, .fixed "(", .reference .aliased, .fixed ");"]))) := by
    refine .flatMap fun name _ => ?_
    exact @shows_definition options name [options.exportName] [.aliased] _ _ (.line rfl)
  have inner := canonical.append (aliases.append ((shows_lowerFlag options).append .nil))
  refine Shows.of_eq (opened.append (inner.indented.append .nil)) ?_
  simp only [namedModuleBranch, List.append_assoc, List.cons_append, List.nil_append, List.append_nil]

theorem shows_commonJsBranch :
    Shows options.naming 0 (commonJsBranch options) (commonJsScript options) := by
  have opened : Shows options.naming 0 [.line "\x7d else if (typeof exports === \"object\") \x7b"]
      (named 0 [.fixed "\x7d else if (typeof ", .reference .exports, .fixed " === ", .quoted "object",
        .fixed ") \x7b"]) := .line rfl
  have aliases := @shows_publications options 1 .runtime options.runtimeVar rfl options.effectiveAliases
  have exported : Shows options.naming 1 [.line ("module.exports = " ++ options.runtimeVar ++ ";")]
      (named 1 [.reference .module, .property "exports", .fixed " = ", .reference .runtime, .fixed ";"]) := by
    refine .line ?_
    simp only [List.append_assoc]
    rfl
  have closed : Shows options.naming 0 [.line "\x7d"] (named 0 [.fixed "\x7d"]) := .line rfl
  have inner := (shows_assignmentLines options .commonJs).append ((shows_callInit options).append
    (aliases.append (exported.append ((shows_lowerFlag options).append .nil))))
  refine Shows.of_eq (opened.append (inner.indented.append (closed.append .nil))) ?_
  simp only [commonJsBranch, List.append_assoc, List.cons_append, List.nil_append, List.append_nil]

theorem shows_plainBranch : Shows options.naming 0 (plainBranch options) (plainScript options) := by
  have opened : Shows options.naming 0 [.line ("if (" ++ flagName ++ ") \x7b")]
      (named 0 [.fixed "if (", .reference .flag, .fixed ") \x7b"]) := .line rfl
  have names := @shows_publications options 1 .ambient globalName rfl
    (options.exportName :: options.effectiveAliases)
  have closed : Shows options.naming 0 [.line "\x7d"] (named 0 [.fixed "\x7d"]) := .line rfl
  have inner := (shows_assignmentLines options .plain).append
    ((shows_callInit options).append (names.append .nil))
  refine Shows.of_eq (opened.append (inner.indented.append (closed.append .nil))) ?_
  simp only [plainBranch, List.append_assoc, List.cons_append, List.nil_append, List.append_nil]

theorem shows_closure (core : Source) (fragments : List Source) (bundle : Option Text) :
    Shows options.naming 0
      (coreBlock core ++ setup options ++ initRoutine options.scopeTemplates fragments ++
        exportsPart options bundle) (closureScript options core fragments bundle) := by
  have coreShown : Shows options.naming 0 (coreBlock core)
      (namedMarked core.label (.embedded core.content.terminated)) := shows_marked (.embed core)
  have raised : Shows options.naming 0 [.line ("var " ++ flagName ++ " = true;")]
      (named 0 [.fixed "var ", .declaration .flag, .fixed " = true;"]) := .line rfl
  have branches := (shows_namedModuleBranch options).append ((shows_commonJsBranch options).append
    ((shows_plainBranch options).append .nil))
  refine Shows.of_eq (coreShown.append ((shows_setup options).append
    ((shows_initRoutine options options.scopeTemplates fragments).append (raised.append
      ((shows_bundlePart options bundle).append branches))))) ?_
  simp only [exportsPart_eq, List.append_assoc, List.append_nil]

theorem shows_moduleSteps (core : Source) (fragments : List Source) (bundle : Option Text) :
    Shows options.naming 0 (moduleSteps options core fragments bundle)
      (moduleScript options core fragments bundle) := by
  have around := @shows_function 0 options.naming _ _ (shows_closure options core fragments bundle)
    "(function (global) \x7b" "\x7d)(typeof window !== \"undefined\" ? window : global);"
    [.fixed "("] [.fixed ")(typeof ", .reference .window, .fixed " !== ", .quoted "undefined", .fixed " ? ",
      .reference .window, .fixed " : ", .reference .outerGlobal, .fixed ");"] [.ambient] rfl rfl
  refine Shows.of_eq around ?_
  simp only [moduleSteps, List.append_assoc, List.cons_append, List.nil_append]

end Parts

end Emission

end UniversalModule
