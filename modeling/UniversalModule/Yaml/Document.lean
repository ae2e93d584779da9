import UniversalModule.Yaml.ScalarValue

/-!
Documents whose aliases can be followed. Only so many aliases may be followed as the document has
scalars, aliases and ends of collections, a hundred times; so a small text has no huge value.
-/

namespace UniversalModule.Yaml

namespace Node

mutual

/-- The nodes with anchors, by their numbers. -/
def anchored : Node → List (Nat × Node)
  | .reference _ => []
  | .scalar properties text style =>
      properties.anchor.toList.map fun number => (number, .scalar properties text style)
  | .sequence properties items =>
      (properties.anchor.toList.map fun number => (number, .sequence properties items)) ++
        anchoredItems items
  | .mapping properties members =>
      (properties.anchor.toList.map fun number => (number, .mapping properties members)) ++
        anchoredMembers members

def anchoredItems : List Node → List (Nat × Node)
  | [] => []
  | item :: rest => anchored item ++ anchoredItems rest

def anchoredMembers : List (Node × Node) → List (Nat × Node)
  | [] => []
  | (key, value) :: rest => anchored key ++ anchored value ++ anchoredMembers rest

end

mutual

/-- Scalars, aliases and both ends of collections. -/
def size : Node → Nat
  | .reference _ => 1
  | .scalar _ _ _ => 1
  | .sequence _ items => 2 + sizeItems items
  | .mapping _ members => 2 + sizeMembers members

def sizeItems : List Node → Nat
  | [] => 0
  | item :: rest => size item + sizeItems rest

def sizeMembers : List (Node × Node) → Nat
  | [] => 0
  | (key, value) :: rest => size key + size value + sizeMembers rest

end

end Node

structure Document where
  root : Node
  anchored : Keyed Nat Node

/-- What can fail, and uses up references that may be followed. -/
abbrev Attempt := StateT Nat Option

namespace Document

def ofNode (root : Node) : Document := ⟨root, Keyed.ofList root.anchored⟩

/-- The document of a text; an empty text has an empty one. -/
def ofText? (text : Text) : Option Document :=
  (Node.ofText? text).map fun root => ofNode (root.getD .empty)

def allowance (document : Document) : Nat := 100 * document.root.size

/-- The node that is meant by an alias, or the node itself. -/
def follow (document : Document) (node : Node) : Attempt Node :=
  match node with
  | .reference number => do
      let left ← get
      if left = 0 then failure
      else
        set (left - 1)
        (document.anchored.get? number : Option Node)
  | node => pure node

def text? : Node → Option Text
  | .scalar _ text _ => some text
  | _ => none

/-- The value of a node where nothing says what it should be; containers are nested at most as
deep as given. -/
def value (document : Document) : Nat → Node → Attempt Json.Value
  | depth, node => do
      match ← document.follow node, depth with
      | .scalar properties text style, _ => (scalarValue? properties.tag text style : Option Json.Value)
      | .sequence properties items, depth + 1 =>
          if isForeign properties.tag then failure
          else return .array (← items.mapM (value document depth))
      | .mapping properties members, depth + 1 =>
          if isForeign properties.tag then failure
          else
            let members ← members.mapM fun member => do
              let key ← (text? (← document.follow member.1) : Option Text)
              return (key, ← value document depth member.2)
            return .object (Keyed.ofList members)
      | _, _ => failure

end Document

end UniversalModule.Yaml
