import FacetSearch.Yaml.Basic
import FacetSearch.Yaml.Node

namespace FacetSearch.Yaml

/-!
# Passing aliases

A reader wants a tree without aliases, but an alias may stand for a node that
it lies within, and few aliases can stand for a very large tree.  So only those
parts of a document are expanded that the reader looks at, and only so many
aliases are passed on the way.
-/

/-- The parts of a node that a reader looks at. -/
inductive Shape where
  /-- A text or a choice. -/
  | scalar
  | sequence (item : Shape)
  /-- A mapping with any names. -/
  | mapping (value : Shape)
  /-- A mapping of which the members of certain names count. -/
  | record (members : List (List String × Shape))
  deriving Repr, Inhabited

/-- A step that passes aliases; the state is how many more may be passed. -/
abbrev Passing := StateT Nat Option

/-- Go from an alias to the node that it stands for; stay at any other node. -/
def Document.pass?
    (document : Document) :
    Node → Passing Node
  | .alias anchor => fun
      | 0 => none
      | left + 1 => (document.target? anchor).map (·, left)
  | node => pure node

/-- The text of a key. -/
def Document.keyText?
    (document : Document)
    (key : Node) :
    Passing String := do
  match ← document.pass? key with
  | .scalar _ text _ => pure text
  | _ => failure

mutual
/-- Expand a node as far as a shape goes; a collection has to have that shape. -/
def Document.expand?
    (document : Document) :
    Shape → Node → Passing Yaml
  | .scalar, node => do
      match ← document.pass? node with
      | .scalar properties text isPlain => pure (.scalar properties.tag text isPlain)
      | _ => failure
  | .sequence item, node => do
      match ← document.pass? node with
      | .scalar properties text isPlain => pure (.scalar properties.tag text isPlain)
      | .sequence _ items => do
          pure (.sequence (← items.mapM fun node => document.expand? item node))
      | _ => failure
  | .mapping value, node => do
      match ← document.pass? node with
      | .scalar properties text isPlain => pure (.scalar properties.tag text isPlain)
      | .mapping _ members => do
          pure (.mapping (← members.mapM fun member => do
            let name ← document.keyText? member.1
            pure (name, ← document.expand? value member.2)))
      | _ => failure
  | .record shapes, node => do
      match ← document.pass? node with
      | .scalar properties text isPlain => pure (.scalar properties.tag text isPlain)
      | .mapping _ members => do
          let named ← members.mapM fun member => do
            let name ← document.keyText? member.1
            document.expandMember? name shapes member.2
          pure (.mapping (named.filterMap id))
      | _ => failure

/-- Expand the member of a name in a shape that the name has among others, if any. -/
def Document.expandMember?
    (document : Document)
    (name : String) :
    List (List String × Shape) → Node → Passing (Option (String × Yaml))
  | [], _ => pure none
  | (names, shape) :: rest, value =>
      if names.contains name then do pure (some (name, ← document.expand? shape value))
      else document.expandMember? name rest value
end

/-- The tree without aliases that a reader of some shape looks at. -/
def Document.tree?
    (document : Document)
    (shape : Shape) :
    Option Yaml :=
  (document.expand? shape document.root document.aliasLimit).map (·.1)

end FacetSearch.Yaml
