import FacetSearch.Entries
import FacetSearch.Yaml.Tag

namespace FacetSearch.Yaml

/-!
# Nodes of YAML documents

A document is a tree of nodes.  A node may be marked with an anchor, and an
alias stands for a marked node somewhere in the document, possibly one that the
alias lies within.
-/

/-- What may be written in front of a node. -/
structure Properties where
  /-- The number of its anchor. -/
  anchor : Option Nat
  tag : Option Tag
  deriving DecidableEq, Repr, Inhabited

/-- A node as written. -/
inductive Node where
  | alias (anchor : Nat)
  | scalar (properties : Properties) (text : String) (isPlain : Bool)
  | sequence (properties : Properties) (items : List Node)
  | mapping (properties : Properties) (members : List (Node × Node))
  deriving Repr, Inhabited

namespace Node

/-- A scalar that is not written at all. -/
def unwritten : Node :=
  .scalar { anchor := none, tag := none } "" true

mutual
/-- The number of marks in a node: one for a scalar or an alias, two around a collection. -/
def marks : Node → Nat
  | .alias _ => 1
  | .scalar _ _ _ => 1
  | .sequence _ items => itemMarks items + 2
  | .mapping _ members => memberMarks members + 2

/-- The number of marks in the items of a sequence. -/
def itemMarks : List Node → Nat
  | [] => 0
  | item :: rest => marks item + itemMarks rest

/-- The number of marks in the members of a mapping. -/
def memberMarks : List (Node × Node) → Nat
  | [] => 0
  | (key, value) :: rest => marks key + marks value + memberMarks rest
end

/-- Put a node in front of the anchored ones if it has an anchor. -/
def anchorIn
    (properties : Properties)
    (node : Node)
    (anchored : List (Nat × Node)) :
    List (Nat × Node) :=
  match properties.anchor with
  | none => anchored
  | some number => (number, node) :: anchored

mutual
/-- Put the anchored nodes of a node in front of others, those that start later first. -/
def anchoredIn : Node → List (Nat × Node) → List (Nat × Node)
  | .alias _, anchored => anchored
  | .scalar properties text isPlain, anchored =>
      anchorIn properties (.scalar properties text isPlain) anchored
  | .sequence properties items, anchored =>
      itemsAnchoredIn items (anchorIn properties (.sequence properties items) anchored)
  | .mapping properties members, anchored =>
      membersAnchoredIn members (anchorIn properties (.mapping properties members) anchored)

/-- Put the anchored nodes of items in front of others. -/
def itemsAnchoredIn : List Node → List (Nat × Node) → List (Nat × Node)
  | [], anchored => anchored
  | item :: rest, anchored => itemsAnchoredIn rest (anchoredIn item anchored)

/-- Put the anchored nodes of members in front of others. -/
def membersAnchoredIn : List (Node × Node) → List (Nat × Node) → List (Nat × Node)
  | [], anchored => anchored
  | (key, value) :: rest, anchored =>
      membersAnchoredIn rest (anchoredIn value (anchoredIn key anchored))
end

end Node

/-- A document. -/
structure Document where
  root : Node
  /-- The anchored nodes, those that start later first. -/
  anchored : List (Nat × Node)
  deriving Repr, Inhabited

namespace Document

/-- The document of a node. -/
def ofRoot (root : Node) : Document where
  root := root
  anchored := root.anchoredIn []

/-- The node that an alias stands for: of all nodes with its anchor the last one. -/
def target?
    (document : Document)
    (anchor : Nat) :
    Option Node :=
  Entries.lookup? anchor document.anchored

/-- The number of aliases that may be passed in reading a document. -/
def aliasLimit (document : Document) : Nat :=
  document.root.marks * 100

end Document

end FacetSearch.Yaml
