import DomainCompiler.Yaml.Tag

/-!
# Nodes of documents

A node is a scalar or a collection with a tag. The nodes of a document stand at sites, and a
collection names the sites of its parts: an alias is one more mention of a site, and a collection
may be a part of itself.
-/

namespace DomainCompiler.Yaml

abbrev Site := Nat

abbrev Entry := Site × Site

inductive Node where
  | scalar (tag : Tag) (text : String)
  | sequence (tag : Tag) (items : List Site)
  | mapping (tag : Tag) (entries : List Entry)
  deriving DecidableEq, Repr

namespace Node

def empty : Node := .scalar .null ""

def tag : Node → Tag
  | .scalar t _ => t
  | .sequence t _ => t
  | .mapping t _ => t

def retagged (t : Tag) : Node → Node
  | .scalar _ text => .scalar t text
  | .sequence _ items => .sequence t items
  | .mapping _ entries => .mapping t entries

@[simp] theorem tag_retagged (t : Tag) (n : Node) : (n.retagged t).tag = t := by
  cases n <;> rfl

/-- The entries of a mapping; other nodes have none. -/
def entries : Node → List Entry
  | .mapping _ es => es
  | _ => []

end Node

abbrev Nodes := Array Node

namespace Nodes

def get (nodes : Nodes) (site : Site) : Node :=
  nodes[site]?.getD .empty

def put (nodes : Nodes) (site : Site) (n : Node) : Nodes :=
  nodes.setIfInBounds site n

def entryCount (nodes : Nodes) : Nat :=
  nodes.foldl (fun count n => count + n.entries.length) 0

end Nodes

/-- A document: its nodes, and the site of the outermost one. -/
structure Graph where
  nodes : Nodes
  root : Site

end DomainCompiler.Yaml
