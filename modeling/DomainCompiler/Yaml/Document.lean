import DomainCompiler.Yaml.Node.Merge
import DomainCompiler.Yaml.Node.Reader
import DomainCompiler.Yaml.Part
import DomainCompiler.Yaml.Scalar

/-!
# The value of a document

Nodes become values by their tags. A scalar is built where it is met; a collection is met first
and built when its turn comes, after those that were met before it. So of two faults the one that
lies less deep counts.
-/

namespace DomainCompiler.Yaml

namespace Tag

def isCollection : Tag → Bool
  | .list | .map | .set | .orderedMap | .pairs => true
  | _ => false

def isScalar : Tag → Bool
  | .null | .bool | .int | .float | .timestamp | .binary | .text => true
  | _ => false

end Tag

namespace Nodes

/--
The text of a scalar, for which a mapping may stand by a key of its own. The first argument bounds
the number of mappings that stand for each other.
-/
def scalarTextWithin (nodes : Nodes) : Nat → Site → Except Fault String
  | 0, _ => .error .endless
  | fuel + 1, site =>
    match nodes.get site with
    | .scalar _ text => .ok text
    | .sequence .. => .error (.malformed .kind)
    | .mapping _ entries =>
      match entries.find? fun e => (nodes.get e.1).tag == .default with
      | some e => scalarTextWithin nodes fuel e.2
      | none => .error (.malformed .kind)

def scalarText (nodes : Nodes) (site : Site) : Except Fault String :=
  nodes.scalarTextWithin (nodes.size + 1) site

/-- The scalar at a site; a date is only taken from the text of the node itself. -/
def scalarPart (nodes : Nodes) (site : Site) : Except Fault Part := do
  let n := nodes.get site
  if !n.tag.isScalar then throw (.malformed .tagUnknown)
  let text ← nodes.scalarText site
  match n, n.tag with
  | .mapping .., .timestamp => Scalar.fails .notText
  | _, tag =>
    let v ← Scalar.read tag site text
    return .scalar v (Scalar.isAlone text v)

end Nodes

/-- What was built of a document so far. -/
structure Building where
  nodes : Nodes
  /-- The number of entries of all mappings, of which some are merge keys. -/
  entryCount : Nat
  parts : Parts
  /-- The sites of the collections that were met, in this order. -/
  met : Array Site

abbrev Builder (α : Type) := StateT Building (Except Fault) α

namespace Builder

def fails {α : Type} (rule : Malformed) : Builder α :=
  throw (.malformed rule)

def nodeAt (site : Site) : Builder Node := do
  return (← get).nodes.get site

def put (site : Site) (part : Part) : Builder Unit :=
  modify fun b => { b with parts := b.parts.setIfInBounds site (some part) }

/-- Meets the node at a site, which counts the first time only. -/
def meet (site : Site) : Builder Unit := do
  let b ← get
  if (b.parts[site]?.join).isSome then return
  if (b.nodes.get site).tag.isCollection then
    put site (.list [])
    modify fun b => { b with met := b.met.push site }
  else
    put site (← b.nodes.scalarPart site)

/-- Meets a key, which is no collection, and its value. -/
def meetEntry (e : Entry) : Builder Unit := do
  meet e.1
  if (← nodeAt e.1).tag.isCollection then fails .key
  meet e.2

/-- The only entry of each of the mappings at the sites. -/
def meetPairs : List Site → Builder (List Entry)
  | [] => return []
  | site :: rest => do
    match ← nodeAt site with
    | .mapping _ [e] =>
      meet e.1
      meet e.2
      return e :: (← meetPairs rest)
    | _ => fails .kind

/-- The entries of the mapping at the site with the merged ones, all of them met. -/
def meetEntries (site : Site) : Builder (List Entry) := do
  let b ← get
  let (entries, nodes) ← (Rewriter.flattened (b.entryCount + 1) site).run b.nodes
  set { b with nodes }
  entries.forM meetEntry
  return (← get).parts.distinct entries

/-- Builds the collection at the site. -/
def build (site : Site) : Builder Unit := do
  let n ← nodeAt site
  match n.tag, n with
  | .list, .sequence _ items =>
    items.forM meet
    put site (.list items)
  | .orderedMap, .sequence _ items => put site (.pairs (← meetPairs items))
  | .pairs, .sequence _ items => put site (.pairs (← meetPairs items))
  | .map, .mapping .. => put site (.map (← meetEntries site))
  | .set, .mapping .. => put site (.set ((← meetEntries site).map (·.1)))
  | _, _ => fails .kind

/-- Builds the collections that were met from the given one on; every site is met once. -/
def buildFrom : Nat → Nat → Builder Unit
  | 0, _ => return
  | sites + 1, first => do
    match (← get).met[first]? with
    | some site =>
      build site
      buildFrom sites (first + 1)
    | none => return

end Builder

/-- The value of a document. -/
def Graph.value (g : Graph) : Except Fault Value := do
  let start : Building := ⟨g.nodes, g.nodes.entryCount, g.nodes.map fun _ => none, #[]⟩
  let build : Builder Unit := do
    Builder.meet g.root
    Builder.buildFrom g.nodes.size 0
  let (_, b) ← build.run start
  return b.parts.valueAt g.root

/-- The value of a text, none where it holds no document. -/
def Document.ofText (text : List Char) : Except Fault (Option Value) := do
  match ← Graph.ofText text with
  | some g => g.value.map some
  | none => return none

end DomainCompiler.Yaml
