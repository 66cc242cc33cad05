import DomainCompiler.Yaml.Fault
import DomainCompiler.Yaml.Node

/-!
# Merged entries

A merge key stands for the entries of other mappings, which come in front of the own ones. A
mapping is flattened once, when its value is asked for, and keeps the entries that it then has;
where mappings merge each other, each takes what the other has at that time.
-/

namespace DomainCompiler.Yaml

abbrev Rewriter (α : Type) := StateT Nodes (Except Fault) α

namespace Rewriter

/-- The first merged node among entries, and the entries without its own. -/
def firstMerge (nodes : Nodes) : List Entry → Option (Site × List Entry)
  | [] => none
  | (key, value) :: rest =>
    if (nodes.get key).tag == .merge then some (value, rest)
    else (firstMerge nodes rest).map fun found => (found.1, (key, value) :: found.2)

/-- A key that would stand for its mapping elsewhere is a text in a mapping. -/
def asText (nodes : Nodes) (key : Site) : Nodes :=
  let n := nodes.get key
  if n.tag == .default then nodes.put key (n.retagged .text) else nodes

/-- The entries of the mappings at the sites, those of the last one first. -/
def mergedAll (flattened : Site → Rewriter (List Entry)) : List Site → Rewriter (List Entry)
  | [] => return []
  | site :: rest => do
    match (← get).get site with
    | .mapping .. =>
      let entries ← flattened site
      return (← mergedAll flattened rest) ++ entries
    | _ => throw (.malformed .merge)

/-- The entries that a merge key with the value stands for; of several mappings the first counts. -/
def merged (flattened : Site → Rewriter (List Entry)) (source : Site) : Rewriter (List Entry) := do
  match (← get).get source with
  | .mapping .. => flattened source
  | .sequence _ items => mergedAll flattened items
  | .scalar .. => throw (.malformed .merge)

def setEntries (site : Site) (entries : List Entry) : Rewriter Unit :=
  modify fun nodes => nodes.put site (.mapping (nodes.get site).tag entries)

/--
The entries of the mapping at the site once it is flattened. The first argument is more than there
are merge keys; each is taken out of its mapping before the mappings that it names are flattened.
-/
def flattened : Nat → Site → Rewriter (List Entry)
  | 0, _ => throw .endless
  | fuel + 1, site => do
    let nodes ← get
    let own := (nodes.get site).entries
    match firstMerge nodes own with
    | none =>
      modify fun nodes => own.foldl (fun nodes e => asText nodes e.1) nodes
      return own
    | some (source, rest) =>
      setEntries site rest
      let before ← merged (flattened fuel) source
      let entries := before ++ (← flattened fuel site)
      setEntries site entries
      return entries

end Rewriter

end DomainCompiler.Yaml
