import DomainCompiler.Yaml.Node
import DomainCompiler.Yaml.Scan

/-!
# Reading nodes

The nodes of a document are read from its tokens. A node has its site before its parts are read,
so that an alias inside a collection can mean the collection.
-/

namespace DomainCompiler.Yaml

/-- What the reader of nodes holds: the tokens that remain and what was named so far. -/
structure Reading where
  tokens : List Token
  /-- The fault of the text behind the tokens. -/
  fault : Option Fault
  /-- The sites of the named nodes. -/
  anchors : List (String × Site)
  handles : List (String × String)
  /-- The nodes, empty ones at the sites of those that are still being read. -/
  nodes : Nodes
  /-- How many collections are being read. -/
  depth : Nat

abbrev Reader (α : Type) := StateT Reading (Except Fault) α

namespace Reader

def fails {α : Type} (rule : Malformed) : Reader α :=
  throw (.malformed rule)

/-- The next token, none at the end of the text. -/
def peek : Reader (Option Token) := do
  let s ← get
  match s.tokens, s.fault with
  | t :: _, _ => return some t
  | [], some f => throw f
  | [], none => return none

def skip : Reader Unit :=
  modify fun s => { s with tokens := s.tokens.tail }

/-- Passes the token where it is next. -/
def accept (t : Token) : Reader Bool := do
  if (← peek) == some t then
    skip
    return true
  else return false

def expect (t : Token) : Reader Unit := do
  unless ← accept t do fails .arrangement

def isNext (ts : List Token) : Reader Bool := do
  match ← peek with
  | some t => return ts.contains t
  | none => return false

def newSite : Reader Site :=
  modifyGet fun s => (s.nodes.size, { s with nodes := s.nodes.push .empty })

def place (site : Site) (n : Node) : Reader Unit :=
  modify fun s => { s with nodes := s.nodes.put site n }

/-- The greatest number of collections that are inside of each other. -/
def depthLimit : Nat := 484

/-- Reads the parts of a collection, which lie one level deeper. -/
def nested {α : Type} (parts : Reader α) : Reader α := do
  if depthLimit ≤ (← get).depth then throw .endless
  modify fun s => { s with depth := s.depth + 1 }
  let a ← parts
  modify fun s => { s with depth := s.depth - 1 }
  return a

/-- The name and the tag in front of a node. -/
structure Properties where
  anchor : Option String
  tag : Option (Option String × String)

def anchorNext : Reader (Option String) := do
  match ← peek with
  | some (.anchor name) =>
    skip
    return some name
  | _ => return none

def tagNext : Reader (Option (Option String × String)) := do
  match ← peek with
  | some (.tag handle suffix) =>
    skip
    return some (handle, suffix)
  | _ => return none

/-- Name and tag in either order. -/
def properties : Reader Properties := do
  match ← anchorNext with
  | some name => return ⟨some name, ← tagNext⟩
  | none =>
    match ← tagNext with
    | some tag => return ⟨← anchorNext, some tag⟩
    | none => return ⟨none, none⟩

/-- What a tag says once its handle is replaced; none where it leaves the type open. -/
def fullTag : Option (Option String × String) → Reader (Option String)
  | none => return none
  | some (none, suffix) => return some suffix
  | some (some handle, suffix) => do
    match (← get).handles.lookup handle with
    | some expansion => return some (expansion ++ suffix)
    | none => fails .handle

/-- A site for a node that begins, and for the name that it may have. -/
def openSite (anchor : Option String) : Reader Site := do
  let site ← newSite
  if let some name := anchor then
    if ((← get).anchors.lookup name).isSome then fails .anchorTwice
    modify fun s => { s with anchors := (name, site) :: s.anchors }
  return site

def aliased (name : String) : Reader Site := do
  match (← get).anchors.lookup name with
  | some site => return site
  | none => fails .aliasUnknown

/-- The tag of a scalar: an open type is that of its text where the scalar is plain. -/
def scalarTag (tag : Option String) (text : String) (plain : Bool) : Tag :=
  match tag with
  | none => if plain then Tag.ofPlain text else .text
  | some t => if t == "!" then Tag.ofPlain text else Tag.ofText t

def collectionTag (own : Tag) : Option String → Tag
  | none => own
  | some t => if t == "!" then own else Tag.ofText t

/-- How far a node may reach. -/
inductive Context where
  /-- Inside brackets. -/
  | flow
  | block
  /-- A key or a value of a block mapping, where entries need no indentation of their own. -/
  | field
  deriving DecidableEq, Repr

def fieldEnds : List Token := [.key, .value, .blockEnd]

mutual

/-- Reads a node; the first argument bounds the depth of the calls. -/
def node : Nat → Context → Reader Site
  | 0, _ => fails .arrangement
  | fuel + 1, context => do
    match ← peek with
    | some (.reference name) =>
      skip
      aliased name
    | _ =>
      let p ← properties
      let tag ← fullTag p.tag
      let site ← openSite p.anchor
      place site (← content fuel context tag (p.anchor.isSome || tag.isSome))
      return site

/-- Reads a node behind its properties; with properties it may be empty. -/
def content : Nat → Context → Option String → Bool → Reader Node
  | 0, _, _, _ => fails .arrangement
  | fuel + 1, context, tag, named => do
    match ← peek with
    | some (.scalar text plain) =>
      skip
      return .scalar (scalarTag tag text plain) text
    | some .flowSequence =>
      skip
      return .sequence (collectionTag .list tag) (← nested (flowItems fuel true))
    | some .flowMapping =>
      skip
      return .mapping (collectionTag .map tag) (← nested (flowEntries fuel true))
    | t =>
      if t == some .entry && context == .field then
        return .sequence (collectionTag .list tag) (← nested (looseItems fuel))
      else if t == some .blockSequence && context != .flow then
        skip
        return .sequence (collectionTag .list tag) (← nested (blockItems fuel))
      else if t == some .blockMapping && context != .flow then
        skip
        return .mapping (collectionTag .map tag) (← nested (blockEntries fuel))
      else if named then return .scalar (scalarTag tag "" true) ""
      else fails .arrangement

/-- The items of a block sequence and its end. -/
def blockItems : Nat → Reader (List Site)
  | 0 => fails .arrangement
  | fuel + 1 => do
    if ← accept .entry then
      let item ← if ← isNext [.entry, .blockEnd] then newSite else node fuel .block
      return item :: (← blockItems fuel)
    else
      expect .blockEnd
      return []

/-- The items of a sequence that is not indented more than its mapping. -/
def looseItems : Nat → Reader (List Site)
  | 0 => fails .arrangement
  | fuel + 1 => do
    if ← accept .entry then
      let item ← if ← isNext (.entry :: fieldEnds) then newSite else node fuel .block
      return item :: (← looseItems fuel)
    else return []

/-- A key or a value behind its mark, or the empty scalar where there is no such mark. -/
def field : Nat → Token → Reader Site
  | 0, _ => fails .arrangement
  | fuel + 1, mark => do
    if ← accept mark then
      if ← isNext fieldEnds then newSite else node fuel .field
    else newSite

/-- The entries of a block mapping and its end. -/
def blockEntries : Nat → Reader (List Entry)
  | 0 => fails .arrangement
  | fuel + 1 => do
    if ← isNext [.key] then
      let key ← field fuel .key
      let value ← field fuel .value
      return (key, value) :: (← blockEntries fuel)
    else
      expect .blockEnd
      return []

/-- A node inside brackets, or the empty scalar where one of the tokens is next. -/
def flowNode : Nat → List Token → Reader Site
  | 0, _ => fails .arrangement
  | fuel + 1, ends => do
    if ← isNext ends then newSite else node fuel .flow

/-- The value behind a key inside brackets, empty without a colon. -/
def flowValue : Nat → Token → Reader Site
  | 0, _ => fails .arrangement
  | fuel + 1, close => do
    if ← accept .value then flowNode fuel [.separator, close] else newSite

/-- A key inside brackets and its value. -/
def flowEntry : Nat → Token → Reader Entry
  | 0, _ => fails .arrangement
  | fuel + 1, close => do
    let key ← flowNode fuel [.value, .separator, close]
    let value ← flowValue fuel close
    return (key, value)

/-- The items of a sequence in brackets; a key makes an item that is a mapping of one entry. -/
def flowItems : Nat → Bool → Reader (List Site)
  | 0, _ => fails .arrangement
  | fuel + 1, first => do
    if ← accept .flowSequenceEnd then return []
    else
      unless first do expect .separator
      if ← isNext [.key] then
        let site ← newSite
        skip
        let entry ← nested (flowEntry fuel .flowSequenceEnd)
        place site (.mapping .map [entry])
        return site :: (← flowItems fuel false)
      else if ← accept .flowSequenceEnd then return []
      else
        let item ← node fuel .flow
        return item :: (← flowItems fuel false)

/-- The entries of a mapping in braces; a node that is no key has an empty value. -/
def flowEntries : Nat → Bool → Reader (List Entry)
  | 0, _ => fails .arrangement
  | fuel + 1, first => do
    if ← accept .flowMappingEnd then return []
    else
      unless first do expect .separator
      if ← accept .key then
        let entry ← flowEntry fuel .flowMappingEnd
        return entry :: (← flowEntries fuel false)
      else if ← accept .flowMappingEnd then return []
      else
        let key ← node fuel .flow
        let value ← newSite
        return (key, value) :: (← flowEntries fuel false)

end

def knownHandles : List (String × String) :=
  [("!", "!"), ("!!", Tag.base)]

/-- Reads the directives in front of a document: at most one version, and each handle once. -/
def directives : List Token → Bool → List (String × String) →
    Except Fault (List (String × String) × List Token)
  | .directive d :: rest, versioned, handles =>
    match d with
    | .version major =>
      if versioned || major != 1 then .error (.malformed .version)
      else directives rest true handles
    | .handle name expansion =>
      if (handles.lookup name).isSome then .error (.malformed .handle)
      else directives rest versioned (handles ++ [(name, expansion)])
    | .other => directives rest versioned handles
  | rest, _, handles => .ok (handles ++ knownHandles, rest)

/-- Reads the node of a document that a mark begins; it may be empty. -/
def marked (fuel : Nat) : Reader Site := do
  expect .documentStart
  match ← peek with
  | none => newSite
  | some (.directive _) => newSite
  | some .documentStart => newSite
  | some .documentEnd => newSite
  | _ => node fuel .block

/-- Passes the end of a document, behind which nothing but more such marks may stand. -/
def close : Reader Unit := do
  modify fun s => { s with tokens := s.tokens.dropWhile (· == .documentEnd) }
  if (← peek).isSome then fails .documents

/-- Reads the only document from its first token on. -/
def document (r : Reader Site) (tokens : Tokens) (handles : List (String × String)) :
    Except Fault Graph := do
  let closed : Reader Site := do
    let root ← r
    close
    return root
  let (root, s) ← closed.run ⟨tokens.list, tokens.fault, [], handles, #[], 0⟩
  return ⟨s.nodes, root⟩

end Reader

/-- The nodes of a document, none where there is no token. -/
def Graph.ofTokens (tokens : Tokens) : Except Fault (Option Graph) := do
  let fuel := 5 * tokens.list.length + 5
  match tokens.list, tokens.fault with
  | [], none => return none
  | [], some f => throw f
  | .directive _ :: _, _ =>
    let (handles, rest) ← Reader.directives tokens.list false []
    (Reader.document (Reader.marked fuel) { tokens with list := rest } handles).map some
  | .documentStart :: _, _ =>
    (Reader.document (Reader.marked fuel) tokens Reader.knownHandles).map some
  | _, _ => (Reader.document (Reader.node fuel .block) tokens Reader.knownHandles).map some

def Graph.ofText (text : List Char) : Except Fault (Option Graph) :=
  Graph.ofTokens (Tokens.ofText text)

end DomainCompiler.Yaml
