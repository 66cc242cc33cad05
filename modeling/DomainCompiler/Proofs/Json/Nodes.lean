import DomainCompiler.Proofs.Json.Tokens

/-!
# Nodes of JSON texts

The nodes of a tree stand one behind the other, each collection in front of its parts and each key
in front of its value. The reader puts them there, whatever it has read before.
-/

namespace DomainCompiler.Json

open Yaml Yaml.Reader

/-! ### The nodes of a tree -/

mutual

def Tree.count : Tree → Nat
  | .array items => items.count + 1
  | .object members => members.count + 1
  | _ => 1

def Items.count : Items → Nat
  | .one _ item _ => item.count
  | .more _ item _ rest => item.count + rest.count

def Members.count : Members → Nat
  | .one _ _ _ _ value _ => value.count + 1
  | .more _ _ _ _ value _ rest => value.count + 1 + rest.count

end

/-- The sites of the items where the first one stands at the given site. -/
def Items.sites (first : Site) : Items → List Site
  | .one .. => [first]
  | .more _ item _ rest => first :: rest.sites (first + item.count)

/-- The sites of keys and values where the first key stands at the given site. -/
def Members.sites (first : Site) : Members → List Entry
  | .one .. => [(first, first + 1)]
  | .more _ _ _ _ value _ rest => (first, first + 1) :: rest.sites (first + (value.count + 1))

def plainNode (text : String) : Node :=
  .scalar (Tag.ofPlain text) text

mutual

/-- The nodes of the tree from the given site on. -/
def Tree.nodes (first : Site) : Tree → List Node
  | .null => [plainNode "null"]
  | .bool true => [plainNode "true"]
  | .bool false => [plainNode "false"]
  | .number n => [plainNode (String.ofList n.chars)]
  | .string s => [.scalar .text s.value]
  | .emptyArray _ => [.sequence .list []]
  | .array items => .sequence .list (items.sites (first + 1)) :: items.nodes (first + 1)
  | .emptyObject _ => [.mapping .map []]
  | .object members => .mapping .map (members.sites (first + 1)) :: members.nodes (first + 1)

def Items.nodes (first : Site) : Items → List Node
  | .one _ item _ => item.nodes first
  | .more _ item _ rest => item.nodes first ++ rest.nodes (first + item.count)

def Members.nodes (first : Site) : Members → List Node
  | .one _ key _ _ value _ => .scalar .text key.value :: value.nodes (first + 1)
  | .more _ key _ _ value _ rest =>
    .scalar .text key.value :: value.nodes (first + 1) ++ rest.nodes (first + (value.count + 1))

end

mutual

theorem Tree.length_nodes (t : Tree) (first : Site) : (t.nodes first).length = t.count := by
  cases t with
  | bool b => cases b <;> rfl
  | array items => exact congrArg (· + 1) (items.length_nodes _)
  | object members => exact congrArg (· + 1) (members.length_nodes _)
  | _ => rfl

theorem Items.length_nodes (items : Items) (first : Site) :
    (items.nodes first).length = items.count := by
  cases items with
  | one before item after => exact item.length_nodes first
  | more before item after rest =>
    rw [Items.nodes, List.length_append, item.length_nodes, rest.length_nodes]
    rfl

theorem Members.length_nodes (members : Members) (first : Site) :
    (members.nodes first).length = members.count := by
  cases members with
  | one before key behind before' value after => exact congrArg (· + 1) (value.length_nodes _)
  | more before key behind before' value after rest =>
    rw [Members.nodes, List.length_append, List.length_cons, value.length_nodes, rest.length_nodes]
    rfl

end

/-! ### Reading tokens -/

section

variable {α : Type} {s : Reading} {t t' : Token} {rest rest' : List Token} {nodes nodes' : Nodes}
  {ns : List Node} {fuel depth : Nat} {context : Context}

/-- A reader that began with the same names goes on at the tokens. -/
def goingOn (s : Reading) (tokens : List Token) (nodes : Nodes) (depth : Nat) : Reading :=
  { s with tokens, nodes, depth }

theorem run_accept (f : Bool → Reader α) :
    (accept t >>= f).run (goingOn s (t :: rest) nodes depth) =
      (f true).run (goingOn s rest nodes depth) := by
  simp [accept, peek, skip, goingOn]

theorem run_accept_ne (h : t' ≠ t) (f : Bool → Reader α) :
    (accept t >>= f).run (goingOn s (t' :: rest) nodes depth) =
      (f false).run (goingOn s (t' :: rest) nodes depth) := by
  simp [accept, peek, goingOn, h]

theorem run_expect (f : Unit → Reader α) :
    (Reader.expect t >>= f).run (goingOn s (t :: rest) nodes depth) =
      (f ()).run (goingOn s rest nodes depth) := by
  rw [Reader.expect, bind_assoc, run_accept]
  rfl

theorem run_isNext (ts : List Token) (f : Bool → Reader α) :
    (isNext ts >>= f).run (goingOn s (t :: rest) nodes depth) =
      (f (ts.contains t)).run (goingOn s (t :: rest) nodes depth) := rfl

theorem run_nested {parts : Reader α} {a : α} (hdepth : depth < depthLimit)
    (h : parts.run (goingOn s rest nodes (depth + 1)) =
      .ok (a, goingOn s rest' nodes' (depth + 1))) :
    (nested parts).run (goingOn s rest nodes depth) = .ok (a, goingOn s rest' nodes' depth) := by
  have hlimit : ¬depthLimit ≤ (goingOn s rest nodes depth).depth := Nat.not_le.mpr hdepth
  have hdeeper :
      { goingOn s rest nodes depth with depth := (goingOn s rest nodes depth).depth + 1 } =
        goingOn s rest nodes (depth + 1) := rfl
  simp [nested, hlimit, hdeeper, h]
  rfl

/-! ### Nodes inside brackets -/

/-- A node begins with the token. -/
def IsStart : Token → Prop
  | .scalar .. => True
  | .flowSequence => True
  | .flowMapping => True
  | _ => False

/-- A node has its site in front of those of its parts. -/
theorem run_node {n : Node} (ns : List Node) (ht : IsStart t)
    (h : (content fuel context none false).run (goingOn s (t :: rest) (nodes.push .empty) depth) =
      .ok (n, goingOn s rest' (nodes.push .empty ++ ns.toArray) depth)) :
    (node (fuel + 1) context).run (goingOn s (t :: rest) nodes depth) =
      .ok (nodes.size, goingOn s rest' (nodes ++ (n :: ns).toArray) depth) := by
  have hstart : (node (fuel + 1) context).run (goingOn s (t :: rest) nodes depth) = (do
      place nodes.size (← content fuel context none false)
      return nodes.size : Reader Site).run (goingOn s (t :: rest) (nodes.push .empty) depth) := by
    cases t <;> first | rfl | exact ht.elim
  have hput : Nodes.put (nodes.push .empty ++ ns.toArray) nodes.size n =
      nodes ++ (n :: ns).toArray := by
    apply Array.ext'
    simp [Nodes.put]
  rw [hstart, StateT.run_bind, h, ← hput]
  rfl

theorem run_scalar (text : String) (plain : Bool) :
    (node (fuel + 2) context).run (goingOn s (.scalar text plain :: rest) nodes depth) =
      .ok (nodes.size,
        goingOn s rest (nodes ++ #[.scalar (scalarTag none text plain) text]) depth) :=
  run_node [] trivial rfl

theorem run_sequence {sites : List Site} (ns : List Node) (hdepth : depth < depthLimit)
    (h : (flowItems fuel true).run (goingOn s rest (nodes.push .empty) (depth + 1)) =
      .ok (sites, goingOn s rest' (nodes.push .empty ++ ns.toArray) (depth + 1))) :
    (node (fuel + 2) context).run (goingOn s (.flowSequence :: rest) nodes depth) =
      .ok (nodes.size, goingOn s rest' (nodes ++ (.sequence .list sites :: ns).toArray) depth) := by
  refine run_node ns trivial ?_
  show (do return Node.sequence .list (← nested (flowItems fuel true)) : Reader Node).run
    (goingOn s rest (nodes.push .empty) depth) = _
  rw [StateT.run_bind, run_nested hdepth h]
  rfl

theorem run_mapping {entries : List Entry} (ns : List Node) (hdepth : depth < depthLimit)
    (h : (flowEntries fuel true).run (goingOn s rest (nodes.push .empty) (depth + 1)) =
      .ok (entries, goingOn s rest' (nodes.push .empty ++ ns.toArray) (depth + 1))) :
    (node (fuel + 2) context).run (goingOn s (.flowMapping :: rest) nodes depth) =
      .ok (nodes.size, goingOn s rest' (nodes ++ (.mapping .map entries :: ns).toArray) depth) := by
  refine run_node ns trivial ?_
  show (do return Node.mapping .map (← nested (flowEntries fuel true)) : Reader Node).run
    (goingOn s rest (nodes.push .empty) depth) = _
  rw [StateT.run_bind, run_nested hdepth h]
  rfl

/-! ### Items -/

/-- The comma in front of all items but the first one. -/
def comma (first : Bool) : List Token :=
  if first then [] else [.separator]

theorem run_flowItems_end (first : Bool) :
    (flowItems (fuel + 1) first).run (goingOn s (.flowSequenceEnd :: rest) nodes depth) =
      .ok ([], goingOn s rest nodes depth) := by
  rw [flowItems, run_accept]
  rfl

/-- An item and those behind it. -/
def moreItems (fuel : Nat) : Reader (List Site) := do
  let item ← node fuel .flow
  return item :: (← flowItems fuel false)

theorem run_flowItems (first : Bool) (ht : IsStart t) :
    (flowItems (fuel + 1) first).run (goingOn s (comma first ++ t :: rest) nodes depth) =
      (moreItems fuel).run (goingOn s (t :: rest) nodes depth) := by
  have hend : t ≠ .flowSequenceEnd := by rintro rfl; exact ht
  have hkey : [Token.key].contains t = false := by
    cases t <;> first | rfl | exact ht.elim
  have hitem : (do
      if ← isNext [.key] then
        let site ← newSite
        skip
        let entry ← nested (flowEntry fuel .flowSequenceEnd)
        place site (.mapping .map [entry])
        return site :: (← flowItems fuel false)
      else if ← accept .flowSequenceEnd then return []
      else
        let item ← node fuel .flow
        return item :: (← flowItems fuel false) : Reader (List Site)).run
          (goingOn s (t :: rest) nodes depth) =
            (moreItems fuel).run (goingOn s (t :: rest) nodes depth) := by
    rw [run_isNext, hkey, if_neg Bool.false_ne_true, run_accept_ne hend, if_neg Bool.false_ne_true]
    rfl
  rw [flowItems]
  cases first with
  | true =>
    show (accept .flowSequenceEnd >>= _).run (goingOn s (t :: rest) nodes depth) = _
    rw [run_accept_ne hend]
    exact hitem
  | false =>
    show (accept .flowSequenceEnd >>= _).run (goingOn s (.separator :: t :: rest) nodes depth) = _
    rw [run_accept_ne (by decide), if_neg Bool.false_ne_true, if_neg Bool.false_ne_true, run_expect]
    exact hitem

theorem run_moreItems {tokens rest'' : List Token} {nodes'' : Nodes} {site : Site}
    {sites : List Site}
    (hitem : (node fuel .flow).run (goingOn s tokens nodes depth) =
      .ok (site, goingOn s rest' nodes' depth))
    (hmore : (flowItems fuel false).run (goingOn s rest' nodes' depth) =
      .ok (sites, goingOn s rest'' nodes'' depth)) :
    (moreItems fuel).run (goingOn s tokens nodes depth) =
      .ok (site :: sites, goingOn s rest'' nodes'' depth) := by
  rw [moreItems, StateT.run_bind, hitem]
  show (do return site :: (← flowItems fuel false) : Reader (List Site)).run
    (goingOn s rest' nodes' depth) = _
  rw [StateT.run_bind, hmore]
  rfl

/-! ### Entries -/

theorem run_flowEntries_end (first : Bool) :
    (flowEntries (fuel + 1) first).run (goingOn s (.flowMappingEnd :: rest) nodes depth) =
      .ok ([], goingOn s rest nodes depth) := by
  rw [flowEntries, run_accept]
  rfl

/-- An entry and those behind it. -/
def moreEntries (fuel : Nat) : Reader (List Entry) := do
  let entry ← flowEntry fuel .flowMappingEnd
  return entry :: (← flowEntries fuel false)

theorem run_flowEntries (first : Bool) :
    (flowEntries (fuel + 1) first).run (goingOn s (comma first ++ .key :: rest) nodes depth) =
      (moreEntries fuel).run (goingOn s rest nodes depth) := by
  have hentry : (do
      if ← accept .key then
        let entry ← flowEntry fuel .flowMappingEnd
        return entry :: (← flowEntries fuel false)
      else if ← accept .flowMappingEnd then return []
      else
        let key ← node fuel .flow
        let value ← newSite
        return (key, value) :: (← flowEntries fuel false) : Reader (List Entry)).run
          (goingOn s (.key :: rest) nodes depth) =
            (moreEntries fuel).run (goingOn s rest nodes depth) := by
    rw [run_accept]
    rfl
  rw [flowEntries]
  cases first with
  | true =>
    show (accept .flowMappingEnd >>= _).run (goingOn s (.key :: rest) nodes depth) = _
    rw [run_accept_ne (by decide)]
    exact hentry
  | false =>
    show (accept .flowMappingEnd >>= _).run (goingOn s (.separator :: .key :: rest) nodes depth) = _
    rw [run_accept_ne (by decide), if_neg Bool.false_ne_true, if_neg Bool.false_ne_true, run_expect]
    exact hentry

theorem run_moreEntries {tokens rest'' : List Token} {nodes'' : Nodes} {entry : Entry}
    {entries : List Entry}
    (hentry : (flowEntry fuel .flowMappingEnd).run (goingOn s tokens nodes depth) =
      .ok (entry, goingOn s rest' nodes' depth))
    (hmore : (flowEntries fuel false).run (goingOn s rest' nodes' depth) =
      .ok (entries, goingOn s rest'' nodes'' depth)) :
    (moreEntries fuel).run (goingOn s tokens nodes depth) =
      .ok (entry :: entries, goingOn s rest'' nodes'' depth) := by
  rw [moreEntries, StateT.run_bind, hentry]
  show (do return entry :: (← flowEntries fuel false) : Reader (List Entry)).run
    (goingOn s rest' nodes' depth) = _
  rw [StateT.run_bind, hmore]
  rfl

theorem run_flowNode {ends : List Token} (ht : ends.contains t = false) :
    (flowNode (fuel + 1) ends).run (goingOn s (t :: rest) nodes depth) =
      (node fuel .flow).run (goingOn s (t :: rest) nodes depth) := by
  rw [flowNode, run_isNext, ht]
  rfl

/-- A key in quotes and the value behind it. -/
theorem run_flowEntry {key : String} {site : Site} (ht : IsStart t)
    (h : (node (fuel + 1) .flow).run (goingOn s (t :: rest) (nodes ++ #[.scalar .text key]) depth) =
      .ok (site, goingOn s rest' nodes' depth)) :
    (flowEntry (fuel + 4) .flowMappingEnd).run
        (goingOn s (.scalar key false :: .value :: t :: rest) nodes depth) =
      .ok ((nodes.size, site), goingOn s rest' nodes' depth) := by
  have hends : [Token.separator, .flowMappingEnd].contains t = false := by
    cases t <;> first | rfl | exact ht.elim
  have hkeyEnds :
      [Token.value, .separator, .flowMappingEnd].contains (.scalar key false) = false := rfl
  have hvalue : (flowValue (fuel + 3) .flowMappingEnd).run
      (goingOn s (.value :: t :: rest) (nodes ++ #[.scalar .text key]) depth) =
        .ok (site, goingOn s rest' nodes' depth) := by
    rw [flowValue, run_accept, if_pos rfl]
    exact (run_flowNode hends).trans h
  rw [flowEntry, StateT.run_bind, run_flowNode hkeyEnds, run_scalar]
  show (do
    let value ← flowValue (fuel + 3) .flowMappingEnd
    return (nodes.size, value) : Reader Entry).run
      (goingOn s (.value :: t :: rest) (nodes ++ #[.scalar .text key]) depth) = _
  rw [StateT.run_bind, hvalue]
  rfl

end

/-! ### Trees -/

theorem Tree.tokens_eq_cons (t : Tree) :
    ∃ first more, t.tokens = first :: more ∧ IsStart first := by
  cases t with
  | bool b => cases b <;> exact ⟨_, _, rfl, trivial⟩
  | _ => exact ⟨_, _, rfl, trivial⟩

theorem append_toArray_append (nodes : Nodes) (ns ns' : List Node) :
    nodes ++ ns.toArray ++ ns'.toArray = nodes ++ (ns ++ ns').toArray := by
  simp

mutual

/-- The reader puts the nodes of a tree behind those that it has read. -/
theorem Tree.run_node (t : Tree) (s : Reading) (rest : List Token) (nodes : Nodes)
    {fuel depth : Nat} (context : Context) (hfuel : 2 * t.tokens.length ≤ fuel)
    (hdepth : depth + t.depth ≤ depthLimit) :
    (node fuel context).run (goingOn s (t.tokens ++ rest) nodes depth) =
      .ok (nodes.size, goingOn s rest (nodes ++ (t.nodes nodes.size).toArray) depth) := by
  obtain ⟨fuel, rfl⟩ : ∃ k, fuel = k + 2 := by
    obtain ⟨first, more, htokens, -⟩ := t.tokens_eq_cons
    rw [htokens, List.length_cons] at hfuel
    exact ⟨fuel - 2, by omega⟩
  cases t with
  | null => exact run_scalar "null" true
  | bool b =>
    cases b
    · exact run_scalar "false" true
    · exact run_scalar "true" true
  | number n => exact run_scalar (String.ofList n.chars) true
  | string str => exact run_scalar str.value false
  | emptyArray blanks =>
    obtain ⟨fuel, rfl⟩ : ∃ k, fuel = k + 1 := ⟨fuel - 1, by simp [Tree.tokens] at hfuel; omega⟩
    exact run_sequence [] hdepth (run_flowItems_end true)
  | array items =>
    simp only [Tree.tokens, List.cons_append, List.length_cons, List.length_append,
      List.length_nil] at hfuel
    simp only [Tree.depth] at hdepth
    have hitems := items.run_flowItems true s rest (nodes.push .empty)
      (show _ ≤ fuel by omega) (show depth + 1 + _ ≤ _ by omega)
    rw [Array.size_push, comma, if_pos rfl, List.nil_append] at hitems
    simp only [Tree.tokens, List.cons_append, List.append_assoc, List.nil_append]
    exact run_sequence _ (by omega) hitems
  | emptyObject blanks =>
    obtain ⟨fuel, rfl⟩ : ∃ k, fuel = k + 1 := ⟨fuel - 1, by simp [Tree.tokens] at hfuel; omega⟩
    exact run_mapping [] hdepth (run_flowEntries_end true)
  | object members =>
    simp only [Tree.tokens, List.cons_append, List.length_cons, List.length_append,
      List.length_nil] at hfuel
    simp only [Tree.depth] at hdepth
    have hmembers := members.run_flowEntries true s rest (nodes.push .empty)
      (show _ ≤ fuel by omega) (show depth + 1 + _ ≤ _ by omega)
    rw [Array.size_push, comma, if_pos rfl, List.nil_append] at hmembers
    simp only [Tree.tokens, List.cons_append, List.append_assoc, List.nil_append]
    exact run_mapping _ (by omega) hmembers

theorem Items.run_flowItems (items : Items) (first : Bool) (s : Reading) (rest : List Token)
    (nodes : Nodes) {fuel depth : Nat} (hfuel : 2 * (items.tokens.length + 1) ≤ fuel)
    (hdepth : depth + items.depth ≤ depthLimit) :
    (flowItems fuel first).run
        (goingOn s (comma first ++ (items.tokens ++ .flowSequenceEnd :: rest)) nodes depth) =
      .ok (items.sites nodes.size,
        goingOn s rest (nodes ++ (items.nodes nodes.size).toArray) depth) := by
  obtain ⟨fuel, rfl⟩ : ∃ k, fuel = k + 2 := ⟨fuel - 2, by omega⟩
  cases items with
  | one before item after =>
    simp only [Items.tokens] at hfuel
    simp only [Items.depth] at hdepth
    have hitem := item.run_node s (.flowSequenceEnd :: rest) nodes .flow
      (show _ ≤ fuel + 1 by omega) hdepth
    obtain ⟨t, ts, htokens, ht⟩ := item.tokens_eq_cons
    rw [Items.tokens, htokens, List.cons_append, Json.run_flowItems first ht]
    rw [htokens] at hitem
    exact run_moreItems hitem (run_flowItems_end false)
  | more before item after more =>
    simp only [Items.tokens, List.length_append, List.length_cons] at hfuel
    simp only [Items.depth] at hdepth
    have hitem := item.run_node s (.separator :: (more.tokens ++ .flowSequenceEnd :: rest)) nodes
      .flow (show _ ≤ fuel + 1 by omega) (show depth + _ ≤ _ by omega)
    have hmore := more.run_flowItems false s rest (nodes ++ (item.nodes nodes.size).toArray)
      (show _ ≤ fuel + 1 by omega) (show depth + _ ≤ _ by omega)
    have hsize : (nodes ++ (item.nodes nodes.size).toArray).size = nodes.size + item.count :=
      Array.size_append.trans (congrArg (nodes.size + ·) (item.length_nodes nodes.size))
    rw [hsize, append_toArray_append] at hmore
    obtain ⟨t, ts, htokens, ht⟩ := item.tokens_eq_cons
    rw [Items.tokens, htokens, List.append_assoc, List.cons_append, List.cons_append,
      Json.run_flowItems first ht]
    rw [htokens] at hitem
    exact run_moreItems hitem hmore

theorem Members.run_flowEntries (members : Members) (first : Bool) (s : Reading)
    (rest : List Token) (nodes : Nodes) {fuel depth : Nat} (hfuel : 2 * (members.tokens.length + 1) ≤ fuel)
    (hdepth : depth + members.depth ≤ depthLimit) :
    (flowEntries fuel first).run
        (goingOn s (comma first ++ (members.tokens ++ .flowMappingEnd :: rest)) nodes depth) =
      .ok (members.sites nodes.size,
        goingOn s rest (nodes ++ (members.nodes nodes.size).toArray) depth) := by
  obtain ⟨fuel, rfl⟩ : ∃ k, fuel = k + 5 := by
    cases members <;> simp only [Members.tokens, List.length_append, List.length_cons] at hfuel <;>
      exact ⟨fuel - 5, by omega⟩
  have hkeySize : ∀ key : Str, (nodes ++ #[Node.scalar .text key.value]).size = nodes.size + 1 :=
    fun key => Array.size_append
  cases members with
  | one before key behind before' value after =>
    simp only [Members.tokens, List.length_append, List.length_cons, List.length_nil] at hfuel
    simp only [Members.depth] at hdepth
    have hvalue := value.run_node s (.flowMappingEnd :: rest)
      (nodes ++ #[.scalar .text key.value]) .flow (show _ ≤ fuel + 1 by omega) hdepth
    rw [hkeySize, append_toArray_append] at hvalue
    obtain ⟨t, ts, htokens, ht⟩ := value.tokens_eq_cons
    rw [htokens] at hvalue
    simp only [Members.tokens, htokens, List.cons_append, List.nil_append]
    rw [Json.run_flowEntries first]
    exact run_moreEntries (run_flowEntry ht hvalue) (run_flowEntries_end false)
  | more before key behind before' value after more =>
    simp only [Members.tokens, List.length_append, List.length_cons, List.length_nil] at hfuel
    simp only [Members.depth] at hdepth
    have hvalue := value.run_node s (.separator :: (more.tokens ++ .flowMappingEnd :: rest))
      (nodes ++ #[.scalar .text key.value]) .flow (show _ ≤ fuel + 1 by omega)
      (show depth + _ ≤ _ by omega)
    rw [hkeySize, append_toArray_append] at hvalue
    have hmore := more.run_flowEntries false s rest
      (nodes ++ (.scalar .text key.value :: value.nodes (nodes.size + 1)).toArray)
      (show _ ≤ fuel + 4 by omega) (show depth + _ ≤ _ by omega)
    have hsize :
        (nodes ++ (Node.scalar .text key.value :: value.nodes (nodes.size + 1)).toArray).size =
          nodes.size + (value.count + 1) :=
      Array.size_append.trans
        (congrArg (fun count => nodes.size + (count + 1)) (value.length_nodes (nodes.size + 1)))
    rw [hsize, append_toArray_append] at hmore
    obtain ⟨t, ts, htokens, ht⟩ := value.tokens_eq_cons
    rw [htokens] at hvalue
    simp only [Members.tokens, htokens, List.cons_append, List.append_assoc, List.nil_append]
    rw [Json.run_flowEntries first]
    exact run_moreEntries (run_flowEntry ht hvalue) hmore

end

/-! ### Texts -/

/-- The nodes of a tree, with the outermost one at the first site. -/
def Tree.graph (t : Tree) : Graph :=
  ⟨(t.nodes 0).toArray, 0⟩

theorem Tree.ofTokens_tokens (t : Tree) (hdepth : t.depth ≤ depthLimit) :
    Graph.ofTokens ⟨t.tokens, none⟩ = .ok (some t.graph) := by
  have hnode : (node (5 * t.tokens.length + 5) .block).run
      ⟨t.tokens, none, [], knownHandles, #[], 0⟩ =
        .ok (0, ⟨[], none, [], knownHandles, (t.nodes 0).toArray, 0⟩) := by
    have h := t.run_node ⟨[], none, [], knownHandles, #[], 0⟩ [] #[] .block
      (show _ ≤ 5 * t.tokens.length + 5 by omega) (show 0 + _ ≤ _ by omega)
    simpa [goingOn] using h
  have hdocument : Reader.document (node (5 * t.tokens.length + 5) .block) ⟨t.tokens, none⟩
      knownHandles = .ok t.graph := by
    simp only [Reader.document, StateT.run_bind, hnode]
    rfl
  obtain ⟨first, more, htokens, hfirst⟩ := t.tokens_eq_cons
  rw [htokens] at hdocument ⊢
  rw [Graph.ofTokens]
  cases first <;> first | exact hfirst.elim | (simp only [hdocument]; rfl)

theorem Document.graph_ofText {d : Document} (hd : d.isShared = true) (hroot : d.root.IsObject) :
    Graph.ofText (d.written unified) = .ok (some d.root.graph) := by
  have hdepth : d.root.depth ≤ depthLimit := by
    simp only [Document.isShared, Bool.and_eq_true, decide_eq_true_eq] at hd
    exact hd.2
  rw [Graph.ofText, d.ofText_written hd hroot]
  exact d.root.ofTokens_tokens hdepth

end DomainCompiler.Json
