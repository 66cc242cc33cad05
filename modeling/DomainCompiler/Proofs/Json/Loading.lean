import DomainCompiler.File.Load
import DomainCompiler.Proofs.Declared.Folding
import DomainCompiler.Proofs.Json.Nodes
import DomainCompiler.Proofs.Text.Utf8
import DomainCompiler.Proofs.Yaml.Values

/-!
# Loading JSON files

The nodes of a tree write the value that the tree denotes. So a file with a text that YAML shares
is loaded as the object of its root: strings without their escapes, numbers by their form, arrays
and objects in order. A text that YAML does not share may be refused, or loaded as something else.
-/

namespace DomainCompiler

namespace Json

open Yaml

/-! ### Where the nodes of a tree stand -/

/-- The nodes stand among all, one behind the other from the site on. -/
def StandFrom (nodes : Nodes) : Site → List Node → Prop
  | _, [] => True
  | first, n :: ns => nodes[first]? = some n ∧ StandFrom nodes (first + 1) ns

variable {nodes : Nodes} {first : Site}

theorem StandFrom.of_append {ns ns' : List Node} (h : StandFrom nodes first (ns ++ ns')) :
    StandFrom nodes first ns ∧ StandFrom nodes (first + ns.length) ns' := by
  induction ns generalizing first with
  | nil => exact ⟨trivial, h⟩
  | cons n ns ih =>
    obtain ⟨hfront, hbehind⟩ := ih h.2
    rw [Nat.add_assoc, Nat.add_comm 1] at hbehind
    exact ⟨⟨h.1, hfront⟩, hbehind⟩

theorem standFrom_append (before ns : List Node) :
    StandFrom (before ++ ns).toArray before.length ns := by
  induction ns generalizing before with
  | nil => trivial
  | cons n ns ih =>
    have hmore := ih (before ++ [n])
    rw [List.append_assoc, List.length_append] at hmore
    exact ⟨by simp, hmore⟩

/-! ### What they write -/

mutual

/-- The nodes of a tree write the value that the tree denotes. -/
theorem Tree.writes (t : Tree) (ht : t.isShared = true) {first : Site}
    (h : StandFrom nodes first (t.nodes first)) : nodes.Writes first t.value := by
  cases t with
  | null => exact .scalar h.1 rfl
  | bool b => cases b <;> exact .scalar h.1 rfl
  | number n => exact .scalar h.1 (n.read_chars ht first)
  | string s => exact .scalar h.1 rfl
  | emptyArray blanks => exact .list h.1 .nil
  | array items => exact .list h.1 (items.writeAll ht h.2)
  | emptyObject blanks => exact .map h.1 .nil
  | object members => exact .map h.1 (members.writeEntries ht h.2)

theorem Items.writeAll (items : Items) (hitems : items.areShared = true) {first : Site}
    (h : StandFrom nodes first (items.nodes first)) :
    nodes.WriteAll (items.sites first) items.values := by
  cases items with
  | one before item after =>
    simp only [Items.areShared, Bool.and_eq_true] at hitems
    exact .cons (item.writes hitems.1.2 h) .nil
  | more before item after rest =>
    simp only [Items.areShared, Bool.and_eq_true] at hitems
    obtain ⟨hitem, hrest⟩ := h.of_append
    rw [item.length_nodes] at hrest
    exact .cons (item.writes hitems.1.1.2 hitem) (rest.writeAll hitems.2 hrest)

theorem Members.writeEntries (members : Members) (hmembers : members.areShared = true)
    {first : Site} (h : StandFrom nodes first (members.nodes first)) :
    nodes.WriteEntries (members.sites first) members.entries := by
  cases members with
  | one before key behind before' value after =>
    simp only [Members.areShared, Bool.and_eq_true] at hmembers
    exact .cons h.1 (value.writes hmembers.1.2 h.2) .nil
  | more before key behind before' value after rest =>
    simp only [Members.areShared, Bool.and_eq_true] at hmembers
    obtain ⟨hvalue, hrest⟩ := h.2.of_append
    rw [value.length_nodes, Nat.add_assoc, Nat.add_comm 1] at hrest
    exact .cons h.1 (value.writes hmembers.1.1.2 hvalue) (rest.writeEntries hmembers.2 hrest)

end

theorem Tree.value_graph (t : Tree) (ht : t.isShared = true) : t.graph.value = .ok t.value :=
  Graph.value_eq (t.writes ht (standFrom_append [] (t.nodes 0)))

theorem Document.ofText_eq {d : Document} (hd : d.isShared = true) (hroot : d.root.IsObject) :
    Yaml.Document.ofText (d.written unified) = .ok (some d.root.value) := by
  have hshared : d.root.isShared = true := by
    simp only [Document.isShared, Bool.and_eq_true] at hd
    exact hd.1.1.2
  rw [Yaml.Document.ofText, d.graph_ofText hd hroot]
  show d.root.graph.value.map some = _
  rw [d.root.value_graph hshared]
  rfl

/-! ### Objects -/

theorem Tree.value_eq_map {t : Tree} (ht : t.IsObject) : ∃ entries, t.value = .map entries := by
  cases t with
  | emptyObject blanks => exact ⟨_, rfl⟩
  | object members => exact ⟨_, rfl⟩
  | _ => exact ht.elim

def Members.keys : Members → List String
  | .one _ key _ _ _ _ => [key.value]
  | .more _ key _ _ _ _ rest => key.value :: rest.keys

theorem Members.foldl_setEntry (members : Members) (h : members.keys.Nodup)
    {front : List (Value × Value)} (hfront : ∀ key ∈ members.keys, Value.entry? key front = none) :
    members.entries.foldl (fun m e => Value.setEntry e.1 e.2 m) front =
      front ++ members.entries := by
  cases members with
  | one before key behind before' value after =>
    exact Declared.setEntry_of_absent (hfront _ List.mem_cons_self)
  | more before key behind before' value after rest =>
    rw [Members.keys, List.nodup_cons] at h
    obtain ⟨hkey, hkeys⟩ := List.forall_mem_cons.mp hfront
    have hnext : ∀ key' ∈ rest.keys,
        Value.entry? key' (front ++ [(.text key.value, value.value)]) = none := by
      intro key' hmem
      have hne : Value.text key.value ≠ .text key' :=
        fun heq => h.1 (Value.text.inj heq ▸ hmem)
      rw [Declared.entry?_append, hkeys key' hmem, Declared.entry?_cons_of_ne hne]
      rfl
    rw [Members.entries, List.foldl_cons, Declared.setEntry_of_absent hkey,
      rest.foldl_setEntry h.2 hnext, List.append_assoc]
    rfl

/-- An object without a repeated key has its members in order. -/
theorem Members.mapOfEntries_entries {members : Members} (h : members.keys.Nodup) :
    Value.mapOfEntries members.entries = members.entries :=
  members.foldl_setEntry h fun _ _ => rfl

end Json

namespace Load

open Json

variable {path : String} {d : Json.Document}

/-- The file with the text of the document is loaded as the object that the text denotes. -/
def IsFaithful (path : String) (d : Json.Document) : Prop :=
  ∃ entries, d.root.value = .map entries ∧ file path (.file (Utf8.encode d.chars)) = .ok entries

/-- JSON files mean what JSON says, as far as YAML shares their texts. -/
theorem isFaithful_of_isShared (hpath : Path.suffix path = ".json") (hroot : d.root.IsObject)
    (hd : d.isShared = true) : IsFaithful path d := by
  obtain ⟨entries, hvalue⟩ := Tree.value_eq_map hroot
  have htext : text path d.chars = .ok entries := by
    rw [text, d.withLineFeeds_chars, d.ofText_eq hd hroot, hvalue]
  refine ⟨entries, hvalue, ?_⟩
  simp only [file, hpath, Utf8.decode_encode]
  exact htext

/-- A text with escapes, numbers, a word and line ends of two characters. -/
theorem isFaithful_mixed : ∃ d : Json.Document,
    d.chars = "\x7b\"a\": \"b\\t\\u00E4\",\r\n\"c\" :[-10, 2.5E-1, true ]\x7d\n".toList ∧
      d.root.IsObject ∧ d.isShared = true ∧ IsFaithful "domain.json" d := by
  let code : Piece := .code ⟨0, false⟩ ⟨0, false⟩ ⟨14, true⟩ ⟨4, false⟩
  let ten : Number := ⟨true, ⟨⟨1, [0]⟩, by decide⟩, none, none⟩
  let quarter : Number :=
    ⟨false, ⟨⟨2, []⟩, by decide⟩, some ⟨5, []⟩, some ⟨true, some .minus, ⟨1, []⟩⟩⟩
  let items : Items :=
    .more [] (.number ten) [] <|
      .more [.space] (.number quarter) [] <| .one [.space] (.bool true) [.space]
  let members : Members :=
    .more [] [.raw 'a' rfl] [] [.space] (.string [.raw 'b' rfl, .escape .tab, code]) [] <|
      .one [.carriageReturn, .lineFeed] [.raw 'c' rfl] [.space] [] (.array items) []
  exact ⟨⟨[], .object members, [.lineFeed]⟩, by decide, trivial, by decide,
    isFaithful_of_isShared (by decide) trivial (by decide)⟩

/-- A power of ten without a sign is loaded as a text. -/
theorem not_isFaithful_power : ∃ d : Json.Document, d.chars = "\x7b\"a\": 1e5\x7d".toList ∧
    d.root.IsObject ∧ ¬IsFaithful "domain.json" d := by
  have hloaded :
      (file "domain.json" (.file (Utf8.encode "\x7b\"a\": 1e5\x7d".toList))).toOption.map
        (fun es => es.map fun e => e.2.kindName) = some ["str"] := by
    decide +kernel
  obtain ⟨d, hchars, hroot, hvalue⟩ : ∃ d : Json.Document,
      d.chars = "\x7b\"a\": 1e5\x7d".toList ∧ d.root.IsObject ∧
        d.root.value = .map [(.text "a", .float (Binary64.ofDecimal false 1 5))] := by
    let power : Number := ⟨false, ⟨⟨1, []⟩, by decide⟩, none, some ⟨false, none, ⟨5, []⟩⟩⟩
    exact ⟨⟨[], .object <| .one [] [.raw 'a' rfl] [] [.space] (.number power) [], []⟩, by decide,
      trivial, rfl⟩
  refine ⟨d, hchars, hroot, ?_⟩
  rintro ⟨entries, hentries, hfile⟩
  cases hvalue.symm.trans hentries
  rw [hchars] at hfile
  rw [hfile] at hloaded
  exact absurd hloaded (by decide)

end Load

end DomainCompiler
