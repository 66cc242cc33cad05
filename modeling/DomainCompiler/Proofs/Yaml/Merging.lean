import DomainCompiler.Proofs.Yaml.Scanning
import DomainCompiler.Yaml.Node.Merge
import Mathlib.Algebra.BigOperators.Group.Finset.Basic
import Mathlib.Algebra.Order.BigOperators.Group.Finset

/-!
# Merging ends

Each merge key is taken out of its mapping before the mappings that it names are flattened, and what
flattening puts into a mapping has none. So their number bounds the depth of the calls, also where
mappings merge each other. Nothing else happens to the nodes but that some keys become texts.
-/

namespace DomainCompiler.Yaml

namespace Tag

/-- The tag stays, but for that of a key which becomes a text. -/
def Kept (t t' : Tag) : Prop := t' = t ∨ (t = .default ∧ t' = .text)

variable {t t' t'' : Tag}

theorem Kept.trans (h : t.Kept t') (h' : t'.Kept t'') : t.Kept t'' := by
  obtain rfl | ⟨rfl, rfl⟩ := h
  · exact h'
  · obtain rfl | ⟨hdefault, -⟩ := h'
    · exact .inr ⟨rfl, rfl⟩
    · cases hdefault

theorem Kept.merge_iff (h : t.Kept t') : t' = .merge ↔ t = .merge := by
  obtain rfl | ⟨rfl, rfl⟩ := h <;> simp

theorem Kept.default_of (h : t.Kept t') (ht' : t' = .default) : t = .default := by
  obtain rfl | ⟨rfl, -⟩ := h
  · exact ht'
  · rfl

end Tag

namespace Node

/-- The nodes differ at most in their entries and in a tag that became that of texts. -/
def Alike : Node → Node → Prop
  | .scalar t text, .scalar t' text' => text' = text ∧ t.Kept t'
  | .sequence t items, .sequence t' items' => items' = items ∧ t.Kept t'
  | .mapping t _, .mapping t' _ => t.Kept t'
  | _, _ => False

variable {n n' n'' : Node}

theorem Alike.refl (n : Node) : n.Alike n := by
  cases n
  · exact ⟨rfl, .inl rfl⟩
  · exact ⟨rfl, .inl rfl⟩
  · exact .inl rfl

theorem Alike.trans (h : n.Alike n') (h' : n'.Alike n'') : n.Alike n'' := by
  cases n <;> cases n' <;> cases n'' <;> simp only [Alike] at h h' ⊢
  · exact ⟨h'.1.trans h.1, h.2.trans h'.2⟩
  · exact ⟨h'.1.trans h.1, h.2.trans h'.2⟩
  · exact h.trans h'

theorem Alike.kept (h : n.Alike n') : n.tag.Kept n'.tag := by
  cases n <;> cases n' <;> simp only [Alike] at h
  · exact h.2
  · exact h.2
  · exact h

theorem alike_retagged (h : n.tag = .default) : n.Alike (n.retagged .text) := by
  have hkept : n.tag.Kept .text := .inr ⟨h, rfl⟩
  cases n
  · exact ⟨rfl, hkept⟩
  · exact ⟨rfl, hkept⟩
  · exact hkept

@[simp] theorem entries_retagged (t : Tag) (n : Node) : (n.retagged t).entries = n.entries := by
  cases n <;> rfl

end Node

namespace Nodes

variable {nodes nodes' nodes'' : Nodes} {site : Site} {n : Node}

theorem get_put (s : Site) :
    (nodes.put site n).get s = if s = site ∧ site < nodes.size then n else nodes.get s := by
  rw [put, get, get, Array.getElem?_setIfInBounds]
  by_cases h : site = s
  · subst h
    by_cases hsize : site < nodes.size
    · simp [hsize]
    · simp [hsize]
  · simp [h, Ne.symm h]

@[simp] theorem size_put : (nodes.put site n).size = nodes.size := by
  simp [put]

/-- The nodes beyond the last one are empty. -/
theorem lt_size_of_entries (h : (nodes.get site).entries ≠ []) : site < nodes.size := by
  by_contra hsize
  rw [get, Array.getElem?_eq_none (Nat.le_of_not_lt hsize)] at h
  exact h rfl

/-- The number of merge keys of the mapping at the site. -/
def mergeKeys (nodes : Nodes) (site : Site) : Nat :=
  (nodes.get site).entries.countP fun e => (nodes.get e.1).tag == .merge

def mergeCount (nodes : Nodes) : Nat :=
  ∑ site ∈ Finset.range nodes.size, nodes.mergeKeys site

theorem foldl_add_eq_sum {α : Type} (f : α → Nat) (xs : List α) (start : Nat) (default : α) :
    xs.foldl (fun n x => n + f x) start =
      start + ∑ i ∈ Finset.range xs.length, f (xs[i]?.getD default) := by
  induction xs generalizing start with
  | nil => simp
  | cons x xs ih =>
    rw [List.foldl_cons, ih, List.length_cons, Finset.sum_range_succ']
    simp only [List.getElem?_cons_succ, List.getElem?_cons_zero, Option.getD_some]
    omega

/-- There are no more merge keys than entries. -/
theorem mergeCount_le_entryCount (nodes : Nodes) : nodes.mergeCount ≤ nodes.entryCount := by
  have hcount : nodes.entryCount =
      ∑ site ∈ Finset.range nodes.size, (nodes.get site).entries.length := by
    rw [entryCount, ← Array.foldl_toList,
      foldl_add_eq_sum (fun n : Node => n.entries.length) nodes.toList 0 Node.empty]
    simp [get]
  rw [hcount]
  exact Finset.sum_le_sum fun _ _ => List.countP_le_length

/-- What the nodes may become: some keys are texts, and entries went or came. Keys that stand for
their mappings do not come, and merge keys do not get more. -/
structure Later (nodes nodes' : Nodes) : Prop where
  size : nodes'.size = nodes.size
  alike : ∀ s, (nodes.get s).Alike (nodes'.get s)
  defaults : ∀ s, ∀ e ∈ (nodes'.get s).entries, (nodes'.get e.1).tag = .default →
    e ∈ (nodes.get s).entries
  merges : ∀ s, nodes'.mergeKeys s ≤ nodes.mergeKeys s

theorem Later.refl (nodes : Nodes) : Later nodes nodes :=
  ⟨rfl, fun _ => .refl _, fun _ _ he _ => he, fun _ => Nat.le_refl _⟩

theorem Later.kept (h : Later nodes nodes') (s : Site) :
    (nodes.get s).tag.Kept (nodes'.get s).tag :=
  (h.alike s).kept

/-- Mappings stay mappings. -/
theorem Later.mapping (h : Later nodes nodes') {t : Tag} {es : List Entry}
    (hnode : nodes.get site = .mapping t es) : ∃ t' es', nodes'.get site = .mapping t' es' := by
  have halike := h.alike site
  rw [hnode] at halike
  cases hnode' : nodes'.get site with
  | mapping t' es' => exact ⟨t', es', rfl⟩
  | _ => rw [hnode'] at halike; cases halike

theorem Later.trans (h : Later nodes nodes') (h' : Later nodes' nodes'') : Later nodes nodes'' where
  size := h'.size.trans h.size
  alike s := (h.alike s).trans (h'.alike s)
  defaults s e he htag :=
    h.defaults s e (h'.defaults s e he htag) ((h'.kept e.1).default_of htag)
  merges s := (h'.merges s).trans (h.merges s)

theorem Later.mergeCount_le (h : Later nodes nodes') : nodes'.mergeCount ≤ nodes.mergeCount := by
  rw [mergeCount, mergeCount, h.size]
  exact Finset.sum_le_sum fun s _ => h.merges s

theorem Later.mergeCount_lt (h : Later nodes nodes') (hsite : site < nodes.size)
    (hlt : nodes'.mergeKeys site < nodes.mergeKeys site) :
    nodes'.mergeCount < nodes.mergeCount := by
  rw [mergeCount, mergeCount, h.size]
  exact Finset.sum_lt_sum (fun s _ => h.merges s) ⟨site, Finset.mem_range.mpr hsite, hlt⟩

theorem isMerge_congr (h : ∀ s, (nodes.get s).tag.Kept (nodes'.get s).tag) (s : Site) :
    ((nodes'.get s).tag == .merge) = ((nodes.get s).tag == .merge) := by
  rw [Bool.eq_iff_iff, beq_iff_eq, beq_iff_eq]
  exact (h s).merge_iff

/-- Keys that are texts do not become anything else. -/
theorem later_asText (key : Site) : Later nodes (Rewriter.asText nodes key) := by
  rw [Rewriter.asText]
  split
  · next htag =>
    rw [beq_iff_eq] at htag
    have hentries : ∀ s, ((nodes.put key ((nodes.get key).retagged .text)).get s).entries =
        (nodes.get s).entries := by
      intro s
      rw [get_put]
      split
      · next hs => rw [hs.1, Node.entries_retagged]
      · rfl
    have halike : ∀ s, (nodes.get s).Alike
        ((nodes.put key ((nodes.get key).retagged .text)).get s) := by
      intro s
      rw [get_put]
      split
      · next hs =>
        rw [hs.1]
        exact Node.alike_retagged htag
      · exact .refl _
    refine ⟨size_put, halike, fun s e he _ => hentries s ▸ he, fun s => Nat.le_of_eq ?_⟩
    rw [mergeKeys, mergeKeys, hentries]
    exact List.countP_congr fun e _ => by rw [isMerge_congr (fun s => (halike s).kept)]
  · exact .refl _

theorem tag_asText_ne (key : Site) : ((Rewriter.asText nodes key).get key).tag ≠ .default := by
  rw [Rewriter.asText]
  split
  · rw [get_put]
    split
    · simp
    · next hsize =>
      rw [get, Array.getElem?_eq_none (Nat.le_of_not_lt fun h => hsize ⟨rfl, h⟩)]
      exact nofun
  · next htag => simpa using htag

/-- The keys stand for nothing. -/
def Settled (nodes : Nodes) (entries : List Entry) : Prop :=
  ∀ e ∈ entries, (nodes.get e.1).tag ≠ .merge ∧ (nodes.get e.1).tag ≠ .default

theorem Settled.later {entries : List Entry} (h : nodes.Settled entries)
    (hlater : Later nodes nodes') :
    nodes'.Settled entries := fun e he =>
  ⟨fun hmerge => (h e he).1 ((hlater.kept e.1).merge_iff.mp hmerge),
    fun hdefault => (h e he).2 ((hlater.kept e.1).default_of hdefault)⟩

theorem later_foldl_asText (own : List Entry) :
    Later nodes (own.foldl (fun nodes e => Rewriter.asText nodes e.1) nodes) := by
  induction own generalizing nodes with
  | nil => exact .refl _
  | cons e own ih => exact (later_asText e.1).trans ih

theorem tag_foldl_asText_ne {own : List Entry} {e : Entry} (he : e ∈ own) :
    ((own.foldl (fun nodes e => Rewriter.asText nodes e.1) nodes).get e.1).tag ≠ .default := by
  induction own generalizing nodes with
  | nil => cases he
  | cons e' own ih =>
    obtain rfl | he := List.mem_cons.mp he
    · exact fun htag => tag_asText_ne e.1 (((later_foldl_asText own).kept e.1).default_of htag)
    · exact ih he

/-- New entries of a mapping, with no more merge keys than before. -/
theorem later_setEntries {t : Tag} {own entries : List Entry} (hsize : site < nodes.size)
    (hnode : nodes.get site = .mapping t own)
    (hdefaults : ∀ e ∈ entries, (nodes.get e.1).tag = .default → e ∈ own)
    (hmerges : entries.countP (fun e => (nodes.get e.1).tag == .merge) ≤ nodes.mergeKeys site) :
    Later nodes (nodes.put site (.mapping t entries)) ∧
      (nodes.put site (.mapping t entries)).mergeKeys site =
        entries.countP fun e => (nodes.get e.1).tag == .merge := by
  have hget : (nodes.put site (.mapping t entries)).get site = .mapping t entries := by
    rw [get_put, if_pos ⟨rfl, hsize⟩]
  have hother : ∀ s ≠ site, (nodes.put site (.mapping t entries)).get s = nodes.get s :=
    fun s hs => by rw [get_put, if_neg fun h => hs h.1]
  have halike : ∀ s, (nodes.get s).Alike ((nodes.put site (.mapping t entries)).get s) := by
    intro s
    by_cases hs : s = site
    · rw [hs, hget, hnode]
      exact .inl rfl
    · rw [hother s hs]
      exact .refl _
  have hcongr : ∀ es : List Entry, es.countP (fun e =>
      ((nodes.put site (.mapping t entries)).get e.1).tag == .merge) =
        es.countP fun e => (nodes.get e.1).tag == .merge := fun es =>
    List.countP_congr fun e _ => by rw [isMerge_congr fun s => (halike s).kept]
  have hcount : (nodes.put site (.mapping t entries)).mergeKeys site =
      entries.countP fun e => (nodes.get e.1).tag == .merge := by
    rw [mergeKeys, hget]
    exact hcongr entries
  refine ⟨⟨size_put, halike, fun s e he htag => ?_, fun s => ?_⟩, hcount⟩
  · have htag' := ((halike e.1).kept).default_of htag
    by_cases hs : s = site
    · rw [hs, hget] at he
      rw [hs, hnode]
      exact hdefaults e he htag'
    · rwa [hother s hs] at he
  · by_cases hs : s = site
    · rw [hs]
      exact hcount.le.trans hmerges
    · rw [mergeKeys, mergeKeys, hother s hs]
      exact (hcongr _).le

/-- New entries of a mapping whose keys stand for nothing. -/
theorem later_settled {t : Tag} {own entries : List Entry} (hsize : site < nodes.size)
    (hnode : nodes.get site = .mapping t own) (hsettled : nodes.Settled entries) :
    Later nodes (nodes.put site (.mapping (nodes.get site).tag entries)) := by
  have htag : (nodes.get site).tag = t := by rw [hnode]; rfl
  have hmerges : entries.countP (fun e => (nodes.get e.1).tag == .merge) = 0 :=
    List.countP_eq_zero.mpr fun e he => by simpa using (hsettled e he).1
  rw [htag]
  exact (later_setEntries hsize hnode (fun e he hdefault => absurd hdefault (hsettled e he).2)
    (hmerges ▸ Nat.zero_le _)).1

end Nodes

namespace Rewriter

open Nodes

variable {nodes : Nodes}

theorem run_get_bind {α : Type} (f : Nodes → Rewriter α) :
    (get >>= f).run nodes = (f nodes).run nodes := rfl

theorem not_merge_of_firstMerge {entries : List Entry} (h : firstMerge nodes entries = none) :
    ∀ e ∈ entries, (nodes.get e.1).tag ≠ .merge := by
  induction entries with
  | nil => exact nofun
  | cons e rest ih =>
    obtain ⟨key, value⟩ := e
    rw [firstMerge] at h
    split at h
    · cases h
    · next htag =>
      exact List.forall_mem_cons.mpr ⟨by simpa using htag, ih (Option.map_eq_none_iff.mp h)⟩

/-- The entries without the first merge key are fewer by this one. -/
theorem firstMerge_eq_some {entries rest : List Entry} {source : Site}
    (h : firstMerge nodes entries = some (source, rest)) :
    rest ⊆ entries ∧ rest.countP (fun e => (nodes.get e.1).tag == .merge) + 1 =
      entries.countP fun e => (nodes.get e.1).tag == .merge := by
  induction entries generalizing rest with
  | nil => cases h
  | cons e more ih =>
    obtain ⟨key, value⟩ := e
    rw [firstMerge] at h
    split at h
    · next htag =>
      cases h
      exact ⟨List.subset_cons_self _ _, by rw [List.countP_cons, if_pos htag]⟩
    · next htag =>
      obtain ⟨⟨source', rest'⟩, hmore, heq⟩ := Option.map_eq_some_iff.mp h
      cases heq
      obtain ⟨hsubset, hcount⟩ := ih hmore
      refine ⟨List.cons_subset_cons _ hsubset, ?_⟩
      rw [List.countP_cons, List.countP_cons, if_neg htag]
      exact hcount

/-- With fewer merge keys than the bound the rewriter does not run out of calls, and gives entries
whose keys stand for nothing. -/
def Settles (bound : Nat) (r : Rewriter (List Entry)) : Prop :=
  ∀ nodes, nodes.mergeCount < bound →
    Ends (fun p => Later nodes p.2 ∧ p.2.Settled p.1) IsMalformed (r.run nodes)

variable {bound : Nat} {flat : Site → Rewriter (List Entry)}

theorem settles_append {first : Rewriter (List Entry)} {second : Rewriter (List Entry)}
    (hfirst : Settles bound first) (hsecond : Settles bound second)
    (join : List Entry → List Entry → List Entry)
    (hjoin : ∀ xs ys, ∀ e ∈ join xs ys, e ∈ xs ∨ e ∈ ys) :
    Settles bound (do
      let xs ← first
      let ys ← second
      return join xs ys) := by
  intro nodes hbound
  refine (hfirst nodes hbound).bind ?_
  rintro ⟨xs, nodes'⟩ ⟨hlater, hxs⟩
  refine (hsecond nodes' (hlater.mergeCount_le.trans_lt hbound)).bind ?_
  rintro ⟨ys, nodes''⟩ ⟨hlater', hys⟩
  refine ⟨hlater.trans hlater', fun e he => ?_⟩
  obtain hx | hy := hjoin xs ys e he
  · exact hxs.later hlater' e hx
  · exact hys e hy

theorem settles_mergedAll (h : ∀ site, Settles bound (flat site)) (sites : List Site) :
    Settles bound (mergedAll flat sites) := by
  induction sites with
  | nil => exact fun nodes _ => ⟨.refl _, nofun⟩
  | cons site rest ih =>
    have hboth := settles_append (h site) ih (fun xs ys => ys ++ xs) fun xs ys e he =>
      (List.mem_append.mp he).symm
    intro nodes hbound
    rw [mergedAll, run_get_bind]
    split
    · exact hboth nodes hbound
    · exact .of _

theorem settles_merged (h : ∀ site, Settles bound (flat site)) (source : Site) :
    Settles bound (merged flat source) := by
  intro nodes hbound
  rw [merged, run_get_bind]
  split
  · exact h source nodes hbound
  · exact settles_mergedAll h _ nodes hbound
  · exact .of _

/-- More calls than there are merge keys are enough to flatten a mapping. -/
theorem settles_flattened (bound : Nat) (site : Site) : Settles bound (flattened bound site) := by
  induction bound generalizing site with
  | zero => exact fun _ hbound => absurd hbound (Nat.not_lt_zero _)
  | succ bound ih =>
    intro nodes hbound
    rw [flattened, run_get_bind]
    dsimp only
    split
    · next hnone =>
      have hlater : Later nodes _ := later_foldl_asText (nodes.get site).entries
      refine ⟨hlater, fun e he => ⟨fun hmerge => ?_, tag_foldl_asText_ne he⟩⟩
      exact not_merge_of_firstMerge hnone e he ((hlater.kept e.1).merge_iff.mp hmerge)
    · next source rest hsome =>
      obtain ⟨hsubset, hcount⟩ := firstMerge_eq_some hsome
      cases hnode : nodes.get site with
      | scalar => rw [hnode] at hsome; cases hsome
      | sequence => rw [hnode] at hsome; cases hsome
      | mapping t own =>
        have hown : (nodes.get site).entries = own := by rw [hnode]; rfl
        have hsize : site < nodes.size := by
          refine lt_size_of_entries fun hnil => ?_
          rw [hnil] at hsome
          cases hsome
        rw [hown] at hsubset hcount
        have hkeys : nodes.mergeKeys site = own.countP fun e => (nodes.get e.1).tag == .merge := by
          rw [mergeKeys, hown]
        have hdefaults : ∀ e ∈ rest, (nodes.get e.1).tag = .default → e ∈ own :=
          fun e he _ => hsubset he
        obtain ⟨hlater, hfewer⟩ := later_setEntries hsize hnode hdefaults (by omega)
        have hbound' := hlater.mergeCount_lt hsize (by omega)
        have hboth := settles_append (settles_merged ih source) (ih site) (· ++ ·)
          fun _ _ _ he => List.mem_append.mp he
        have hrest := hboth _ (Nat.lt_of_lt_of_le hbound' (Nat.lt_succ_iff.mp hbound))
        have htag : t = (nodes.get site).tag := by rw [hnode]; rfl
        rw [htag] at hlater hrest
        change Ends _ _ ((do
          let before ← merged (flattened bound) source
          let own ← flattened bound site
          setEntries site (before ++ own)
          return before ++ own : Rewriter (List Entry)).run
            (nodes.put site (.mapping (nodes.get site).tag rest)))
        have hfinish : ∀ p : List Entry × Nodes,
            (Later (nodes.put site (.mapping (nodes.get site).tag rest)) p.2 ∧ p.2.Settled p.1) →
              Ends (fun p => Later nodes p.2 ∧ p.2.Settled p.1) IsMalformed
                ((do
                  setEntries site p.1
                  return p.1 : Rewriter (List Entry)).run p.2) := by
          rintro ⟨entries, nodes'⟩ ⟨hlater', hsettled⟩
          have hlater' := hlater.trans hlater'
          obtain ⟨t', es', hnode'⟩ := hlater'.mapping hnode
          have hput := later_settled (hlater'.size.symm ▸ hsize) hnode' hsettled
          exact ⟨hlater'.trans hput, hsettled.later hput⟩
        simpa [StateT.run_bind, bind_assoc] using hrest.bind hfinish

end Rewriter

end DomainCompiler.Yaml
