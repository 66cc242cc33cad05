import DomainCompiler.Proofs.Yaml.Composing
import DomainCompiler.Proofs.Yaml.Merging
import DomainCompiler.Yaml.Document

/-!
# What stops the building of values

Nodes become values, or they break a rule, or a scalar does not write a value of its tag, or
mappings stand for each other in a circle. The faults of scalars are told apart by the tag.
-/

namespace DomainCompiler.Yaml

/-! ### Scalars -/

/-- What may be wrong with the text of a scalar of the tag. -/
def Tag.MayFail : Tag → ScalarError → Prop
  | .bool, .truth _ => True
  | .int, .whole .. => True
  | .int, .tooLong _ => True
  | .int, .empty => True
  | .float, .decimal _ => True
  | .float, .overflow => True
  | .float, .empty => True
  | .timestamp, .moment => True
  | .timestamp, .calendar _ => True
  | .timestamp, .notText => True
  | _, _ => False

namespace Scalar

/-- A rule is broken, or the text is none of the tag. -/
def StopsWith (tag : Tag) (f : Fault) : Prop :=
  IsMalformed f ∨ ∃ e, f = .scalar e ∧ tag.MayFail e

theorem StopsWith.of {tag : Tag} {e : ScalarError} (h : tag.MayFail e) :
    StopsWith tag (.scalar e) :=
  .inr ⟨e, rfl, h⟩

theorem whole_ends (base : Nat) (s : List Char) :
    Ends (fun _ => True) (StopsWith .int) (whole base s) := by
  rw [whole]
  dsimp only
  split
  · exact .of trivial
  · split
    · trivial
    · exact .of trivial

theorem unsignedWhole_ends (s : List Char) :
    Ends (fun _ => True) (StopsWith .int) (unsignedWhole s) := by
  rw [unsignedWhole.eq_def]
  split
  · exact .of trivial
  · trivial
  · exact whole_ends _ _
  · exact whole_ends _ _
  · exact whole_ends _ _
  · split
    · exact (Ends.mapM fun _ _ => whole_ends _ _).bind fun _ _ => trivial
    · exact whole_ends _ _

theorem int_ends (text : String) : Ends (fun _ => True) (StopsWith .int) (int text) := by
  rw [int]
  split
  · exact .of trivial
  · exact (unsignedWhole_ends _).bind fun _ _ => trivial

theorem decimal_ends (s : List Char) : Ends (fun _ => True) (StopsWith .float) (decimal s) := by
  rw [decimal]
  dsimp only
  split
  · trivial
  · trivial
  · exact .of trivial

theorem sixtiesFrom_ends (sum : Binary64) (unit : Nat) (parts : List Binary64) :
    Ends (fun _ => True) (StopsWith .float) (sixtiesFrom sum unit parts) := by
  induction parts generalizing sum unit with
  | nil => trivial
  | cons x rest ih =>
    rw [sixtiesFrom]
    exact (ih _ _).ite (.of trivial)

theorem unsignedFloat_ends (s : List Char) :
    Ends (fun _ => True) (StopsWith .float) (unsignedFloat s) := by
  rw [unsignedFloat]
  refine Ends.ite trivial <| Ends.ite trivial <| Ends.ite ?_ (decimal_ends _)
  exact (Ends.mapM fun _ _ => decimal_ends _).bind fun _ _ => sixtiesFrom_ends _ _ _

theorem float_ends (text : String) : Ends (fun _ => True) (StopsWith .float) (float text) := by
  rw [float]
  split
  · exact .of trivial
  · exact (unsignedFloat_ends _).bind fun _ _ => trivial

theorem bool_ends (text : String) : Ends (fun _ => True) (StopsWith .bool) (bool text) := by
  rw [bool]
  exact Ends.ite trivial <| Ends.ite trivial <| .of trivial

theorem timestamp_ends (site : Nat) (text : String) :
    Ends (fun _ => True) (StopsWith .timestamp) (timestamp site text) := by
  rw [timestamp]
  split
  · exact .of trivial
  · next t _ =>
    dsimp only
    split
    · cases Date.make t.year t.month t.day
      · exact .of trivial
      · trivial
    · next c _ =>
      cases Moment.make (Date.make t.year t.month t.day) c.hour c.minute c.second c.microsecond
        c.offset
      · exact .of trivial
      · trivial

theorem binary_ends (text : String) : Ends (fun _ => True) (StopsWith .binary) (binary text) := by
  rw [binary]
  split
  · split
    · trivial
    · exact .inl (.of _)
  · exact .inl (.of _)

/-- A scalar is read, or it breaks a rule, or its text is none of the tag. -/
theorem read_ends (tag : Tag) (site : Nat) (text : String) :
    Ends (fun _ => True) (StopsWith tag) (Scalar.read tag site text) := by
  rw [Scalar.read.eq_def]
  split
  · trivial
  · exact bool_ends _
  · exact int_ends _
  · exact float_ends _
  · exact timestamp_ends _ _
  · exact binary_ends _
  · trivial
  · exact .inl (.of _)

end Scalar

/-! ### Scalars of nodes -/

namespace Nodes

variable {nodes nodes' : Nodes} {a b s : Site} {text : String}

/-- The value of the key of its own stands for the mapping at the first site. -/
def StandsFor (nodes : Nodes) (a b : Site) : Prop :=
  ∃ t es key, nodes.get a = .mapping t es ∧ (key, b) ∈ es ∧ (nodes.get key).tag = .default

/-- The text of the node at the site, or of the one that stands for it. -/
inductive Denotes (nodes : Nodes) : Site → String → Prop where
  | scalar {t : Tag} {s : Site} {text : String} (node : nodes.get s = .scalar t text) :
      Denotes nodes s text
  | mapping {a b : Site} {text : String} (stands : nodes.StandsFor a b)
      (denotes : Denotes nodes b text) :
      Denotes nodes a text

/-- The error is that of a node whose text, or kind, is none of its tag. -/
def Misfits (nodes : Nodes) (e : ScalarError) : Prop :=
  ∃ s, (nodes.get s).tag.MayFail e ∧
    ((∃ text, nodes.Denotes s text ∧ Scalar.read (nodes.get s).tag s text = .error (.scalar e)) ∨
      (e = .notText ∧ ∃ es, nodes.get s = .mapping .timestamp es))

/-- Mappings stand for each other in a circle. -/
def Circular (nodes : Nodes) : Prop :=
  ∃ s, Relation.TransGen nodes.StandsFor s s

/-- A rule is broken, or a scalar is none of its tag, or mappings stand for each other. -/
def StopsIn (nodes : Nodes) (f : Fault) : Prop :=
  IsMalformed f ∨ (∃ e, f = .scalar e ∧ nodes.Misfits e) ∨ (f = .endless ∧ nodes.Circular)

theorem StopsIn.malformed (rule : Malformed) : nodes.StopsIn (.malformed rule) :=
  .inl (.of rule)

theorem StandsFor.lt_size (h : nodes.StandsFor a b) : a < nodes.size := by
  obtain ⟨t, es, key, hnode, hmem, -⟩ := h
  refine lt_size_of_entries fun hnil => ?_
  rw [hnode] at hnil
  exact List.ne_nil_of_mem hmem hnil

/-- A chain that is longer than there are nodes comes back to one of them. -/
theorem circular_of_chain {chain : Nat → Site}
    (h : ∀ i ≤ nodes.size, nodes.StandsFor (chain i) (chain (i + 1))) : nodes.Circular := by
  have hmaps : ∀ i ∈ Finset.range (nodes.size + 1), chain i ∈ Finset.range nodes.size :=
    fun i hi => Finset.mem_range.mpr (h i (Nat.lt_succ_iff.mp (Finset.mem_range.mp hi))).lt_size
  have hcard : (Finset.range nodes.size).card < (Finset.range (nodes.size + 1)).card := by simp
  obtain ⟨i, hi, j, hj, hne, heq⟩ := Finset.exists_ne_map_eq_of_card_lt_of_maps_to hcard hmaps
  have hpath : ∀ i k, i + k ≤ nodes.size →
      Relation.TransGen nodes.StandsFor (chain i) (chain (i + k + 1)) := by
    intro i k hk
    induction k with
    | zero => exact .single (h i hk)
    | succ k ih => exact (ih (by omega)).tail (h (i + k + 1) (by omega))
  have hcircle : ∀ i j, i < j → j ≤ nodes.size → chain i = chain j → nodes.Circular := by
    intro i j hij hj heq
    obtain ⟨k, rfl⟩ := Nat.exists_eq_add_of_lt hij
    have hp := hpath i k (by omega)
    rw [← heq] at hp
    exact ⟨chain i, hp⟩
  have hi' := Nat.lt_succ_iff.mp (Finset.mem_range.mp hi)
  have hj' := Nat.lt_succ_iff.mp (Finset.mem_range.mp hj)
  obtain hlt | hlt := Nat.lt_or_gt_of_ne hne
  · exact hcircle i j hlt hj' heq
  · exact hcircle j i hlt hi' heq.symm

/-- A chain of so many steps begins at the site. -/
def HasChain (nodes : Nodes) (steps : Nat) (s : Site) : Prop :=
  ∃ chain : Nat → Site, chain 0 = s ∧ ∀ i < steps, nodes.StandsFor (chain i) (chain (i + 1))

theorem HasChain.cons {steps : Nat} (h : nodes.StandsFor a b) (hb : nodes.HasChain steps b) :
    nodes.HasChain (steps + 1) a := by
  obtain ⟨chain, rfl, hchain⟩ := hb
  refine ⟨fun i => i.casesOn a chain, rfl, fun i hi => ?_⟩
  cases i with
  | zero => exact h
  | succ i => exact hchain i (Nat.lt_of_succ_lt_succ hi)

theorem scalarTextWithin_ends (hlater : Later nodes nodes') (fuel : Nat) (s : Site) :
    Ends (nodes.Denotes s) (fun f => IsMalformed f ∨ (f = .endless ∧ nodes.HasChain fuel s))
      (nodes'.scalarTextWithin fuel s) := by
  induction fuel generalizing s with
  | zero => exact .inr ⟨rfl, fun _ => s, rfl, nofun⟩
  | succ fuel ih =>
    have halike := hlater.alike s
    rw [scalarTextWithin]
    split
    · next t text hnode' =>
      rw [hnode'] at halike
      cases hnode : nodes.get s with
      | scalar t' text' =>
        rw [hnode] at halike
        exact .scalar (halike.1 ▸ hnode)
      | sequence => rw [hnode] at halike; cases halike
      | mapping => rw [hnode] at halike; cases halike
    · exact .inl (.of _)
    · next t es hnode' =>
      split
      · next e he =>
        have hmem := List.mem_of_find?_eq_some he
        have htag : (nodes'.get e.1).tag = .default := by simpa using List.find?_some he
        rw [hnode'] at halike
        have hstands : nodes.StandsFor s e.2 := by
          have hold := hlater.defaults s e (by rw [hnode']; exact hmem) htag
          cases hnode : nodes.get s with
          | mapping t' es' =>
            rw [hnode] at hold
            exact ⟨t', es', e.1, hnode, hold, (hlater.kept e.1).default_of htag⟩
          | _ => rw [hnode] at hold; cases hold
        exact (ih e.2).imp (fun _ htext => .mapping hstands htext) fun f hf =>
          hf.imp_right fun hendless => ⟨hendless.1, .cons hstands hendless.2⟩
      · exact .inl (.of _)

theorem scalarText_ends (hlater : Later nodes nodes') (s : Site) :
    Ends (nodes.Denotes s) nodes.StopsIn (nodes'.scalarText s) := by
  refine (scalarTextWithin_ends hlater _ s).imp (fun _ h => h) fun f hf => ?_
  obtain hrule | ⟨rfl, chain, -, hchain⟩ := hf
  · exact .inl hrule
  · rw [hlater.size] at hchain
    exact .inr (.inr ⟨rfl, circular_of_chain fun i hi => hchain i (Nat.lt_succ_of_le hi)⟩)

theorem scalarRead_ends (hlater : Later nodes nodes') (htext : nodes.Denotes s text) :
    Ends (fun _ => True) nodes.StopsIn (Scalar.read (nodes'.get s).tag s text) := by
  have hread := Scalar.read_ends (nodes'.get s).tag s text
  cases hresult : Scalar.read (nodes'.get s).tag s text with
  | ok v => trivial
  | error f =>
    obtain hrule | ⟨e, rfl, hmay⟩ := hread.of_error hresult
    · exact .inl hrule
    · obtain htag | ⟨-, htag⟩ := hlater.kept s
      · rw [htag] at hmay hresult
        exact .inr (.inl ⟨e, rfl, s, hmay, .inl ⟨text, htext, hresult⟩⟩)
      · rw [htag] at hmay
        cases hmay

theorem misfits_of_timestamp (hlater : Later nodes nodes') {t : Tag} {es : List Entry}
    (hnode : nodes'.get s = .mapping t es) (htag : (nodes'.get s).tag = .timestamp) :
    nodes.Misfits .notText := by
  have halike := hlater.alike s
  obtain hkept | ⟨-, htext⟩ := hlater.kept s
  · rw [hnode] at halike
    cases hold : nodes.get s with
    | mapping t' es' =>
      have ht' : t' = .timestamp := by
        rw [htag, hold] at hkept
        exact hkept.symm
      exact ⟨s, by rw [← hkept, htag]; trivial, .inr ⟨rfl, es', by rw [hold, ht']⟩⟩
    | _ => rw [hold] at halike; cases halike
  · rw [htag] at htext
    cases htext

/-- The scalar at a site is read, or it stops the building. -/
theorem scalarPart_ends (hlater : Later nodes nodes') (s : Site) :
    Ends (fun _ => True) nodes.StopsIn (nodes'.scalarPart s) := by
  rw [scalarPart]
  refine Ends.ite (.malformed _) ((scalarText_ends hlater s).bind fun text htext => ?_)
  split
  · next t es hnode htag =>
    exact .inr (.inl ⟨.notText, rfl, misfits_of_timestamp hlater hnode htag⟩)
  · exact (scalarRead_ends hlater htext).bind fun _ _ => trivial

end Nodes

/-! ### Collections -/

namespace Builder

/-- The nodes are what those of the document may become, which bounds their merge keys. -/
def Goes (nodes : Nodes) (b : Building) : Prop :=
  Nodes.Later nodes b.nodes ∧ b.entryCount = nodes.entryCount

/-- The builder changes nothing but merged entries and stops for no other reason. -/
def Keeps {α : Type} (nodes : Nodes) (r : Builder α) : Prop :=
  Runs (Goes nodes) r (fun _ => Goes nodes) nodes.StopsIn

variable {α β : Type} {nodes : Nodes} {r : Builder α}

theorem Keeps.pure (a : α) : Keeps nodes (pure a) := Runs.pure fun _ hb => hb

theorem Keeps.bind {f : α → Builder β} (hr : Keeps nodes r) (hf : ∀ a, Keeps nodes (f a)) :
    Keeps nodes (r >>= f) :=
  Runs.bind hr hf

theorem Keeps.ite {c : Prop} [Decidable c] {r' : Builder α} (hr : Keeps nodes r)
    (hr' : Keeps nodes r') : Keeps nodes (if c then r else r') := by
  split
  · exact hr
  · exact hr'

theorem Keeps.forM {f : β → Builder Unit} (h : ∀ x, Keeps nodes (f x)) (xs : List β) :
    Keeps nodes (xs.forM f) := by
  induction xs with
  | nil => exact .pure _
  | cons x xs ih => exact (h x).bind fun _ => ih

theorem keeps_fails (rule : Malformed) : Keeps nodes (fails rule : Builder α) :=
  Runs.throw (.malformed rule)

theorem Keeps.get_bind {f : Building → Builder β} (h : ∀ b, Goes nodes b → Keeps nodes (f b)) :
    Keeps nodes (get >>= f) :=
  fun b hb => h b hb b hb

theorem Keeps.lift_bind {good : α → Prop} {x : Except Fault α} {f : α → Builder β}
    (hx : Ends good nodes.StopsIn x) (hf : ∀ a, good a → Keeps nodes (f a)) :
    Keeps nodes (liftM x >>= f) := by
  intro b hb
  cases x with
  | ok a => exact hf a hx b hb
  | error e => exact hx

theorem keeps_set {b : Building} (h : Goes nodes b) : Keeps nodes (set b) := fun _ _ => h

theorem keeps_nodeAt (site : Site) : Keeps nodes (nodeAt site) :=
  Keeps.get_bind fun _ _ => .pure _

theorem keeps_put (site : Site) (part : Part) : Keeps nodes (put site part) := fun _ hb => hb

theorem keeps_meet (site : Site) : Keeps nodes (meet site) := by
  refine Keeps.get_bind fun b hb => Keeps.ite (.pure _) (Keeps.ite ?_ ?_)
  · exact (keeps_put _ _).bind fun _ _ hb => hb
  · exact Keeps.lift_bind (Nodes.scalarPart_ends hb.1 site) fun _ _ => keeps_put _ _

theorem keeps_meetEntry (e : Entry) : Keeps nodes (meetEntry e) := by
  refine (keeps_meet _).bind fun _ => (keeps_nodeAt _).bind fun n => ?_
  exact Keeps.ite ((keeps_fails _).bind fun _ => keeps_meet _) (keeps_meet _)

theorem keeps_meetPairs (sites : List Site) : Keeps nodes (meetPairs sites) := by
  induction sites with
  | nil => exact .pure _
  | cons site rest ih =>
    rw [meetPairs]
    refine (keeps_nodeAt _).bind fun n => ?_
    split
    · exact (keeps_meet _).bind fun _ => (keeps_meet _).bind fun _ => ih.bind fun _ => .pure _
    · exact keeps_fails _

theorem keeps_meetEntries (site : Site) : Keeps nodes (meetEntries site) := by
  refine Keeps.get_bind fun b hb => ?_
  have hfuel : b.nodes.mergeCount < b.entryCount + 1 := by
    rw [hb.2]
    exact Nat.lt_succ_of_le (hb.1.mergeCount_le.trans (Nodes.mergeCount_le_entryCount nodes))
  have hflat := (Rewriter.settles_flattened (b.entryCount + 1) site b.nodes hfuel).imp
    (fun _ h => h) fun _ hf => (.inl hf : nodes.StopsIn _)
  refine Keeps.lift_bind hflat ?_
  rintro ⟨entries, nodes'⟩ ⟨hlater, -⟩
  have hgoes : Goes nodes { b with nodes := nodes' } := ⟨hb.1.trans hlater, hb.2⟩
  refine (keeps_set hgoes).bind fun _ => ?_
  exact (Keeps.forM keeps_meetEntry _).bind fun _ => Keeps.get_bind fun _ _ => .pure _

theorem keeps_build (site : Site) : Keeps nodes (build site) := by
  refine (keeps_nodeAt _).bind fun n => ?_
  split
  · exact (Keeps.forM keeps_meet _).bind fun _ => keeps_put _ _
  · exact (keeps_meetPairs _).bind fun _ => keeps_put _ _
  · exact (keeps_meetPairs _).bind fun _ => keeps_put _ _
  · exact (keeps_meetEntries _).bind fun _ => keeps_put _ _
  · exact (keeps_meetEntries _).bind fun _ => keeps_put _ _
  · exact keeps_fails _

theorem keeps_buildFrom (sites first : Nat) : Keeps nodes (buildFrom sites first) := by
  induction sites generalizing first with
  | zero => exact .pure _
  | succ sites ih =>
    rw [buildFrom]
    refine Keeps.get_bind fun b _ => ?_
    split
    · exact (keeps_build _).bind fun _ => ih _
    · exact .pure _

end Builder

/-- Where nodes have no value they break a rule, or a scalar is none of its tag, or mappings stand
for each other. -/
theorem Graph.stopsIn_of_value {g : Graph} {f : Fault} (hf : g.value = .error f) :
    g.nodes.StopsIn f := by
  have hbuild : Builder.Keeps g.nodes (do
      Builder.meet g.root
      Builder.buildFrom g.nodes.size 0) :=
    (Builder.keeps_meet _).bind fun _ => Builder.keeps_buildFrom _ _
  have hrun := hbuild ⟨g.nodes, g.nodes.entryCount, g.nodes.map fun _ => none, #[]⟩
    ⟨.refl _, rfl⟩
  have hvalue : Ends (fun _ => True) g.nodes.StopsIn g.value := hrun.bind fun _ _ => trivial
  exact hvalue.of_error hf

end DomainCompiler.Yaml
