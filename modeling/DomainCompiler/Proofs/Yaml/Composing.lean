import DomainCompiler.Proofs.Yaml.Scanning
import DomainCompiler.Yaml.Node.Reader

/-!
# What stops the reading of nodes

Tokens are read to nodes, or they break a rule, or collections lie too deep, or the tokens end at a
fault of the text. No other fault comes up here: the nodes are not looked into. How deep the reader
is in collections can be told from the tokens behind it.
-/

namespace DomainCompiler.Yaml

/-! ### Open collections -/

namespace Token

/-- The token that ends what the token begins. -/
def closer : Token → Option Token
  | .flowSequence => some .flowSequenceEnd
  | .flowMapping => some .flowMappingEnd
  | .blockSequence => some .blockEnd
  | .blockMapping => some .blockEnd
  | _ => none

def isEnd (t : Token) : Bool :=
  t == .flowSequenceEnd || t == .flowMappingEnd || t == .blockEnd

end Token

/-- The tokens behind which some collections are open, given by the tokens that begin them, the
innermost first. A key in a sequence begins a mapping of one entry, and an entry in a mapping begins
a sequence; these two have no token for their end. -/
inductive Leaves : List Token → List Token → Prop where
  | nothing : Leaves [] []
  | begins {ts opened : List Token} {t t' : Token} (closer : t.closer = some t')
      (before : Leaves ts opened) : Leaves (ts ++ [t]) (t :: opened)
  | ends {ts opened : List Token} {t t' : Token} (closer : t.closer = some t')
      (before : Leaves ts (t :: opened)) : Leaves (ts ++ [t']) opened
  | key {ts opened : List Token} (before : Leaves ts (.flowSequence :: opened)) :
      Leaves (ts ++ [.key]) (.key :: .flowSequence :: opened)
  | entry {ts opened : List Token} (before : Leaves ts (.blockMapping :: opened)) :
      Leaves (ts ++ [.entry]) (.entry :: .blockMapping :: opened)
  | over {ts opened : List Token} {t : Token} (closer : t.closer = none)
      (before : Leaves ts (t :: opened)) : Leaves ts opened
  | inside {ts opened : List Token} {t : Token} (closer : t.closer = none) (isEnd : t.isEnd = false)
      (before : Leaves ts opened) : Leaves (ts ++ [t]) opened

/-- Behind some of the tokens more collections are open than are read. -/
def TooDeep (ts : List Token) : Prop :=
  ∃ read opened, read <:+: ts ∧ Leaves read opened ∧ Reader.depthLimit < opened.length

theorem TooDeep.within {ts ts' : List Token} (h : TooDeep ts) (hts : ts <:+: ts') :
    TooDeep ts' := by
  obtain ⟨read, opened, hread, hleaves, hlength⟩ := h
  exact ⟨read, opened, hread.trans hts, hleaves, hlength⟩

namespace Reader

/-- A rule is broken, collections lie too deep, or the text has the fault. -/
def StopsAt (tokens : Tokens) (f : Fault) : Prop :=
  IsMalformed f ∨ (f = .endless ∧ TooDeep tokens.list) ∨ tokens.fault = some f

/-- The tokens up to the next one leave the collections open; the depth counts some of them. -/
structure At (tokens : Tokens) (opened : List Token) (depth : Nat) (s : Reading) : Prop where
  fault : s.fault = tokens.fault
  depth : s.depth = depth
  read : ∃ read, read ++ s.tokens = tokens.list ∧ Leaves read opened

/-- At the place, in front of the token. -/
def AtToken (tokens : Tokens) (opened : List Token) (depth : Nat) (t : Option Token) (s : Reading) :
    Prop :=
  At tokens opened depth s ∧ s.tokens.head? = t

/-- The reader goes from one place to another and stops for no other reason. -/
def Goes {α : Type} (tokens : Tokens) (before : List Token × Nat) (r : Reader α)
    (after : List Token × Nat) : Prop :=
  Runs (At tokens before.1 before.2) r (fun _ => At tokens after.1 after.2) (StopsAt tokens)

/-- The same from in front of a token. -/
def GoesAt {α : Type} (tokens : Tokens) (before : List Token × Nat) (t : Option Token)
    (r : Reader α) (after : List Token × Nat) : Prop :=
  Runs (AtToken tokens before.1 before.2 t) r (fun _ => At tokens after.1 after.2) (StopsAt tokens)

/-- The reader ends with the collections open that were open before. -/
abbrev Keeps {α : Type} (tokens : Tokens) (opened : List Token) (r : Reader α) : Prop :=
  Goes tokens (opened, opened.length) r (opened, opened.length)

/-- The token leads from one list of open collections to the other. -/
def Leads (t : Token) (opened opened' : List Token) : Prop :=
  ∀ read, Leaves read opened → Leaves (read ++ [t]) opened'

section

variable {α β : Type} {tokens : Tokens} {opened opened' : List Token} {depth depth' : Nat}
  {before middle after : List Token × Nat} {next? : Option Token} {t t' : Token} {r : Reader α}

theorem leads_of_closer (h : t.closer = some t') : Leads t opened (t :: opened) :=
  fun _ hread => .begins h hread

theorem leads_of_end (h : t.closer = some t') : Leads t' (t :: opened) opened :=
  fun _ hread => .ends h hread

theorem leads_inside (h : t.closer = none) (hend : t.isEnd = false) : Leads t opened opened :=
  fun _ hread => .inside h hend hread

/-! ### Steps of the reader -/

theorem Goes.pure (a : α) : Goes tokens before (pure a) before := Runs.pure fun _ hs => hs

theorem Goes.bind {f : α → Reader β} (hr : Goes tokens before r middle)
    (hf : ∀ a, Goes tokens middle (f a) after) : Goes tokens before (r >>= f) after :=
  Runs.bind hr hf

theorem Goes.ite {c : Prop} [Decidable c] {r' : Reader α} (hr : Goes tokens before r after)
    (hr' : Goes tokens before r' after) : Goes tokens before (if c then r else r') after := by
  split
  · exact hr
  · exact hr'

theorem GoesAt.ite {c : Prop} [Decidable c] {r' : Reader α}
    (hr : c → GoesAt tokens before next? r after)
    (hr' : GoesAt tokens before next? r' after) :
    GoesAt tokens before next? (if c then r else r') after := by
  split
  · next h => exact hr h
  · exact hr'

theorem Goes.at (h : Goes tokens before r after) : GoesAt tokens before next? r after :=
  fun s hs => h s hs.1

/-- Collections without a token for their end are over where the reader leaves them. -/
theorem Goes.over (h : t.closer = none) (hr : Goes tokens before r (t :: opened, depth)) :
    Goes tokens before r (opened, depth) :=
  Runs.imp hr (fun _ hs => hs) fun _ _ hs =>
    ⟨hs.fault, hs.depth, hs.read.imp fun _ hread => ⟨hread.1, .over h hread.2⟩⟩

theorem goes_fails (rule : Malformed) : Goes tokens before (fails rule : Reader α) after :=
  Runs.throw (.inl (.of rule))

theorem Goes.get_bind {f : Reading → Reader β} (h : ∀ s, Goes tokens before (f s) after) :
    Goes tokens before (get >>= f) after :=
  fun s hs => h s s hs

theorem goes_modify {f : Reading → Reading}
    (h : ∀ s, (f s).fault = s.fault ∧ (f s).depth = s.depth ∧ (f s).tokens = s.tokens) :
    Goes tokens before (modify f) before := by
  refine Runs.modify fun s hs => ?_
  obtain ⟨hfault, hdepth, htokens⟩ := h s
  exact ⟨hfault.trans hs.fault, hdepth.trans hs.depth, htokens ▸ hs.read⟩

theorem Goes.peek_bind {f : Option Token → Reader β} (h : ∀ t, GoesAt tokens before t (f t) after) :
    Goes tokens before (peek >>= f) after := by
  rintro ⟨list, fault, anchors, handles, nodes, depth⟩ hs
  cases list with
  | cons t rest => exact h (some t) _ ⟨hs, rfl⟩
  | nil =>
    cases fault with
    | none => exact h none _ ⟨hs, rfl⟩
    | some f => exact .inr (.inr hs.fault.symm)

theorem GoesAt.skip_bind {f : Unit → Reader β} (ht : Leads t opened opened')
    (h : Goes tokens (opened', depth) (f ()) after) :
    GoesAt tokens (opened, depth) (some t) (skip >>= f) after := by
  rintro ⟨list, fault, anchors, handles, nodes, depth⟩ ⟨hs, hnext⟩
  obtain ⟨rest, rfl⟩ := List.head?_eq_some_iff.mp hnext
  obtain ⟨read, hread, hleaves⟩ := hs.read
  exact h _ ⟨hs.fault, hs.depth, read ++ [t], by simpa using hread, ht read hleaves⟩

theorem Goes.accept_bind {f : Bool → Reader β} (ht : Leads t opened opened')
    (htrue : Goes tokens (opened', depth) (f true) after)
    (hfalse : Goes tokens (opened, depth) (f false) after) :
    Goes tokens (opened, depth) (accept t >>= f) after := by
  rw [accept, bind_assoc]
  refine Goes.peek_bind fun t' => ?_
  split
  · next heq =>
    rw [eq_of_beq heq]
    exact @GoesAt.skip_bind _ _ _ _ _ _ _ (fun _ => f true) ht htrue
  · exact hfalse.at

theorem goes_expect (ht : Leads t opened opened') :
    Goes tokens (opened, depth) (expect t) (opened', depth) :=
  Goes.accept_bind ht (.pure _) (goes_fails _)

theorem Goes.isNext_bind {ts : List Token} {f : Bool → Reader β}
    (htrue : ∀ t ∈ ts, GoesAt tokens before (some t) (f true) after)
    (hfalse : Goes tokens before (f false) after) : Goes tokens before (isNext ts >>= f) after := by
  rw [isNext, bind_assoc]
  refine Goes.peek_bind fun t => ?_
  cases t with
  | none => exact hfalse.at
  | some t =>
    dsimp only
    rw [pure_bind]
    cases hmem : ts.contains t with
    | true => exact htrue t (List.contains_iff_mem.mp hmem)
    | false => exact hfalse.at

theorem goes_newSite : Goes tokens before newSite before :=
  fun _ hs => ⟨hs.fault, hs.depth, hs.read⟩

theorem GoesAt.newSite_bind {f : Site → Reader β}
    (h : ∀ site, GoesAt tokens before next? (f site) after) :
    GoesAt tokens before next? (newSite >>= f) after :=
  fun s hs => h s.nodes.size _ ⟨⟨hs.1.fault, hs.1.depth, hs.1.read⟩, hs.2⟩

theorem goes_place (site : Site) (n : Node) : Goes tokens before (place site n) before :=
  goes_modify fun _ => ⟨rfl, rfl, rfl⟩

/-- The parts of a collection lie one level deeper, if this is not too deep. -/
theorem nested_of {P : Reading → Prop} (hlimit : ∀ s, P s → s.depth = depth)
    (hdeep : ∀ s, P s → depthLimit ≤ depth → TooDeep tokens.list)
    (hr : ∀ s, P s → Ends (fun p => At tokens opened (depth + 1) p.2) (StopsAt tokens)
      (r.run { s with depth := s.depth + 1 })) :
    Runs P (nested r) (fun _ => At tokens opened depth) (StopsAt tokens) := by
  intro s hs
  rw [nested]
  change Ends _ _ ((if depthLimit ≤ s.depth then throw .endless >>= fun _ => _ else _ :
    Reader α).run s)
  split
  · next hle => exact .inr (.inl ⟨rfl, hdeep s hs (hlimit s hs ▸ hle)⟩)
  · refine (hr s hs).bind fun p hp => ?_
    exact ⟨hp.fault, by simp [hp.depth], hp.read⟩

theorem At.deeper {s : Reading} (h : At tokens opened depth s) :
    At tokens opened (depth + 1) { s with depth := s.depth + 1 } :=
  ⟨h.fault, by rw [h.depth], h.read⟩

/-- Behind the token that begins the collection. -/
theorem goes_nested
    (hr : Goes tokens (t :: opened, opened.length + 1) r (opened, opened.length + 1)) :
    Goes tokens (t :: opened, opened.length) (nested r) (opened, opened.length) := by
  refine nested_of (fun _ hs => hs.depth) (fun s hs hle => ?_) fun s hs => hr _ hs.deeper
  obtain ⟨read, hread, hleaves⟩ := hs.read
  exact ⟨read, t :: opened, ⟨[], s.tokens, by simpa using hread⟩, hleaves, Nat.lt_succ_of_le hle⟩

/-- In front of the token that begins the collection. -/
theorem goesAt_nested (ht : Leads t opened (t' :: opened))
    (hr : Goes tokens (opened, opened.length + 1) r (opened, opened.length + 1)) :
    GoesAt tokens (opened, opened.length) (some t) (nested r) (opened, opened.length) := by
  refine nested_of (fun _ hs => hs.1.depth) (fun s hs hle => ?_) fun s hs => hr _ hs.1.deeper
  obtain ⟨read, hread, hleaves⟩ := hs.1.read
  obtain ⟨rest, hrest⟩ := List.head?_eq_some_iff.mp hs.2
  refine ⟨read ++ [t], t' :: opened, ⟨[], rest, ?_⟩, ht read hleaves, Nat.lt_succ_of_le hle⟩
  rw [List.nil_append, ← hread, hrest, List.append_assoc, List.singleton_append]

theorem goes_anchorNext : Goes tokens before anchorNext before := by
  refine Goes.peek_bind fun t => ?_
  split
  · exact GoesAt.skip_bind (leads_inside rfl rfl) (.pure _)
  · exact (Goes.pure _).at

theorem goes_tagNext : Goes tokens before tagNext before := by
  refine Goes.peek_bind fun t => ?_
  split
  · exact GoesAt.skip_bind (leads_inside rfl rfl) (.pure _)
  · exact (Goes.pure _).at

theorem goes_properties : Goes tokens before properties before := by
  refine goes_anchorNext.bind fun name => ?_
  cases name with
  | some name => exact goes_tagNext.bind fun _ => .pure _
  | none =>
    refine goes_tagNext.bind fun tag => ?_
    cases tag with
    | some tag => exact goes_anchorNext.bind fun _ => .pure _
    | none => exact .pure _

theorem goes_fullTag (tag : Option (Option String × String)) :
    Goes tokens before (fullTag tag) before := by
  rw [fullTag.eq_def]
  split
  · exact .pure _
  · exact .pure _
  · refine Goes.get_bind fun s => ?_
    split
    · exact .pure _
    · exact goes_fails _

theorem goes_openSite (anchor : Option String) : Goes tokens before (openSite anchor) before := by
  refine goes_newSite.bind fun site => ?_
  cases anchor with
  | none => exact .pure _
  | some name =>
    have hnamed : Goes tokens before (do
        modify fun s => { s with anchors := (name, site) :: s.anchors }
        return site) before :=
      Goes.bind (goes_modify fun _ => ⟨rfl, rfl, rfl⟩) fun _ => .pure _
    exact Goes.get_bind fun s => Goes.ite ((goes_fails _).bind fun _ => hnamed) hnamed

theorem goes_aliased (name : String) : Goes tokens before (aliased name) before := by
  refine Goes.get_bind fun s => ?_
  split
  · exact .pure _
  · exact goes_fails _

/-! ### The readers of nodes -/

/-- An entry without indentation of its own is in a mapping. -/
def Context.Fits (context : Context) (opened : List Token) : Prop :=
  context = .field → opened.head? = some .blockMapping

/-- What is shown of all readers of nodes at once, by induction on the depth of their calls. A
reader of parts passes the end of the collection, where this has one. -/
structure AllGo (tokens : Tokens) (fuel : Nat) : Prop where
  node : ∀ opened context, context.Fits opened → Keeps tokens opened (node fuel context)
  content : ∀ opened context tag named, context.Fits opened →
    Keeps tokens opened (content fuel context tag named)
  blockItems : ∀ opened, Goes tokens (.blockSequence :: opened, opened.length + 1) (blockItems fuel)
    (opened, opened.length + 1)
  looseItems : ∀ opened, Goes tokens (.blockMapping :: opened, opened.length + 2) (looseItems fuel)
    (.blockMapping :: opened, opened.length + 2)
  field : ∀ opened mark, mark = .key ∨ mark = .value →
    Keeps tokens (.blockMapping :: opened) (field fuel mark)
  blockEntries : ∀ opened, Goes tokens (.blockMapping :: opened, opened.length + 1)
    (blockEntries fuel) (opened, opened.length + 1)
  flowNode : ∀ opened ends, Keeps tokens opened (flowNode fuel ends)
  flowValue : ∀ opened close, Keeps tokens opened (flowValue fuel close)
  flowEntry : ∀ opened close, Keeps tokens opened (flowEntry fuel close)
  flowItems : ∀ opened first, Goes tokens (.flowSequence :: opened, opened.length + 1)
    (flowItems fuel first) (opened, opened.length + 1)
  flowEntries : ∀ opened first, Goes tokens (.flowMapping :: opened, opened.length + 1)
    (flowEntries fuel first) (opened, opened.length + 1)

theorem allGo_zero : AllGo tokens 0 where
  node _ _ _ := goes_fails _
  content _ _ _ _ _ := goes_fails _
  blockItems _ := goes_fails _
  looseItems _ := goes_fails _
  field _ _ _ := goes_fails _
  blockEntries _ := goes_fails _
  flowNode _ _ := goes_fails _
  flowValue _ _ := goes_fails _
  flowEntry _ _ := goes_fails _
  flowItems _ _ := goes_fails _
  flowEntries _ _ := goes_fails _

variable {fuel : Nat}

theorem AllGo.node_succ (h : AllGo tokens fuel) (opened : List Token) (context : Context)
    (hfits : context.Fits opened) : Keeps tokens opened (Reader.node (fuel + 1) context) := by
  rw [Reader.node]
  refine Goes.peek_bind fun t => ?_
  split
  · exact GoesAt.skip_bind (leads_inside rfl rfl) (goes_aliased _)
  · refine Goes.at ?_
    exact goes_properties.bind fun p => (goes_fullTag _).bind fun _ =>
      (goes_openSite _).bind fun _ => (h.content _ _ _ _ hfits).bind fun _ =>
        (goes_place _ _).bind fun _ => .pure _

theorem AllGo.content_succ (h : AllGo tokens fuel) (opened : List Token) (context : Context)
    (tag : Option String) (named : Bool) (hfits : context.Fits opened) :
    Keeps tokens opened (Reader.content (fuel + 1) context tag named) := by
  rw [Reader.content]
  refine Goes.peek_bind fun t => ?_
  split
  · exact GoesAt.skip_bind (leads_inside rfl rfl) (.pure _)
  · exact GoesAt.skip_bind (leads_of_closer rfl) <|
      (goes_nested (h.flowItems _ _)).bind fun _ => .pure _
  · exact GoesAt.skip_bind (leads_of_closer rfl) <|
      (goes_nested (h.flowEntries _ _)).bind fun _ => .pure _
  · refine GoesAt.ite (fun hloose => ?_) <| GoesAt.ite (fun hblock => ?_) <|
      GoesAt.ite (fun hblock => ?_) <| GoesAt.ite (fun _ => (Goes.pure _).at) (goes_fails _).at
    · obtain ⟨rfl, rfl⟩ : t = some .entry ∧ context = .field := by simpa using hloose
      obtain ⟨opened, rfl⟩ := List.head?_eq_some_iff.mp (hfits rfl)
      exact Runs.bind (goesAt_nested (fun _ hread => .entry hread) (h.looseItems opened))
        fun _ => Goes.pure _
    · obtain ⟨rfl, -⟩ : t = some .blockSequence ∧ context ≠ .flow := by simpa using hblock
      exact GoesAt.skip_bind (leads_of_closer rfl) <|
        (goes_nested (h.blockItems _)).bind fun _ => .pure _
    · obtain ⟨rfl, -⟩ : t = some .blockMapping ∧ context ≠ .flow := by simpa using hblock
      exact GoesAt.skip_bind (leads_of_closer rfl) <|
        (goes_nested (h.blockEntries _)).bind fun _ => .pure _

theorem AllGo.blockItems_succ (h : AllGo tokens fuel) (opened : List Token) :
    Goes tokens (.blockSequence :: opened, opened.length + 1) (Reader.blockItems (fuel + 1))
      (opened, opened.length + 1) := by
  have hmore : ∀ item, Goes tokens (.blockSequence :: opened, opened.length + 1)
      (return item :: (← Reader.blockItems fuel)) (opened, opened.length + 1) :=
    fun _ => (h.blockItems _).bind fun _ => .pure _
  rw [Reader.blockItems]
  refine Goes.accept_bind (leads_inside rfl rfl) ?_
    ((goes_expect (leads_of_end rfl)).bind fun _ => .pure _)
  exact Goes.isNext_bind (fun _ _ => (goes_newSite.bind hmore).at)
    ((h.node (.blockSequence :: opened) .block nofun).bind hmore)

theorem AllGo.looseItems_succ (h : AllGo tokens fuel) (opened : List Token) :
    Goes tokens (.blockMapping :: opened, opened.length + 2) (Reader.looseItems (fuel + 1))
      (.blockMapping :: opened, opened.length + 2) := by
  have hmore : ∀ item, Goes tokens (.blockMapping :: opened, opened.length + 2)
      (return item :: (← Reader.looseItems fuel)) (.blockMapping :: opened, opened.length + 2) :=
    fun _ => (h.looseItems _).bind fun _ => .pure _
  have hnode := (h.node (.entry :: .blockMapping :: opened) .block nofun).over rfl
  rw [Reader.looseItems]
  refine Goes.accept_bind (fun _ hread => .entry hread) ?_ (.pure _)
  exact Goes.isNext_bind (fun _ _ => ((goes_newSite.over rfl).bind hmore).at) (hnode.bind hmore)

theorem AllGo.field_succ (h : AllGo tokens fuel) (opened : List Token) (mark : Token)
    (hmark : mark = .key ∨ mark = .value) :
    Keeps tokens (.blockMapping :: opened) (Reader.field (fuel + 1) mark) := by
  have hleads : Leads mark (.blockMapping :: opened) (.blockMapping :: opened) := by
    obtain rfl | rfl := hmark <;> exact leads_inside rfl rfl
  rw [Reader.field]
  refine Goes.accept_bind hleads ?_ goes_newSite
  exact Goes.isNext_bind (fun _ _ => goes_newSite.at) (h.node _ _ fun _ => rfl)

theorem AllGo.blockEntries_succ (h : AllGo tokens fuel) (opened : List Token) :
    Goes tokens (.blockMapping :: opened, opened.length + 1) (Reader.blockEntries (fuel + 1))
      (opened, opened.length + 1) := by
  rw [Reader.blockEntries]
  refine Goes.isNext_bind (fun _ _ => Goes.at ?_)
    ((goes_expect (leads_of_end rfl)).bind fun _ => .pure _)
  exact (h.field opened .key (.inl rfl)).bind fun _ => (h.field opened .value (.inr rfl)).bind
    fun _ => (h.blockEntries _).bind fun _ => .pure _

theorem AllGo.flowNode_succ (h : AllGo tokens fuel) (opened ends : List Token) :
    Keeps tokens opened (Reader.flowNode (fuel + 1) ends) := by
  rw [Reader.flowNode]
  exact Goes.isNext_bind (fun _ _ => goes_newSite.at) (h.node _ _ nofun)

theorem AllGo.flowValue_succ (h : AllGo tokens fuel) (opened : List Token) (close : Token) :
    Keeps tokens opened (Reader.flowValue (fuel + 1) close) := by
  rw [Reader.flowValue]
  exact Goes.accept_bind (leads_inside rfl rfl) (h.flowNode _ _) goes_newSite

theorem AllGo.flowEntry_succ (h : AllGo tokens fuel) (opened : List Token) (close : Token) :
    Keeps tokens opened (Reader.flowEntry (fuel + 1) close) := by
  rw [Reader.flowEntry]
  exact (h.flowNode _ _).bind fun _ => (h.flowValue _ _).bind fun _ => .pure _

theorem AllGo.flowItems_succ (h : AllGo tokens fuel) (opened : List Token) (first : Bool) :
    Goes tokens (.flowSequence :: opened, opened.length + 1) (Reader.flowItems (fuel + 1) first)
      (opened, opened.length + 1) := by
  have hrest : ∀ site, Goes tokens (.flowSequence :: opened, opened.length + 1)
      (return site :: (← Reader.flowItems fuel false)) (opened, opened.length + 1) :=
    fun _ => (h.flowItems _ _).bind fun _ => .pure _
  have hpair : Goes tokens (.key :: .flowSequence :: opened, opened.length + 1)
      (nested (Reader.flowEntry fuel .flowSequenceEnd))
      (.flowSequence :: opened, opened.length + 1) :=
    goes_nested ((h.flowEntry (.key :: .flowSequence :: opened) .flowSequenceEnd).over rfl)
  have hend : Leads .flowSequenceEnd (.flowSequence :: opened) opened := leads_of_end rfl
  have hitem : Goes tokens (.flowSequence :: opened, opened.length + 1) (do
      if ← isNext [.key] then
        let site ← newSite
        skip
        let entry ← nested (Reader.flowEntry fuel .flowSequenceEnd)
        place site (.mapping .map [entry])
        return site :: (← Reader.flowItems fuel false)
      else if ← accept .flowSequenceEnd then return []
      else
        let item ← Reader.node fuel .flow
        return item :: (← Reader.flowItems fuel false)) (opened, opened.length + 1) := by
    refine Goes.isNext_bind (fun t ht => ?_) <| Goes.accept_bind hend (.pure _)
      ((h.node (.flowSequence :: opened) .flow nofun).bind hrest)
    obtain rfl := List.mem_singleton.mp ht
    refine GoesAt.newSite_bind fun site => GoesAt.skip_bind (fun _ hread => .key hread) ?_
    exact hpair.bind fun _ => (goes_place _ _).bind fun _ => hrest _
  rw [Reader.flowItems]
  refine Goes.accept_bind hend (.pure _) ?_
  rw [if_neg Bool.false_ne_true]
  exact Goes.ite hitem ((goes_expect (leads_inside rfl rfl)).bind fun _ => hitem)

theorem AllGo.flowEntries_succ (h : AllGo tokens fuel) (opened : List Token) (first : Bool) :
    Goes tokens (.flowMapping :: opened, opened.length + 1) (Reader.flowEntries (fuel + 1) first)
      (opened, opened.length + 1) := by
  have hrest : ∀ entry, Goes tokens (.flowMapping :: opened, opened.length + 1)
      (return entry :: (← Reader.flowEntries fuel false)) (opened, opened.length + 1) :=
    fun _ => (h.flowEntries _ _).bind fun _ => .pure _
  have hend : Leads .flowMappingEnd (.flowMapping :: opened) opened := leads_of_end rfl
  have hentry : Goes tokens (.flowMapping :: opened, opened.length + 1) (do
      if ← accept .key then
        let entry ← Reader.flowEntry fuel .flowMappingEnd
        return entry :: (← Reader.flowEntries fuel false)
      else if ← accept .flowMappingEnd then return []
      else
        let key ← Reader.node fuel .flow
        let value ← newSite
        return (key, value) :: (← Reader.flowEntries fuel false)) (opened, opened.length + 1) := by
    refine Goes.accept_bind (leads_inside rfl rfl)
      ((h.flowEntry (.flowMapping :: opened) _).bind hrest) <| Goes.accept_bind hend (.pure _) ?_
    exact (h.node (.flowMapping :: opened) .flow nofun).bind fun _ =>
      goes_newSite.bind fun _ => hrest _
  rw [Reader.flowEntries]
  refine Goes.accept_bind hend (.pure _) ?_
  rw [if_neg Bool.false_ne_true]
  exact Goes.ite hentry ((goes_expect (leads_inside rfl rfl)).bind fun _ => hentry)

/-- All readers of nodes go where they should. -/
theorem allGo (tokens : Tokens) (fuel : Nat) : AllGo tokens fuel := by
  induction fuel with
  | zero => exact allGo_zero
  | succ fuel h =>
    exact ⟨h.node_succ, h.content_succ, h.blockItems_succ, h.looseItems_succ, h.field_succ,
      h.blockEntries_succ, h.flowNode_succ, h.flowValue_succ, h.flowEntry_succ, h.flowItems_succ,
      h.flowEntries_succ⟩

theorem keeps_root (fuel : Nat) : Keeps tokens [] (Reader.node fuel .block) :=
  (allGo tokens fuel).node [] .block nofun

theorem keeps_marked (fuel : Nat) : Keeps tokens [] (marked fuel) := by
  refine (goes_expect (leads_inside rfl rfl)).bind fun _ => Goes.peek_bind fun t => Goes.at ?_
  split
  · exact goes_newSite
  · exact goes_newSite
  · exact goes_newSite
  · exact goes_newSite
  · exact keeps_root fuel

theorem close_ends {s : Reading} (hs : s.fault = tokens.fault) :
    Ends (fun _ => True) (StopsAt tokens) (close.run s) := by
  rw [close]
  obtain ⟨list, fault, anchors, handles, nodes, depth⟩ := s
  change Ends _ _ ((do if (← peek).isSome then fails .documents : Reader Unit).run
    ⟨list.dropWhile (· == .documentEnd), fault, anchors, handles, nodes, depth⟩)
  cases list.dropWhile (· == .documentEnd) with
  | cons t rest => exact .inl (.of _)
  | nil =>
    cases fault with
    | none => trivial
    | some f => exact .inr (.inr hs.symm)

theorem directives_ends (ts : List Token) (versioned : Bool) (handles : List (String × String)) :
    Ends (fun p => p.2 <:+ ts) IsMalformed (directives ts versioned handles) := by
  induction ts generalizing versioned handles with
  | nil => exact List.suffix_refl _
  | cons t rest ih =>
    have hrest : ∀ versioned handles, Ends (fun p => p.2 <:+ t :: rest) IsMalformed
        (directives rest versioned handles) := fun versioned handles =>
      (ih versioned handles).imp (fun _ hp => hp.trans (List.suffix_cons _ _)) fun _ hf => hf
    rw [directives.eq_def]
    split
    · next d rest' heq =>
      cases heq
      cases d with
      | version major =>
        dsimp only
        split
        · exact .of _
        · exact hrest _ _
      | handle name expansion =>
        dsimp only
        split
        · exact .of _
        · exact hrest _ _
      | other => exact hrest _ _
    · exact List.suffix_refl _

theorem document_ends {r : Reader Site} (hr : Keeps tokens [] r)
    (handles : List (String × String)) :
    Ends (fun _ => True) (StopsAt tokens) (document r tokens handles) := by
  have hstart : At tokens [] 0 ⟨tokens.list, tokens.fault, [], handles, #[], 0⟩ :=
    ⟨rfl, rfl, [], rfl, .nothing⟩
  have hclosed : Ends (fun _ => True) (StopsAt tokens) ((do
      let root ← r
      close
      return root : Reader Site).run ⟨tokens.list, tokens.fault, [], handles, #[], 0⟩) := by
    refine (hr _ hstart).bind fun p hp => ?_
    exact (close_ends hp.fault).bind fun _ _ => trivial
  exact hclosed.bind fun _ _ => trivial

end

end Reader

theorem Graph.ofTokens_ends (tokens : Tokens) :
    Ends (fun _ => True) (Reader.StopsAt tokens) (Graph.ofTokens tokens) := by
  obtain ⟨list, fault⟩ := tokens
  rw [Graph.ofTokens]
  dsimp only
  split
  · trivial
  · exact .inr (.inr rfl)
  · refine ((Reader.directives_ends _ _ _).imp (fun _ h => h) fun _ hf => .inl hf).bind ?_
    rintro ⟨handles, rest⟩ hsuffix
    have hmarked : ∀ fuel, Ends (fun _ => True) (Reader.StopsAt ⟨rest, fault⟩)
        (Reader.document (Reader.marked fuel) ⟨rest, fault⟩ handles) := fun fuel =>
      Reader.document_ends (Reader.keeps_marked fuel) handles
    exact Ends.map <| (hmarked _).imp (fun _ _ => trivial) fun _ hf =>
      hf.imp_right fun hf => hf.imp_left fun hdeep => ⟨hdeep.1, hdeep.2.within hsuffix.isInfix⟩
  · exact Ends.map (Reader.document_ends (Reader.keeps_marked _) _)
  · exact Ends.map (Reader.document_ends (Reader.keeps_root _) _)

/-- Where a text gives no nodes it breaks a rule or has an escape for no character, or its
collections lie too deep. -/
theorem Graph.stopsIn_of_ofText {text : List Char} {f : Fault} (hf : Graph.ofText text = .error f) :
    StopsIn text f ∨ (f = .endless ∧ TooDeep (Tokens.ofText text).list) := by
  obtain hrule | hendless | hfault := (Graph.ofTokens_ends (Tokens.ofText text)).of_error hf
  · exact .inl (.inl hrule)
  · exact .inr hendless
  · exact .inl (Tokens.stopsIn_of_ofText hfault)

end DomainCompiler.Yaml
