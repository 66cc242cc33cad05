import DomainCompiler.Model.Annotation
import DomainCompiler.Proofs.Text.Marks
import Mathlib.Data.List.Basic

/-!
# What the annotation of a constraint tells

The attributes of a constraint are written one behind the other, and the texts in quotation marks as
they are, without an escape. Everything up to the regular expression can be read back, and a message
is the last thing there is, so neither can be taken for something else. A regular expression ends at
the first quotation mark only where it has none itself: one that goes on behind a quotation mark may
take in the attributes behind a shorter one, and the message with them.
-/

namespace DomainCompiler.Model

namespace Annotation

/-- An attribute with its name, and with its text where it is there. -/
structure Slot where
  name : String
  text : Option String

namespace Slot

/-- The attribute by itself. -/
def shown (s : Slot) : Option String := s.text.map fun t => s.name ++ " = " ++ t

/-- The attribute behind the separator. -/
def written (s : Slot) : String := (s.shown.map (", " ++ ·)).getD ""

/-- Two slots for one attribute, with one text where it is in both. -/
structure Agrees (s s' : Slot) : Prop where
  name_eq : s.name = s'.name
  text_eq : ∀ t ∈ s.text, ∀ t' ∈ s'.text, t = t'

end Slot

def quoted (s : String) : String := "\"" ++ s ++ "\""

def bounds (c : Declared.Constraint) : List Slot :=
  [⟨"value", c.value.map boundText⟩, ⟨"min", c.min.map boundText⟩, ⟨"max", c.max.map boundText⟩]

def pattern (c : Declared.Constraint) : Slot := ⟨"regexp", c.regexp.map quoted⟩

def amounts (c : Declared.Constraint) : List Slot :=
  [⟨"integer", c.integer.map Decimal.ofInt⟩, ⟨"fraction", c.fraction.map Decimal.ofInt⟩,
    ⟨"inclusive", c.inclusive.map fun b => if b then "true" else "false"⟩]

def message (c : Declared.Constraint) : Slot := ⟨"message", c.message.map quoted⟩

/-- The attributes behind the regular expression. -/
def behindPattern (c : Declared.Constraint) : List Slot := amounts c ++ [message c]

def slots (c : Declared.Constraint) : List Slot := bounds c ++ pattern c :: behindPattern c

def written (slots : List Slot) : String := String.join (slots.map Slot.written)

/-- The same value wherever it is given on both sides. -/
def AgreeWhereGiven {α : Type} (o o' : Option α) : Prop := ∀ a ∈ o, ∀ a' ∈ o', a = a'

instance {α : Type} [DecidableEq α] (o o' : Option α) : Decidable (AgreeWhereGiven o o') :=
  inferInstanceAs (Decidable (∀ a ∈ o, ∀ a' ∈ o', a = a'))

/-- Constraints of one kind that differ in their texts and in which attributes they have. -/
structure Comparable (c c' : Declared.Constraint) : Prop where
  kind : c.kind = c'.kind
  value : AgreeWhereGiven c.value c'.value
  min : AgreeWhereGiven c.min c'.min
  max : AgreeWhereGiven c.max c'.max
  integer : AgreeWhereGiven c.integer c'.integer
  fraction : AgreeWhereGiven c.fraction c'.fraction
  inclusive : AgreeWhereGiven c.inclusive c'.inclusive

/-- The regular expression of the second constraint is that of the first together with the quotation
mark that ends it, the attributes between, and the message as far as it takes it in. -/
structure RunsOver (c c' : Declared.Constraint) : Prop where
  value : c.value = c'.value
  min : c.min = c'.min
  max : c.max = c'.max
  takesIn : ∃ r m x, c.regexp = some r ∧ c.message = some m ∧
    c'.regexp = some (r ++ "\"" ++ written (amounts c) ++ ", message = " ++ x) ∧
    x ++ "\"" ++ written (behindPattern c') = quoted m

/-! ### The text with what ends it -/

/-- The attributes with the parenthesis that ends them. -/
def closed (slots : List Slot) : List Char := (written slots).toList ++ [')']

theorem written_append (front rest : List Slot) :
    (written (front ++ rest)).toList = (written front).toList ++ (written rest).toList := by
  simp only [written, String.toList_join, List.map_append, List.flatMap_append]

theorem closed_append (front rest : List Slot) :
    closed (front ++ rest) = (written front).toList ++ closed rest := by
  rw [closed, written_append, List.append_assoc, closed]

theorem closed_cons_none (name : String) (slots : List Slot) :
    closed (⟨name, none⟩ :: slots) = closed slots := by
  simp [closed, written, Slot.written, Slot.shown]

theorem closed_cons_some (name t : String) (slots : List Slot) :
    closed (⟨name, some t⟩ :: slots) =
      ',' :: ' ' :: (name.toList ++ ' ' :: '=' :: ' ' :: (t.toList ++ closed slots)) := by
  simp [closed, written, Slot.written, Slot.shown]

/-- The attributes in their parentheses, where there are any. -/
def inParentheses : List String → String
  | [] => ""
  | as => "(" ++ ", ".intercalate as ++ ")"

theorem ofConstraint_eq (c : Declared.Constraint) :
    ofConstraint c = "@" ++ c.kind ++ inParentheses (attributes c) := by
  rw [ofConstraint, inParentheses.eq_def]
  cases attributes c with
  | nil => rw [String.append_empty]
  | cons a as => simp only [String.append_assoc]

theorem boundAttribute_eq (name : String) :
    boundAttribute name = fun b => name ++ " = " ++ boundText b :=
  rfl

theorem textAttribute_eq (name : String) :
    textAttribute name = fun s => name ++ " = " ++ quoted s := by
  have hopen : " = \"" = " = " ++ "\"" := by decide +kernel
  funext s
  simp only [textAttribute, quoted, hopen, String.append_assoc]

theorem attributes_eq (c : Declared.Constraint) :
    attributes c = (slots c).filterMap Slot.shown := by
  have hinteger : "integer = " = "integer" ++ " = " := by decide +kernel
  have hfraction : "fraction = " = "fraction" ++ " = " := by decide +kernel
  have hinclusive : "inclusive = " = "inclusive" ++ " = " := by decide +kernel
  have hslots : attributes c = ((slots c).map Slot.shown).filterMap id := by
    simp only [attributes, slots, bounds, pattern, behindPattern, amounts, message, Slot.shown,
      List.map_cons, List.map_nil, List.cons_append, List.nil_append, Option.map_map,
      boundAttribute_eq, textAttribute_eq, hinteger, hfraction, hinclusive, Function.comp_def]
  rw [hslots, List.filterMap_map, Function.id_comp]

/-- Inside the parentheses the first attribute has no separator. -/
theorem closed_eq (slots : List Slot) :
    closed slots = match slots.filterMap Slot.shown with
      | [] => [')']
      | a :: as => ',' :: ' ' :: (", ".intercalate (a :: as) ++ ")").toList := by
  induction slots with
  | nil => rfl
  | cons s slots ih =>
    obtain ⟨name, text⟩ := s
    cases text with
    | none => rw [closed_cons_none, ih, List.filterMap_cons_none rfl]
    | some t =>
      have hshown : Slot.shown ⟨name, some t⟩ = some (name ++ " = " ++ t) := rfl
      rw [closed_cons_some, ih, List.filterMap_cons_some hshown]
      cases slots.filterMap Slot.shown with
      | nil => simp
      | cons a as => simp

theorem inParentheses_inj {slots slots' : List Slot} :
    inParentheses (slots.filterMap Slot.shown) = inParentheses (slots'.filterMap Slot.shown) ↔
      closed slots = closed slots' := by
  rw [closed_eq, closed_eq, ← String.toList_inj]
  cases slots.filterMap Slot.shown with
  | nil => cases slots'.filterMap Slot.shown with
    | nil => simp
    | cons b bs => simp [inParentheses]
  | cons a as => cases slots'.filterMap Slot.shown with
    | nil => simp [inParentheses]
    | cons b bs => simp [inParentheses]

theorem ofConstraint_inj {c c' : Declared.Constraint} (hkind : c.kind = c'.kind) :
    ofConstraint c = ofConstraint c' ↔ closed (slots c) = closed (slots c') := by
  rw [ofConstraint_eq, ofConstraint_eq, hkind, String.append_right_inj, attributes_eq,
    attributes_eq, inParentheses_inj]

/-! ### Attributes told apart by their names -/

/-- Each name stands for one attribute, and ends at the blank behind it. -/
structure Legible (slots : List Slot) : Prop where
  distinct : (slots.map Slot.name).Nodup
  ends : ∀ name ∈ slots.map Slot.name, ' ' ∉ name.toList

theorem Legible.tail {s : Slot} {slots : List Slot} (h : Legible (s :: slots)) : Legible slots :=
  ⟨(List.nodup_cons.mp h.distinct).2, fun name hname => h.ends name (List.mem_cons_of_mem _ hname)⟩

theorem Legible.head_notMem {s : Slot} {slots : List Slot} (h : Legible (s :: slots)) :
    s.name ∉ slots.map Slot.name :=
  (List.nodup_cons.mp h.distinct).1

/-- Attributes do not begin with a name that is none of theirs. -/
theorem closed_ne_of_notMem {name : String} {rest : List Char} {slots : List Slot}
    (hblank : ' ' ∉ name.toList) (hlegible : Legible slots) (hname : name ∉ slots.map Slot.name) :
    closed slots ≠ ',' :: ' ' :: (name.toList ++ ' ' :: rest) := by
  induction slots with
  | nil => exact fun h => absurd (List.cons.inj h).1 (by decide)
  | cons s slots ih =>
    obtain ⟨sname, text⟩ := s
    rw [List.map_cons, List.mem_cons, not_or] at hname
    obtain ⟨hne, hname⟩ := hname
    cases text with
    | none =>
      rw [closed_cons_none]
      exact ih hlegible.tail hname
    | some t =>
      rw [closed_cons_some]
      intro h
      have hbody := (List.cons.inj (List.cons.inj h).2).2
      have hsblank := hlegible.ends sname List.mem_cons_self
      exact hne (String.toList_inj.mp (Text.append_cons_inj hsblank hblank hbody).1).symm

/-- Whether an attribute is there can be read back. -/
theorem closed_cons_inj {name : String} {text text' : Option String} {slots slots' : List Slot}
    (hlegible : Legible (⟨name, text⟩ :: slots)) (hlegible' : Legible (⟨name, text'⟩ :: slots'))
    (h : closed (⟨name, text⟩ :: slots) = closed (⟨name, text'⟩ :: slots')) :
    (text = none ∧ text' = none ∧ closed slots = closed slots') ∨
      ∃ t t', text = some t ∧ text' = some t' ∧
        t.toList ++ closed slots = t'.toList ++ closed slots' := by
  have hblank : ' ' ∉ name.toList := hlegible.ends name List.mem_cons_self
  cases text with
  | none =>
    cases text' with
    | none =>
      rw [closed_cons_none, closed_cons_none] at h
      exact .inl ⟨rfl, rfl, h⟩
    | some t' =>
      rw [closed_cons_none, closed_cons_some] at h
      exact absurd h (closed_ne_of_notMem hblank hlegible.tail hlegible.head_notMem)
  | some t =>
    cases text' with
    | none =>
      rw [closed_cons_none, closed_cons_some] at h
      exact absurd h.symm (closed_ne_of_notMem hblank hlegible'.tail hlegible'.head_notMem)
    | some t' =>
      simp only [closed_cons_some, List.cons.injEq, true_and, List.append_cancel_left_eq] at h
      exact .inr ⟨t, t', rfl, rfl, h⟩

/-- Attributes that agree where they are given on both sides can be read back. -/
theorem closed_append_inj {front front' rest rest' : List Slot}
    (hagrees : List.Forall₂ Slot.Agrees front front') (hlegible : Legible (front ++ rest))
    (hlegible' : Legible (front' ++ rest'))
    (h : closed (front ++ rest) = closed (front' ++ rest')) :
    front = front' ∧ closed rest = closed rest' := by
  induction hagrees with
  | nil => exact ⟨rfl, h⟩
  | @cons s s' front front' hs _ ih =>
    obtain ⟨name, text⟩ := s
    obtain ⟨name', text'⟩ := s'
    obtain ⟨hname, htext⟩ := hs
    dsimp only at hname htext
    subst hname
    rcases closed_cons_inj hlegible hlegible' h with ⟨rfl, rfl, hrest⟩ | ⟨t, t', rfl, rfl, hrest⟩
    · obtain ⟨rfl, htail⟩ := ih hlegible.tail hlegible'.tail hrest
      exact ⟨rfl, htail⟩
    · obtain rfl := htext t rfl t' rfl
      rw [List.append_cancel_left_eq] at hrest
      obtain ⟨rfl, htail⟩ := ih hlegible.tail hlegible'.tail hrest
      exact ⟨rfl, htail⟩

theorem legible_slots (c : Declared.Constraint) : Legible (slots c) := by
  have hnames : (slots c).map Slot.name =
      ["value", "min", "max", "regexp", "integer", "fraction", "inclusive", "message"] := rfl
  constructor
  · rw [hnames]
    decide
  · rw [hnames]
    decide

theorem legible_behindPattern (c : Declared.Constraint) : Legible (behindPattern c) :=
  (legible_slots c).tail.tail.tail.tail

/-! ### What comes before and behind the regular expression -/

section Comparable

variable {α : Type} {c c' : Declared.Constraint}

theorem AgreeWhereGiven.symm {o o' : Option α} (h : AgreeWhereGiven o o') :
    AgreeWhereGiven o' o :=
  fun a ha a' ha' => (h a' ha' a ha).symm

theorem Comparable.symm (h : Comparable c c') : Comparable c' c :=
  ⟨h.kind.symm, h.value.symm, h.min.symm, h.max.symm, h.integer.symm, h.fraction.symm,
    h.inclusive.symm⟩

/-- What is given on both sides has one text. -/
theorem AgreeWhereGiven.agrees {o o' : Option α} (h : AgreeWhereGiven o o') (name : String)
    (f : α → String) : Slot.Agrees ⟨name, o.map f⟩ ⟨name, o'.map f⟩ := by
  refine ⟨rfl, fun t ht t' ht' => ?_⟩
  obtain ⟨a, ha, rfl⟩ := Option.map_eq_some_iff.mp ht
  obtain ⟨a', ha', rfl⟩ := Option.map_eq_some_iff.mp ht'
  rw [h a ha a' ha']

/-- With the values told apart, the texts only say which are there. -/
theorem AgreeWhereGiven.eq_of_map_eq {o o' : Option α} (h : AgreeWhereGiven o o')
    {f : α → String} (hmap : o.map f = o'.map f) : o = o' := by
  cases o with
  | none => exact (Option.map_eq_none_iff.mp hmap.symm).symm
  | some a =>
    obtain ⟨a', ha', -⟩ := Option.map_eq_some_iff.mp hmap.symm
    rw [ha', h a rfl a' ha']

theorem Comparable.bounds_agree (h : Comparable c c') :
    List.Forall₂ Slot.Agrees (bounds c) (bounds c') :=
  .cons (h.value.agrees "value" boundText) <|
    .cons (h.min.agrees "min" boundText) <| .cons (h.max.agrees "max" boundText) .nil

theorem Comparable.amounts_agree (h : Comparable c c') :
    List.Forall₂ Slot.Agrees (amounts c) (amounts c') :=
  .cons (h.integer.agrees "integer" Decimal.ofInt) <|
    .cons (h.fraction.agrees "fraction" Decimal.ofInt) <|
      .cons (h.inclusive.agrees "inclusive" fun b => if b then "true" else "false") .nil

theorem Comparable.eq_of_bounds_eq (h : Comparable c c') (hbounds : bounds c = bounds c') :
    c.value = c'.value ∧ c.min = c'.min ∧ c.max = c'.max := by
  simp only [bounds, List.cons.injEq, Slot.mk.injEq, true_and, and_true] at hbounds
  obtain ⟨hvalue, hmin, hmax⟩ := hbounds
  exact ⟨h.value.eq_of_map_eq hvalue, h.min.eq_of_map_eq hmin, h.max.eq_of_map_eq hmax⟩

theorem Comparable.eq_of_amounts_eq (h : Comparable c c') (hamounts : amounts c = amounts c') :
    c.integer = c'.integer ∧ c.fraction = c'.fraction ∧ c.inclusive = c'.inclusive := by
  simp only [amounts, List.cons.injEq, Slot.mk.injEq, true_and, and_true] at hamounts
  obtain ⟨hinteger, hfraction, hinclusive⟩ := hamounts
  exact ⟨h.integer.eq_of_map_eq hinteger, h.fraction.eq_of_map_eq hfraction,
    h.inclusive.eq_of_map_eq hinclusive⟩

theorem quoted_toList (s : String) : (quoted s).toList = '"' :: (s.toList ++ ['"']) := by
  simp [quoted]

/-- The message ends where everything ends. -/
theorem message_eq_of_closed_eq (h : closed [message c] = closed [message c']) :
    c.message = c'.message := by
  have hlegible (c : Declared.Constraint) : Legible [message c] :=
    (legible_behindPattern c).tail.tail.tail
  rcases closed_cons_inj (hlegible c) (hlegible c') h with
    ⟨hnone, hnone', -⟩ | ⟨t, t', hsome, hsome', hrest⟩
  · rw [Option.map_eq_none_iff.mp hnone, Option.map_eq_none_iff.mp hnone']
  · obtain ⟨m, hm, rfl⟩ := Option.map_eq_some_iff.mp hsome
    obtain ⟨m', hm', rfl⟩ := Option.map_eq_some_iff.mp hsome'
    have hquoted := List.append_cancel_right hrest
    rw [quoted_toList, quoted_toList] at hquoted
    have hchars := List.append_cancel_right (List.cons.inj hquoted).2
    rw [hm, hm', String.toList_inj.mp hchars]

/-- Everything behind the regular expression can be read back. -/
theorem Comparable.behindPattern_inj (h : Comparable c c')
    (hclosed : closed (behindPattern c) = closed (behindPattern c')) :
    amounts c = amounts c' ∧ c.message = c'.message := by
  obtain ⟨hamounts, hmessage⟩ := closed_append_inj h.amounts_agree (legible_behindPattern c)
    (legible_behindPattern c') hclosed
  exact ⟨hamounts, message_eq_of_closed_eq hmessage⟩

theorem Comparable.eq_of_parts_eq (h : Comparable c c') (hbounds : bounds c = bounds c')
    (hregexp : c.regexp = c'.regexp)
    (hclosed : closed (behindPattern c) = closed (behindPattern c')) : c = c' := by
  obtain ⟨hvalue, hmin, hmax⟩ := h.eq_of_bounds_eq hbounds
  obtain ⟨hamounts, hmessage⟩ := h.behindPattern_inj hclosed
  obtain ⟨hinteger, hfraction, hinclusive⟩ := h.eq_of_amounts_eq hamounts
  have hkind := h.kind
  cases c
  cases c'
  dsimp only at *
  subst_vars
  rfl

/-! ### Where the regular expression ends -/

theorem quote_notMem_ofInt (n : Int) : '"' ∉ (Decimal.ofInt n).toList := by
  have hdigits (k : Nat) : '"' ∉ Decimal.ofNat k := by
    intro h
    exact absurd (Nat.isDigit_of_mem_toDigits (by decide) (by decide) h) (by decide)
  cases n with
  | ofNat k =>
    rw [Decimal.ofInt, String.toList_ofList]
    exact hdigits k
  | negSucc k =>
    rw [Decimal.ofInt, String.toList_ofList, List.mem_cons, not_or]
    exact ⟨by decide, hdigits (k + 1)⟩

theorem quote_notMem_slot {name : String} {o : Option α} {f : α → String}
    (hname : '"' ∉ name.toList) (htext : ∀ a, '"' ∉ (f a).toList) :
    '"' ∉ (Slot.written ⟨name, o.map f⟩).toList := by
  cases o with
  | none => simp [Slot.written, Slot.shown]
  | some a => simp [Slot.written, Slot.shown, hname, htext a]

/-- The attributes between the two texts have no quotation marks. -/
theorem quote_notMem_amounts (c : Declared.Constraint) :
    '"' ∉ (written (amounts c)).toList := by
  have hinclusive (b : Bool) : '"' ∉ (if b then "true" else "false").toList := by
    cases b with
    | true => decide
    | false => decide
  simp only [written, amounts, String.toList_join, List.map_cons, List.map_nil, List.flatMap_cons,
    List.flatMap_nil, List.append_nil, List.mem_append, not_or]
  exact ⟨quote_notMem_slot (by decide) quote_notMem_ofInt,
    quote_notMem_slot (by decide) quote_notMem_ofInt, quote_notMem_slot (by decide) hinclusive⟩

theorem closed_message {m : String} (hm : c.message = some m) :
    closed [message c] = ", message = ".toList ++ ((quoted m).toList ++ [')']) := by
  rw [message, hm, Option.map_some, closed_cons_some]
  rfl

/-- A quotation mark behind the regular expression is one of those around the message. -/
theorem exists_message_of_closed_eq {y rest : List Char}
    (h : closed (behindPattern c) = y ++ '"' :: (rest ++ [')'])) :
    ∃ m x, c.message = some m ∧ y = (written (amounts c)).toList ++ ", message = ".toList ++ x ∧
      (quoted m).toList = x ++ '"' :: rest := by
  rw [behindPattern, closed_append] at h
  obtain ⟨y, rfl, hmessage⟩ := Text.exists_of_append_eq_append_cons (quote_notMem_amounts c) h
  cases hm : c.message with
  | none =>
    rw [message, hm, Option.map_none, closed_cons_none] at hmessage
    have hquote : '"' ∈ closed [] := by
      rw [hmessage]
      exact List.mem_append_right _ List.mem_cons_self
    exact absurd hquote (by decide)
  | some m =>
    rw [closed_message hm, quoted_toList, List.cons_append] at hmessage
    obtain ⟨x, rfl, hx⟩ := Text.exists_of_append_eq_append_cons (by decide) hmessage
    refine ⟨m, x, rfl, (List.append_assoc _ _ _).symm, ?_⟩
    have hends : '"' :: (m.toList ++ ['"']) ++ [')'] = x ++ '"' :: rest ++ [')'] := by
      simpa only [List.append_assoc, List.cons_append] using hx
    rw [quoted_toList]
    exact List.append_cancel_right hends

theorem Comparable.runsOver_of_append_eq (h : Comparable c c') {r r' : String} {y : List Char}
    (hbounds : bounds c = bounds c') (hr : c.regexp = some r) (hr' : c'.regexp = some r')
    (hy : r'.toList = r.toList ++ '"' :: y)
    (hrest : closed (behindPattern c) = y ++ '"' :: closed (behindPattern c')) :
    RunsOver c c' := by
  obtain ⟨hvalue, hmin, hmax⟩ := h.eq_of_bounds_eq hbounds
  obtain ⟨m, x, hm, rfl, hx⟩ := exists_message_of_closed_eq hrest
  refine ⟨hvalue, hmin, hmax, r, m, String.ofList x, hr, hm, ?_, ?_⟩
  · rw [hr', Option.some_inj, ← String.toList_inj, hy]
    simp
  · rw [← String.toList_inj, hx]
    simp

/-- The one text can be read as either constraint. -/
theorem RunsOver.ofConstraint_eq (hkind : c.kind = c'.kind) (h : RunsOver c c') :
    ofConstraint c = ofConstraint c' := by
  obtain ⟨r, m, x, hr, hm, hr', hx⟩ := h.takesIn
  have hbounds : bounds c = bounds c' := by
    rw [bounds, bounds, h.value, h.min, h.max]
  have hrest : (quoted m).toList = x.toList ++ '"' :: (written (behindPattern c')).toList := by
    rw [← hx]
    simp
  have hclosed :
      closed (pattern c :: behindPattern c) = closed (pattern c' :: behindPattern c') := by
    rw [pattern, pattern, hr, hr', Option.map_some, Option.map_some, closed_cons_some,
      closed_cons_some, behindPattern, closed_append, closed_message hm, hrest, closed]
    simp [quoted]
  rw [ofConstraint_inj hkind, slots, slots, hbounds, closed_append, closed_append, hclosed]

/-- The longer of two regular expressions either has nothing more or runs over. -/
theorem Comparable.eq_or_runsOver (h : Comparable c c') {r r' : String} {x : List Char}
    (hbounds : bounds c = bounds c') (hr : c.regexp = some r) (hr' : c'.regexp = some r')
    (hx : r'.toList = r.toList ++ x)
    (hrest : '"' :: closed (behindPattern c) = x ++ '"' :: closed (behindPattern c')) :
    c = c' ∨ RunsOver c c' := by
  cases x with
  | nil =>
    have hregexp : c.regexp = c'.regexp := by
      rw [List.append_nil, String.toList_inj] at hx
      rw [hr, hr', hx]
    exact .inl (h.eq_of_parts_eq hbounds hregexp (List.cons.inj hrest).2)
  | cons quote y =>
    rw [List.cons_append] at hrest
    obtain ⟨rfl, hbehind⟩ := List.cons.inj hrest
    exact .inr (h.runsOver_of_append_eq hbounds hr hr' hx hbehind)

theorem Comparable.eq_or_runsOver_of_eq (h : Comparable c c')
    (htext : ofConstraint c = ofConstraint c') : c = c' ∨ RunsOver c c' ∨ RunsOver c' c := by
  obtain ⟨hbounds, hclosed⟩ := closed_append_inj h.bounds_agree (legible_slots c)
    (legible_slots c') ((ofConstraint_inj h.kind).mp htext)
  rcases closed_cons_inj (legible_slots c).tail.tail.tail (legible_slots c').tail.tail.tail hclosed
    with ⟨hnone, hnone', hbehind⟩ | ⟨t, t', hsome, hsome', hbehind⟩
  · have hregexp : c.regexp = c'.regexp := by
      rw [Option.map_eq_none_iff.mp hnone, Option.map_eq_none_iff.mp hnone']
    exact .inl (h.eq_of_parts_eq hbounds hregexp hbehind)
  · obtain ⟨r, hr, rfl⟩ := Option.map_eq_some_iff.mp hsome
    obtain ⟨r', hr', rfl⟩ := Option.map_eq_some_iff.mp hsome'
    simp only [quoted_toList, List.cons_append, List.append_assoc, List.nil_append,
      List.cons.injEq, true_and] at hbehind
    -- One of the two expressions begins with the other.
    rcases List.append_eq_append_iff.mp hbehind with ⟨x, hx, hrest⟩ | ⟨x, hx, hrest⟩
    · rcases h.eq_or_runsOver hbounds hr hr' hx hrest with heq | hruns
      · exact .inl heq
      · exact .inr (.inl hruns)
    · rcases h.symm.eq_or_runsOver hbounds.symm hr' hr hx hrest with heq | hruns
      · exact .inl heq.symm
      · exact .inr (.inr hruns)

theorem Comparable.eq_of_not_runsOver (h : Comparable c c') (hnot : ¬RunsOver c c')
    (hnot' : ¬RunsOver c' c) (htext : ofConstraint c = ofConstraint c') : c = c' := by
  rcases h.eq_or_runsOver_of_eq htext with heq | hruns | hruns
  · exact heq
  · exact absurd hruns hnot
  · exact absurd hruns hnot'

theorem RunsOver.exists_quote (h : RunsOver c c') : ∃ r' ∈ c'.regexp, '"' ∈ r'.toList := by
  obtain ⟨r, m, x, -, -, hr', -⟩ := h.takesIn
  exact ⟨_, hr', by simp⟩

theorem RunsOver.message_ne_none (h : RunsOver c c') : c.message ≠ none := by
  obtain ⟨r, m, x, -, hm, -, -⟩ := h.takesIn
  rw [hm]
  exact Option.some_ne_none m

theorem RunsOver.regexp_ne (h : RunsOver c c') : c.regexp ≠ c'.regexp := by
  obtain ⟨r, m, x, hr, -, hr', -⟩ := h.takesIn
  rw [hr, hr']
  intro hsame
  have hlength := congrArg String.length (Option.some.inj hsame)
  have hquote : 0 < "\"".length := by decide
  simp only [String.length_append] at hlength
  omega

/-- The constraint of the same bounds whose regular expression goes on to the end of the message. -/
def greedy (c : Declared.Constraint) (r m : String) : Declared.Constraint :=
  { c with
    regexp := some (r ++ "\"" ++ written (amounts c) ++ ", message = " ++ ("\"" ++ m))
    integer := none, fraction := none, inclusive := none, message := none }

theorem comparable_greedy (c : Declared.Constraint) (r m : String) :
    Comparable c (greedy c r m) := by
  have hsame {α : Type} (o : Option α) : AgreeWhereGiven o o :=
    fun a ha a' ha' => Option.some.inj (ha.symm.trans ha')
  have hnone {α : Type} (o : Option α) : AgreeWhereGiven o none := fun _ _ _ h => nomatch h
  exact ⟨rfl, hsame _, hsame _, hsame _, hnone _, hnone _, hnone _⟩

theorem runsOver_greedy {r m : String} (hr : c.regexp = some r) (hm : c.message = some m) :
    RunsOver c (greedy c r m) := by
  have hbehind : written (behindPattern (greedy c r m)) = "" := by
    simp [greedy, written, behindPattern, amounts, message, Slot.written, Slot.shown]
  refine ⟨rfl, rfl, rfl, r, m, "\"" ++ m, hr, hm, rfl, ?_⟩
  rw [hbehind, String.append_empty, quoted]

/-- With a regular expression and a message there is always a second constraint of that text. -/
theorem exists_ofConstraint_eq {r m : String} (hr : c.regexp = some r) (hm : c.message = some m) :
    ∃ c', Comparable c c' ∧ c ≠ c' ∧ ofConstraint c = ofConstraint c' := by
  have hcomparable := comparable_greedy c r m
  have hruns := runsOver_greedy hr hm
  refine ⟨greedy c r m, hcomparable, fun heq => ?_, hruns.ofConstraint_eq hcomparable.kind⟩
  exact hruns.regexp_ne (congrArg Declared.Constraint.regexp heq)

/-- How far the text of a constraint tells it from another one. -/
structure ToldApart (c c' : Declared.Constraint) : Prop where
  eq_iff : ofConstraint c = ofConstraint c' ↔ c = c' ∨ RunsOver c c' ∨ RunsOver c' c
  eq_of_regexp_eq : c.regexp = c'.regexp → ofConstraint c = ofConstraint c' → c = c'
  eq_of_message_eq_none : c.message = none → c'.message = none →
    ofConstraint c = ofConstraint c' → c = c'
  eq_of_quote_notMem : (∀ r ∈ c.regexp, '"' ∉ r.toList) → (∀ r ∈ c'.regexp, '"' ∉ r.toList) →
    ofConstraint c = ofConstraint c' → c = c'

end Comparable

end Annotation

/-- Two constraints of one kind have one text exactly where a regular expression goes on behind a
quotation mark and takes in the message of the other one. -/
theorem toldApart_ofConstraint {c c' : Declared.Constraint} (h : Annotation.Comparable c c') :
    Annotation.ToldApart c c' := by
  constructor
  case eq_iff =>
    constructor
    · exact h.eq_or_runsOver_of_eq
    · rintro (rfl | hruns | hruns)
      · rfl
      · exact hruns.ofConstraint_eq h.kind
      · exact (hruns.ofConstraint_eq h.kind.symm).symm
  case eq_of_regexp_eq =>
    intro hregexp
    exact h.eq_of_not_runsOver (fun hruns => hruns.regexp_ne hregexp)
      fun hruns => hruns.regexp_ne hregexp.symm
  case eq_of_message_eq_none =>
    intro hnone hnone'
    exact h.eq_of_not_runsOver (fun hruns => hruns.message_ne_none hnone)
      fun hruns => hruns.message_ne_none hnone'
  case eq_of_quote_notMem =>
    intro hquote hquote'
    refine h.eq_of_not_runsOver (fun hruns => ?_) (fun hruns => ?_)
    · obtain ⟨r, hr, hmem⟩ := hruns.exists_quote
      exact hquote' r hr hmem
    · obtain ⟨r, hr, hmem⟩ := hruns.exists_quote
      exact hquote r hr hmem

/-- A code in upper case, with what is said about other codes. -/
def codePattern : Declared.Constraint :=
  { kind := "Pattern", message := some "upper", value := none, min := none, max := none
    regexp := some "[A-Z]+", integer := none, fraction := none, inclusive := none }

theorem toldApart_codePattern :
    Annotation.Comparable codePattern { codePattern with message := none } ∧
      Annotation.ofConstraint codePattern ≠
        Annotation.ofConstraint { codePattern with message := none } := by
  have hcomparable : Annotation.Comparable codePattern { codePattern with message := none } :=
    ⟨rfl, by decide, by decide, by decide, by decide, by decide, by decide⟩
  refine ⟨hcomparable, fun htext => ?_⟩
  exact absurd ((toldApart_ofConstraint hcomparable).eq_of_regexp_eq rfl htext) (by decide)

/-- The expression takes in the message of `codePattern`. -/
def greedyPattern : Declared.Constraint :=
  { codePattern with regexp := some "[A-Z]+\", message = \"upper", message := none }

theorem ofConstraint_eq_greedyPattern :
    Annotation.Comparable codePattern greedyPattern ∧ codePattern ≠ greedyPattern ∧
      Annotation.ofConstraint codePattern = Annotation.ofConstraint greedyPattern := by
  refine ⟨⟨rfl, ?_, ?_, ?_, ?_, ?_, ?_⟩, ?_, ?_⟩
  all_goals decide +kernel

end DomainCompiler.Model
