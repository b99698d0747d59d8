import Rulebook.Proofs.Json.Recognition
import Rulebook.Proofs.Json.Text
import Rulebook.Proofs.Outcome
import Rulebook.Proofs.Rule.RoundTrip

/-!
The texts that spell rules, and the law of the reader of rules: it reads exactly these. A record is
spelled by an array of its fields in their order, or by an object with the members of its fields
and any others among them, in any order.
-/

namespace Rulebook

open Rulebook.Json (Tree Piece Value SpellsText text?_eq_some_iff)

/-! ## Records -/

namespace Record

def present (names : List String) (slots : List (Option Tree)) : List (String × Tree) :=
  (names.zip slots).flatMap fun (name, slot) => slot.toList.map fun tree => (name, tree)

def AreNamed (members : List (List Piece × Tree)) (named : List (String × Tree)) : Prop :=
  List.Forall₂ (fun member pair => SpellsText member.1 pair.1 ∧ member.2 = pair.2) members named

/-- A tree holds a record with these fields. In an array they stand in their order, and none is left
out; in an object they stand in any order, with members of other names among them. -/
inductive Holds (names : List String) : Tree → List (Option Tree) → Prop
  | array {items : List Tree} (hlength : items.length = names.length) :
      Holds names (.array items) (items.map some)
  | object {members : List (List Piece × Tree)} {named others : List (String × Tree)}
      {slots : List (Option Tree)} (hnamed : AreNamed members named)
      (hlength : slots.length = names.length)
      (hmembers : named.Perm (present names slots ++ others))
      (hothers : ∀ other ∈ others, other.1 ∉ names) : Holds names (.object members) slots

theorem named?_eq_some_iff {members : List (List Piece × Tree)} {named : List (String × Tree)} :
    named? members = some named ↔ AreNamed members named := by
  induction members generalizing named with
  | nil =>
    rw [named?, AreNamed, List.forall₂_nil_left_iff, Option.some.injEq, eq_comm]
  | cons member rest ih =>
    obtain ⟨name, tree⟩ := member
    rw [named?, AreNamed, List.forall₂_cons_left_iff]
    constructor
    · intro h
      split at h
      · next s others hname hrest =>
        cases h
        exact ⟨(s, tree), others, ⟨text?_eq_some_iff.1 hname, rfl⟩, ih.1 hrest, rfl⟩
      · cases h
    · rintro ⟨⟨s, tree⟩, others, ⟨hname, rfl⟩, hrest, rfl⟩
      rw [text?_eq_some_iff.2 hname, ih.2 hrest]

section Slots

variable {name : String} {names : List String} {members others : List (String × Tree)}
  {slot : Option Tree} {slots : List (Option Tree)}

theorem present_cons (name : String) (names : List String) (slot : Option Tree)
    (slots : List (Option Tree)) :
    present (name :: names) (slot :: slots) =
      (slot.toList.map fun tree => (name, tree)) ++ present names slots := by
  rw [present, List.zip_cons_cons, List.flatMap_cons]
  rfl

theorem mem_names_of_mem_present {member : String × Tree} (h : member ∈ present names slots) :
    member.1 ∈ names := by
  obtain ⟨⟨name, slot⟩, hpair, hmember⟩ := List.mem_flatMap.1 h
  obtain ⟨tree, -, rfl⟩ := List.mem_map.1 hmember
  exact (List.of_mem_zip hpair).1

/-- What members hold for a name: all the members of that name, at most one. -/
theorem slot?_eq_some_iff :
    slot? members name = some slot ↔
      members.filter (·.1 = name) = slot.toList.map fun tree => (name, tree) := by
  have hname (member : String × Tree) (h : member ∈ members.filter (·.1 = name)) :
      member.1 = name := of_decide_eq_true (List.mem_filter.1 h).2
  unfold slot?
  split
  · next hnil => cases slot <;> simp [hnil]
  · next other tree hone =>
    have hother : other = name := hname _ (hone ▸ List.mem_singleton_self _)
    cases slot <;> simp [hone, hother]
  · next hnil hone =>
    refine iff_of_false (by exact nofun) fun h => ?_
    cases slot with
    | none => exact hnil h
    | some tree => exact hone name tree h

theorem filter_eq_of_perm (h : members.Perm others) {slot : Option Tree}
    (hothers : others.filter (·.1 = name) = slot.toList.map fun tree => (name, tree)) :
    members.filter (·.1 = name) = slot.toList.map fun tree => (name, tree) := by
  have hperm := h.filter fun member => decide (member.1 = name)
  rw [hothers] at hperm
  cases slot with
  | none => exact List.Perm.eq_nil hperm
  | some tree => exact List.perm_singleton.1 hperm

theorem slots_of_perm (hnodup : names.Nodup) (hlength : slots.length = names.length)
    (hmembers : members.Perm (present names slots ++ others))
    (hothers : ∀ other ∈ others, other.1 ∉ names) :
    names.mapM (slot? members) = some slots := by
  rw [mapM_eq_some_iff]
  induction names generalizing slots others with
  | nil =>
    rw [List.length_eq_zero_iff.1 hlength]
    exact .nil
  | cons name names ih =>
    obtain ⟨slot, slots, rfl⟩ := List.exists_cons_of_length_eq_add_one hlength
    obtain ⟨hname, hnames⟩ := List.nodup_cons.1 hnodup
    rw [present_cons, List.append_assoc] at hmembers
    refine .cons (slot?_eq_some_iff.2 (filter_eq_of_perm hmembers ?_)) ?_
    · -- No other member has the name.
      have hself : (slot.toList.map fun tree => (name, tree)).filter (·.1 = name) =
          slot.toList.map fun tree => (name, tree) :=
        List.filter_eq_self.2 fun member hmember => by
          obtain ⟨tree, -, rfl⟩ := List.mem_map.1 hmember
          exact decide_eq_true rfl
      have hrest : (present names slots ++ others).filter (·.1 = name) = [] := by
        refine List.filter_eq_nil_iff.2 fun member hmember heq => ?_
        have heq : member.1 = name := of_decide_eq_true heq
        rcases List.mem_append.1 hmember with hmember | hmember
        · exact hname (heq ▸ mem_names_of_mem_present hmember)
        · exact hothers member hmember (heq ▸ List.mem_cons_self)
      rw [List.filter_append, hself, hrest, List.append_nil]
    · -- For the names behind it, the member of this name is one of the others.
      have hperm : members.Perm
          (present names slots ++ ((slot.toList.map fun tree => (name, tree)) ++ others)) := by
        refine hmembers.trans ?_
        rw [← List.append_assoc, ← List.append_assoc]
        exact List.perm_append_comm.append_right others
      refine ih hnames (Nat.succ.inj hlength) hperm fun other hother => ?_
      rcases List.mem_append.1 hother with hother | hother
      · obtain ⟨tree, -, rfl⟩ := List.mem_map.1 hother
        exact hname
      · exact fun h => hothers other hother (List.mem_cons_of_mem name h)

/-- The members whose names are fields are those that the slots hold. -/
theorem filter_perm_present (hnodup : names.Nodup)
    (h : List.Forall₂ (fun name slot => slot? members name = some slot) names slots) :
    (members.filter fun member => decide (member.1 ∈ names)).Perm (present names slots) := by
  induction h with
  | nil =>
    refine .of_eq (List.filter_eq_nil_iff.2 fun member _ h => ?_)
    exact absurd (of_decide_eq_true h) List.not_mem_nil
  | @cons name slot names slots hslot _ ih =>
    obtain ⟨hname, hnames⟩ := List.nodup_cons.1 hnodup
    have hsplit := (List.filter_append_perm (fun member => decide (member.1 = name))
      (members.filter fun member => decide (member.1 ∈ name :: names))).symm
    -- Of the members whose names are fields, those of the first name go first, and the others are
    -- those of the names behind it.
    have hself : (members.filter fun member => decide (member.1 ∈ name :: names)).filter
        (fun member => decide (member.1 = name)) = members.filter (·.1 = name) := by
      rw [List.filter_filter]
      refine List.filter_congr fun member _ => ?_
      by_cases heq : member.1 = name <;> simp [heq]
    have hrest : (members.filter fun member => decide (member.1 ∈ name :: names)).filter
        (fun member => !decide (member.1 = name)) =
          members.filter fun member => decide (member.1 ∈ names) := by
      rw [List.filter_filter]
      refine List.filter_congr fun member _ => ?_
      by_cases heq : member.1 = name <;> simp [heq, hname]
    rw [hself, hrest, slot?_eq_some_iff.1 hslot] at hsplit
    rw [present_cons]
    exact hsplit.trans ((ih hnames).append_left _)

theorem perm_of_slots (hnodup : names.Nodup) (h : names.mapM (slot? members) = some slots) :
    slots.length = names.length ∧ ∃ others, members.Perm (present names slots ++ others) ∧
      ∀ other ∈ others, other.1 ∉ names := by
  rw [mapM_eq_some_iff] at h
  have hsplit := (List.filter_append_perm (fun member => decide (member.1 ∈ names)) members).symm
  refine ⟨h.length_eq.symm, _, hsplit.trans ((filter_perm_present hnodup h).append_right _),
    fun other hother => ?_⟩
  have hother := (List.mem_filter.1 hother).2
  rwa [Bool.not_eq_true', decide_eq_false_iff_not] at hother

/-- A record is read from exactly the trees that hold it. -/
theorem slots?_eq_some_iff (hnodup : names.Nodup) {tree : Tree} :
    slots? names tree = some slots ↔ Holds names tree slots := by
  constructor
  · intro h
    cases tree with
    | array items =>
      rw [slots?] at h
      split at h
      · next hlength =>
        cases h
        exact .array hlength
      · cases h
    | object members =>
      obtain ⟨named, hnamed, hslots⟩ := Option.bind_eq_some_iff.1 h
      obtain ⟨hlength, others, hmembers, hothers⟩ := perm_of_slots hnodup hslots
      exact .object (named?_eq_some_iff.1 hnamed) hlength hmembers hothers
    | _ => cases h
  · intro h
    cases h with
    | array hlength => exact if_pos hlength
    | object hnamed hlength hmembers hothers =>
      exact Option.bind_eq_some_iff.2
        ⟨_, named?_eq_some_iff.2 hnamed, slots_of_perm hnodup hlength hmembers hothers⟩

end Slots

/-! ## Values of fields -/

inductive IsText : Tree → String → Prop
  | string {pieces : List Piece} {s : String} (h : SpellsText pieces s) :
      IsText (.string pieces) s

inductive IsList {α : Type} (isItem : Tree → α → Prop) : Tree → List α → Prop
  | array {items : List Tree} {values : List α} (h : List.Forall₂ isItem items values) :
      IsList isItem (.array items) values

/-- A field holds a value, or none: it is left out or `null`. -/
inductive IsOptional {α : Type} (isValue : Tree → α → Prop) : Option Tree → Option α → Prop
  | absent : IsOptional isValue none none
  | null : IsOptional isValue (some .null) none
  | value {tree : Tree} {a : α} (h : isValue tree a) : IsOptional isValue (some tree) (some a)

theorem text?_eq_some_iff_isText {tree : Tree} {s : String} :
    text? tree = some s ↔ IsText tree s := by
  cases tree with
  | string pieces =>
    rw [text?, text?_eq_some_iff]
    constructor
    · exact .string
    · rintro ⟨h⟩
      exact h
  | _ => exact iff_of_false (by exact nofun) (by rintro ⟨⟩)

section Values

variable {α : Type} {value? : Tree → Option α} {isValue : Tree → α → Prop}
  (hvalue : ∀ tree a, value? tree = some a ↔ isValue tree a)

include hvalue

theorem list?_eq_some_iff {tree : Tree} {values : List α} :
    list? value? tree = some values ↔ IsList isValue tree values := by
  have hitems (items : List Tree) :
      items.mapM value? = some values ↔ List.Forall₂ isValue items values := by
    rw [mapM_eq_some_iff]
    simp only [hvalue]
  cases tree with
  | array items =>
    rw [list?, hitems]
    constructor
    · exact .array
    · rintro ⟨h⟩
      exact h
  | _ => exact iff_of_false (by exact nofun) (by rintro ⟨⟩)

theorem optional?_eq_some_iff (hnull : ∀ a, ¬isValue .null a) {slot : Option Tree}
    {value : Option α} : optional? value? slot = some value ↔ IsOptional isValue slot value := by
  constructor
  · intro h
    unfold optional? at h
    split at h
    · cases h
      exact .absent
    · cases h
      exact .null
    · obtain ⟨a, ha, rfl⟩ := Option.map_eq_some_iff.1 h
      exact .value ((hvalue _ _).1 ha)
  · intro h
    cases h with
    | absent => rfl
    | null => rfl
    | @value tree a h =>
      unfold optional?
      split
      · next heq => cases heq
      · next heq =>
        cases heq
        exact absurd h (hnull a)
      · next heq =>
        cases heq
        rw [(hvalue _ _).2 h]
        rfl

end Values

end Record

open Record

/-! ## Rules -/

def Parameter.IsSpelledBy (p : Parameter) (tree : Tree) : Prop :=
  ∃ name description type defaultValue,
    Holds fieldNames tree [some name, some description, some type, some defaultValue] ∧
    IsText name p.name ∧ IsText description p.description ∧ IsText type p.type ∧
    IsText defaultValue p.defaultValue

def Remediation.IsSpelledBy (r : Remediation) (tree : Tree) : Prop :=
  ∃ cost, Holds fieldNames tree [some cost] ∧ IsText cost r.cost

/-- A tree spells a rule. Its tags may be listed in any order and repeatedly. -/
def Rule.IsSpelledBy (rule : Rule) (tree : Tree) : Prop :=
  ∃ name title htmlDocumentation type defaultSeverity tags cleanCodeAttribute scope parameters
    remediation compatibleLanguages qualityProfiles listed,
    Holds fieldNames tree [some name, some title, some htmlDocumentation, some type,
      some defaultSeverity, some tags, some cleanCodeAttribute, some scope, some parameters,
      remediation, some compatibleLanguages, some qualityProfiles] ∧
    IsText name rule.name ∧ IsText title rule.title ∧
    IsText htmlDocumentation rule.htmlDocumentation ∧ IsText type rule.type ∧
    IsText defaultSeverity rule.defaultSeverity ∧
    (IsList IsText tags listed ∧ ∀ tag, tag ∈ listed ↔ tag ∈ rule.tags) ∧
    IsText cleanCodeAttribute rule.cleanCodeAttribute ∧ IsText scope rule.scope ∧
    IsList (fun tree p => Parameter.IsSpelledBy p tree) parameters rule.parameters ∧
    IsOptional (fun tree r => Remediation.IsSpelledBy r tree) remediation rule.remediation ∧
    IsList IsText compatibleLanguages rule.compatibleLanguages ∧
    IsList IsText qualityProfiles rule.qualityProfiles

theorem Parameter.ofTree?_eq_some_iff {tree : Tree} {p : Parameter} :
    Parameter.ofTree? tree = some p ↔ p.IsSpelledBy tree := by
  have hnodup : fieldNames.Nodup := by decide
  constructor
  · intro h
    obtain ⟨slots, hslots, h⟩ := Option.bind_eq_some_iff.1 h
    split at h
    · simp only [Option.bind_eq_bind, Option.bind_eq_some_iff] at h
      obtain ⟨_, hname, _, hdescription, _, htype, _, hdefault, h⟩ := h
      cases h
      exact ⟨_, _, _, _, (slots?_eq_some_iff hnodup).1 hslots, text?_eq_some_iff_isText.1 hname,
        text?_eq_some_iff_isText.1 hdescription, text?_eq_some_iff_isText.1 htype,
        text?_eq_some_iff_isText.1 hdefault⟩
    · cases h
  · rintro ⟨name, description, type, defaultValue, hholds, hname, hdescription, htype, hdefault⟩
    rw [ofTree?, (slots?_eq_some_iff hnodup).2 hholds]
    simp only [text?_eq_some_iff_isText.2 hname, text?_eq_some_iff_isText.2 hdescription,
      text?_eq_some_iff_isText.2 htype, text?_eq_some_iff_isText.2 hdefault, bind, Option.bind,
      pure]

theorem Remediation.ofTree?_eq_some_iff {tree : Tree} {r : Remediation} :
    Remediation.ofTree? tree = some r ↔ r.IsSpelledBy tree := by
  have hnodup : fieldNames.Nodup := by decide
  constructor
  · intro h
    obtain ⟨slots, hslots, h⟩ := Option.bind_eq_some_iff.1 h
    split at h
    · simp only [Option.bind_eq_bind, Option.bind_eq_some_iff] at h
      obtain ⟨_, hcost, h⟩ := h
      cases h
      exact ⟨_, (slots?_eq_some_iff hnodup).1 hslots, text?_eq_some_iff_isText.1 hcost⟩
    · cases h
  · rintro ⟨cost, hholds, hcost⟩
    rw [ofTree?, (slots?_eq_some_iff hnodup).2 hholds]
    simp only [text?_eq_some_iff_isText.2 hcost, bind, Option.bind, pure]

theorem Remediation.not_isSpelledBy_null (r : Remediation) : ¬r.IsSpelledBy .null := by
  rintro ⟨_, h, -⟩
  cases h

theorem Rule.ofTree?_eq_some_iff {tree : Tree} {rule : Rule} :
    Rule.ofTree? tree = some rule ↔ rule.IsSpelledBy tree := by
  have hnodup : fieldNames.Nodup := by decide
  have hparameters {tree : Tree} {parameters : List Parameter} :
      list? Parameter.ofTree? tree = some parameters ↔
        IsList (fun tree p => Parameter.IsSpelledBy p tree) tree parameters :=
    list?_eq_some_iff fun _ _ => Parameter.ofTree?_eq_some_iff
  have hremediation {slot : Option Tree} {remediation : Option Remediation} :
      optional? Remediation.ofTree? slot = some remediation ↔
        IsOptional (fun tree r => Remediation.IsSpelledBy r tree) slot remediation :=
    @optional?_eq_some_iff Remediation Remediation.ofTree? (fun tree r => r.IsSpelledBy tree)
      (fun _ _ => Remediation.ofTree?_eq_some_iff) Remediation.not_isSpelledBy_null slot remediation
  have htexts {tree : Tree} {texts : List String} :
      list? text? tree = some texts ↔ IsList IsText tree texts :=
    list?_eq_some_iff fun _ _ => text?_eq_some_iff_isText
  constructor
  · intro h
    obtain ⟨slots, hslots, h⟩ := Option.bind_eq_some_iff.1 h
    split at h
    · -- One field is read after the other.
      obtain ⟨_, hname, h⟩ := Option.bind_eq_some_iff.1 h
      obtain ⟨_, htitle, h⟩ := Option.bind_eq_some_iff.1 h
      obtain ⟨_, hdocumentation, h⟩ := Option.bind_eq_some_iff.1 h
      obtain ⟨_, htype, h⟩ := Option.bind_eq_some_iff.1 h
      obtain ⟨_, hseverity, h⟩ := Option.bind_eq_some_iff.1 h
      obtain ⟨listed, htags, h⟩ := Option.bind_eq_some_iff.1 h
      obtain ⟨_, hattribute, h⟩ := Option.bind_eq_some_iff.1 h
      obtain ⟨_, hscope, h⟩ := Option.bind_eq_some_iff.1 h
      obtain ⟨_, hparams, h⟩ := Option.bind_eq_some_iff.1 h
      obtain ⟨_, hremedy, h⟩ := Option.bind_eq_some_iff.1 h
      obtain ⟨_, hlanguages, h⟩ := Option.bind_eq_some_iff.1 h
      obtain ⟨_, hprofiles, h⟩ := Option.bind_eq_some_iff.1 h
      cases h
      exact ⟨_, _, _, _, _, _, _, _, _, _, _, _, listed, (slots?_eq_some_iff hnodup).1 hslots,
        text?_eq_some_iff_isText.1 hname, text?_eq_some_iff_isText.1 htitle,
        text?_eq_some_iff_isText.1 hdocumentation, text?_eq_some_iff_isText.1 htype,
        text?_eq_some_iff_isText.1 hseverity, ⟨htexts.1 htags, fun _ => TagSet.mem_ofList.symm⟩,
        text?_eq_some_iff_isText.1 hattribute, text?_eq_some_iff_isText.1 hscope,
        hparameters.1 hparams, hremediation.1 hremedy, htexts.1 hlanguages, htexts.1 hprofiles⟩
    · cases h
  · rintro ⟨_, _, _, _, _, _, _, _, _, _, _, _, listed, hholds, hname, htitle, hdocumentation,
      htype, hseverity, ⟨htags, hlisted⟩, hattribute, hscope, hparams, hremedy, hlanguages,
      hprofiles⟩
    rw [ofTree?, (slots?_eq_some_iff hnodup).2 hholds]
    simp only [text?_eq_some_iff_isText.2 hname, text?_eq_some_iff_isText.2 htitle,
      text?_eq_some_iff_isText.2 hdocumentation, text?_eq_some_iff_isText.2 htype,
      text?_eq_some_iff_isText.2 hseverity, htexts.2 htags, text?_eq_some_iff_isText.2 hattribute,
      text?_eq_some_iff_isText.2 hscope, hparameters.2 hparams, hremediation.2 hremedy,
      htexts.2 hlanguages, htexts.2 hprofiles, TagSet.ofList_eq_of_mem_iff hlisted, bind,
      Option.bind, pure]

/-! ## Defects -/

inductive FieldKind where
  | text
  | list
  | optional

/-- A tree cannot hold a record with these fields: it is neither an array nor an object; as an array
it has another number of items; as an object it has a field twice; a field is left out that has to
be there, or holds something of another kind. -/
inductive Record.HasDefect (names : List String) (kinds : List FieldKind) : Tree → Prop
  | scalar {tree : Tree} (harray : ∀ items, tree ≠ .array items)
      (hobject : ∀ members, tree ≠ .object members) : HasDefect names kinds tree
  | length {items : List Tree} (hlength : items.length ≠ names.length) :
      HasDefect names kinds (.array items)
  | repeated {members : List (List Piece × Tree)} {named : List (String × Tree)} {name : String}
      (hnamed : AreNamed members named) (hname : name ∈ names)
      (htwice : 2 ≤ (named.filter (·.1 = name)).length) : HasDefect names kinds (.object members)
  | missing {tree : Tree} {slots : List (Option Tree)} {kind : FieldKind}
      (hholds : Holds names tree slots) (hfield : (kind, none) ∈ kinds.zip slots)
      (hkind : kind ≠ .optional) : HasDefect names kinds tree
  | notText {tree field : Tree} {slots : List (Option Tree)} (hholds : Holds names tree slots)
      (hfield : (FieldKind.text, some field) ∈ kinds.zip slots)
      (hstring : ∀ pieces, field ≠ .string pieces) : HasDefect names kinds tree
  | notList {tree field : Tree} {slots : List (Option Tree)} (hholds : Holds names tree slots)
      (hfield : (FieldKind.list, some field) ∈ kinds.zip slots)
      (harray : ∀ items, field ≠ .array items) : HasDefect names kinds tree

def Rule.fieldKinds : List FieldKind :=
  [.text, .text, .text, .text, .text, .list, .text, .text, .list, .optional, .list, .list]

/-- A tree cannot spell a rule: it cannot hold the fields of one, or one of its parameters or its
remediation cannot hold theirs. -/
inductive Rule.HasDefect : Tree → Prop
  | record {tree : Tree} (h : Record.HasDefect fieldNames fieldKinds tree) : HasDefect tree
  | parameter {tree item : Tree} {items : List Tree} {slots : List (Option Tree)}
      (hholds : Holds fieldNames tree slots)
      (hfield : ("parameters", some (.array items)) ∈ fieldNames.zip slots) (hitem : item ∈ items)
      (h : Record.HasDefect Parameter.fieldNames [.text, .text, .text, .text] item) :
      HasDefect tree
  | remediation {tree field : Tree} {slots : List (Option Tree)}
      (hholds : Holds fieldNames tree slots)
      (hfield : ("remediation", some field) ∈ fieldNames.zip slots) (hnull : field ≠ .null)
      (h : Record.HasDefect Remediation.fieldNames [.text] field) : HasDefect tree

def FieldKind.Fits : FieldKind → Option Tree → Prop
  | .text, slot => ∃ pieces, slot = some (.string pieces)
  | .list, slot => ∃ items, slot = some (.array items)
  | .optional, _ => True

section Defects

variable {names : List String} {kinds : List FieldKind} {tree : Tree} {slots : List (Option Tree)}

theorem Record.IsText.fits {s : String} (h : IsText tree s) : FieldKind.text.Fits (some tree) := by
  cases h
  exact ⟨_, rfl⟩

theorem Record.IsList.fits {α : Type} {isItem : Tree → α → Prop} {values : List α}
    (h : IsList isItem tree values) : FieldKind.list.Fits (some tree) := by
  cases h
  exact ⟨_, rfl⟩

theorem Record.Holds.unique (hnodup : names.Nodup) (h : Holds names tree slots)
    {slots' : List (Option Tree)} (h' : Holds names tree slots') : slots = slots' := by
  rw [← slots?_eq_some_iff hnodup] at h h'
  exact Option.some.inj (h.symm.trans h')

/-- An object holds no field twice. -/
theorem Record.Holds.length_filter_le (hnodup : names.Nodup)
    {members : List (List Piece × Tree)} {named : List (String × Tree)} {name : String}
    (h : Holds names (.object members) slots) (hnamed : AreNamed members named)
    (hname : name ∈ names) : (named.filter (·.1 = name)).length ≤ 1 := by
  have hslots : (named? members).bind (fun members => names.mapM (slot? members)) = some slots :=
    (slots?_eq_some_iff hnodup).2 h
  rw [named?_eq_some_iff.2 hnamed, Option.bind_some, mapM_eq_some_iff] at hslots
  obtain ⟨slot, -, hslot⟩ := exists_of_mem_of_forall₂ hslots hname
  rw [slot?_eq_some_iff.1 hslot]
  cases slot with
  | none => exact Nat.zero_le 1
  | some tree => exact Nat.le_refl 1

/-- A record with a defect is not one whose fields hold something of their kinds. -/
theorem Record.HasDefect.not_fits (hnodup : names.Nodup) (h : HasDefect names kinds tree)
    (hholds : Holds names tree slots) : ¬List.Forall₂ FieldKind.Fits kinds slots := by
  rw [List.forall₂_iff_zip]
  rintro ⟨-, hfits⟩
  cases h with
  | scalar harray hobject =>
    cases hholds with
    | array => exact harray _ rfl
    | object => exact hobject _ rfl
  | length hlength =>
    cases hholds with
    | array hlength' => exact hlength hlength'
  | repeated hnamed hname htwice =>
    have hle := hholds.length_filter_le hnodup hnamed hname
    omega
  | @missing _ _ kind hholds' hfield hkind =>
    -- A tree holds one record at most, so the field that is missing is one of these.
    cases hholds.unique hnodup hholds'
    have hfit := hfits hfield
    cases kind with
    | text =>
      obtain ⟨_, ⟨⟩⟩ := hfit
    | list =>
      obtain ⟨_, ⟨⟩⟩ := hfit
    | optional => exact hkind rfl
  | notText hholds' hfield hstring =>
    cases hholds.unique hnodup hholds'
    obtain ⟨pieces, heq⟩ := hfits hfield
    exact hstring pieces (Option.some.inj heq)
  | notList hholds' hfield harray =>
    cases hholds.unique hnodup hholds'
    obtain ⟨items, heq⟩ := hfits hfield
    exact harray items (Option.some.inj heq)

end Defects

theorem Parameter.not_isSpelledBy_of_hasDefect {tree : Tree}
    (h : Record.HasDefect fieldNames [.text, .text, .text, .text] tree) (p : Parameter) :
    ¬p.IsSpelledBy tree := by
  rintro ⟨_, _, _, _, hholds, hname, hdescription, htype, hdefault⟩
  exact h.not_fits (by decide) hholds
    (.cons hname.fits (.cons hdescription.fits (.cons htype.fits (.cons hdefault.fits .nil))))

theorem Remediation.not_isSpelledBy_of_hasDefect {tree : Tree}
    (h : Record.HasDefect fieldNames [.text] tree) (r : Remediation) : ¬r.IsSpelledBy tree := by
  rintro ⟨_, hholds, hcost⟩
  exact h.not_fits (by decide) hholds (.cons hcost.fits .nil)

section Fields

variable {name title documentation type severity tags quality scope parameters remediation
  languages profiles : Option Tree}

/-- The slots of a rule beside the names of its fields. -/
theorem mem_zip_fieldNames {entry : String × Option Tree}
    (h : entry ∈ Rule.fieldNames.zip [name, title, documentation, type, severity, tags, quality,
      scope, parameters, remediation, languages, profiles]) :
    (entry.1 = "parameters" → entry.2 = parameters) ∧
      (entry.1 = "remediation" → entry.2 = remediation) := by
  simp only [Rule.fieldNames, List.zip_cons_cons, List.zip_nil_right, List.mem_cons,
    List.not_mem_nil, or_false] at h
  rcases h with rfl | rfl | rfl | rfl | rfl | rfl | rfl | rfl | rfl | rfl | rfl | rfl <;> simp

end Fields

/-- A tree with a defect spells no rule. -/
theorem Rule.HasDefect.not_isSpelledBy {tree : Tree} (h : HasDefect tree) (rule : Rule) :
    ¬rule.IsSpelledBy tree := by
  have hnodup : fieldNames.Nodup := by decide
  rintro ⟨_, _, _, _, _, _, _, _, _, _, _, _, _, hholds, hname, htitle, hdocumentation, htype,
    hseverity, ⟨htags, -⟩, hattribute, hscope, hparams, hremedy, hlanguages, hprofiles⟩
  cases h with
  -- What a rule spells in a field fits the kind of the field.
  | record h =>
    refine h.not_fits hnodup hholds ?_
    exact .cons hname.fits (.cons htitle.fits (.cons hdocumentation.fits (.cons htype.fits
      (.cons hseverity.fits (.cons htags.fits (.cons hattribute.fits (.cons hscope.fits
        (.cons hparams.fits (.cons trivial (.cons hlanguages.fits
          (.cons hprofiles.fits .nil)))))))))))
  | parameter hholds' hfield hitem h =>
    cases hholds.unique hnodup hholds'
    obtain ⟨hitems⟩ := hparams
    cases (mem_zip_fieldNames hfield).1 rfl
    obtain ⟨p, -, hp⟩ := exists_of_mem_of_forall₂ hitems hitem
    exact p.not_isSpelledBy_of_hasDefect h hp
  | remediation hholds' hfield hnull h =>
    cases hholds.unique hnodup hholds'
    cases (mem_zip_fieldNames hfield).2 rfl
    generalize rule.remediation = remediation at hremedy
    cases hremedy with
    | null => exact hnull rfl
    | value hr => exact Remediation.not_isSpelledBy_of_hasDefect h _ hr

/-! ## Texts -/

namespace Rule

theorem ofText?_eq_some_iff {text : String} {rule : Rule} :
    ofText? text = some rule ↔ ∃ tree, tree.IsSpelledBy text ∧ rule.IsSpelledBy tree := by
  rw [ofText?, Option.bind_eq_some_iff]
  simp only [Tree.ofText?_eq_some_iff, ofTree?_eq_some_iff]

/-- The reader of rules reads exactly the texts that spell rules, each as the rule that it spells: a
text spells one rule at most. Every other text is rejected, in particular one whose tree has a
defect. -/
theorem reading_accepts_spellings (text : String) :
    (∀ rule, ofText? text = some rule ↔ ∃ tree, tree.IsSpelledBy text ∧ rule.IsSpelledBy tree) ∧
    (ofText? text = none ↔ ∀ tree, tree.IsSpelledBy text → ∀ rule : Rule, ¬rule.IsSpelledBy tree) ∧
    ∀ tree, tree.IsSpelledBy text → HasDefect tree → ofText? text = none := by
  have hnone : ofText? text = none ↔
      ∀ tree, tree.IsSpelledBy text → ∀ rule : Rule, ¬rule.IsSpelledBy tree := by
    rw [Option.eq_none_iff_forall_ne_some]
    constructor
    · intro h tree htree rule hrule
      exact h rule (ofText?_eq_some_iff.2 ⟨tree, htree, hrule⟩)
    · intro h rule hread
      obtain ⟨tree, htree, hrule⟩ := ofText?_eq_some_iff.1 hread
      exact h tree htree rule hrule
  refine ⟨fun rule => ofText?_eq_some_iff, hnone, fun tree htree hdefect => hnone.2 ?_⟩
  intro other hother rule
  -- The text is read as one tree only.
  have hsame := (Tree.ofText?_eq_some_iff.2 hother).symm.trans (Tree.ofText?_eq_some_iff.2 htree)
  rw [Option.some.inj hsame]
  exact hdefect.not_isSpelledBy rule

/-- A rule as an object out of order, with a parameter as an array, a tag twice, members that no
rule has, one of them twice, and no remediation. -/
def shuffledJson : Value :=
  .object [
    ("x", .array [.null]), ("title", .string "t"), ("name", .string "S1"), ("x", .bool true),
    ("type", .string "BUG"), ("htmlDocumentation", .string "é"), ("scope", .string "MAIN"),
    ("defaultSeverity", .string "MAJOR"), ("tags", textsToJson ["b", "a", "b"]),
    ("cleanCodeAttribute", .string "CLEAR"), ("qualityProfiles", .array []),
    ("parameters", .array [textsToJson ["p", "", "INTEGER", "1"]]),
    ("compatibleLanguages", textsToJson ["js"])]

def shortJson : Value := textsToJson ["S1", "t"]

theorem reading_accepts_spellings_shuffled :
    (∃ tree, tree.IsSpelledBy shuffledJson.compact ∧ unsortedRule.IsSpelledBy tree) ∧
    ofText? shuffledJson.compact = some unsortedRule ∧
    ∃ tree, tree.IsSpelledBy shortJson.compact ∧ HasDefect tree ∧
      ofText? shortJson.compact = none := by
  have hvalue : shuffledJson.tree?.bind ofTree? = some unsortedRule := by decide +kernel
  obtain ⟨tree, htree, hrule⟩ := Option.bind_eq_some_iff.1 hvalue
  have hspelled : tree.IsSpelledBy shuffledJson.compact :=
    Tree.ofText?_eq_some_iff.1 (Value.ofText?_printed htree).1
  have hshort : (textsTree ["S1", "t"]).IsSpelledBy shortJson.compact :=
    Tree.ofText?_eq_some_iff.1 (Value.ofText?_printed (tree?_textsToJson ["S1", "t"])).1
  have hdefect : HasDefect (textsTree ["S1", "t"]) := .record (.length (by decide))
  have hreads : ∃ tree, tree.IsSpelledBy shuffledJson.compact ∧ unsortedRule.IsSpelledBy tree :=
    ⟨tree, hspelled, ofTree?_eq_some_iff.1 hrule⟩
  exact ⟨hreads, ((reading_accepts_spellings shuffledJson.compact).1 unsortedRule).2 hreads,
    _, hshort, hdefect, (reading_accepts_spellings shortJson.compact).2.2 _ hshort hdefect⟩

end Rule

end Rulebook
