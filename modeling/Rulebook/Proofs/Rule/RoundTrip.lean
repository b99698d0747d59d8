import Mathlib.Data.List.Sort
import Rulebook.Proofs.Json.Layout
import Rulebook.Rule.Json

/-!
Writing a rule and reading it again gives the rule, in either layout. So writing is a normal form of
the texts that are read as rules: texts of equal rules are written alike, and texts of different
rules differently.
-/

namespace Rulebook

open Rulebook.Json (Tree Value piecesOf)
open Record

/-! ## Sets of tags -/

namespace TagSet

theorem place_of_lt {tag : String} {tags : List String} (h : ∀ t ∈ tags, tag < t) :
    place tag tags = tag :: tags := by
  cases tags with
  | nil => rfl
  | cons other rest => rw [place, if_pos (h other List.mem_cons_self)]

theorem toList_ofList_of_pairwise {tags : List String} (h : tags.Pairwise (· < ·)) :
    (ofList tags).toList = tags := by
  induction tags with
  | nil => rfl
  | cons tag rest ih =>
    obtain ⟨hlt, hrest⟩ := List.pairwise_cons.1 h
    show place tag (ofList rest).toList = tag :: rest
    rw [ih hrest, place_of_lt hlt]

@[simp] theorem ofList_toList (tags : TagSet) : ofList tags.toList = tags := by
  have h := toList_ofList_of_pairwise tags.ascending
  -- Two sets with the same list are equal: what else they have is a proof.
  cases hset : ofList tags.toList with
  | mk list hlist =>
    rw [hset] at h
    cases tags
    cases h
    rfl

theorem ofList_eq_of_mem_iff {tags : List String} {set : TagSet}
    (h : ∀ tag, tag ∈ tags ↔ tag ∈ set) : ofList tags = set := by
  have hlist : (ofList tags).toList = set.toList :=
    (ofList tags).ascending.eq_of_mem_iff set.ascending fun tag => by
      rw [mem_toList, mem_ofList, h, mem_toList]
  rw [← ofList_toList (ofList tags), hlist, ofList_toList]

end TagSet

/-! ## Records -/

namespace Record

def tree (names : List String) (trees : List Tree) : Tree :=
  .object ((names.zip trees).map fun (name, tree) => (piecesOf name, tree))

def textTree (s : String) : Tree := .string (piecesOf s)

def textsTree (texts : List String) : Tree := .array (texts.map textTree)

@[simp] theorem text?_textTree (s : String) : text? (textTree s) = some s := Json.text?_piecesOf s

theorem list?_map {α : Type} {item? : Tree → Option α} {treeOf : α → Tree}
    (h : ∀ a, item? (treeOf a) = some a) (items : List α) :
    list? item? (.array (items.map treeOf)) = some items := by
  show (items.map treeOf).mapM item? = some items
  induction items with
  | nil => rfl
  | cons a items ih =>
    rw [List.map_cons, List.mapM_cons, h, ih]
    rfl

@[simp]
theorem list?_textsTree (texts : List String) : list? text? (textsTree texts) = some texts :=
  list?_map text?_textTree texts

@[simp] theorem named?_map (entries : List (String × Tree)) :
    named? (entries.map fun (name, tree) => (piecesOf name, tree)) = some entries := by
  induction entries with
  | nil => rfl
  | cons entry rest ih =>
    obtain ⟨name, tree⟩ := entry
    simp [named?, ih]

theorem slot?_cons_of_ne {name other : String} (h : name ≠ other) (tree : Tree)
    (members : List (String × Tree)) :
    slot? ((other, tree) :: members) name = slot? members name := by
  rw [slot?, slot?, List.filter_cons_of_neg (by simpa using Ne.symm h)]

theorem slot?_cons_self {name : String} {members : List (String × Tree)}
    (h : name ∉ members.map (·.1)) (tree : Tree) :
    slot? ((name, tree) :: members) name = some (some tree) := by
  -- No other member has the name, so it is not given twice.
  have hrest : members.filter (·.1 = name) = [] := by
    rw [List.filter_eq_nil_iff]
    intro member hmember heq
    exact h (List.mem_map.2 ⟨member, hmember, by simpa using heq⟩)
  rw [slot?, List.filter_cons_of_pos (by simp), hrest]

/-- Other names pass over a member. -/
theorem mapM_slot?_cons {name : String} {names : List String} (h : name ∉ names) (tree : Tree)
    (members : List (String × Tree)) :
    names.mapM (slot? ((name, tree) :: members)) = names.mapM (slot? members) := by
  induction names with
  | nil => rfl
  | cons other names ih =>
    have hne := List.ne_of_not_mem_cons h
    have hnames := List.not_mem_of_not_mem_cons h
    rw [List.mapM_cons, List.mapM_cons, slot?_cons_of_ne (Ne.symm hne), ih hnames]

theorem mapM_slot?_zip {names : List String} (hnodup : names.Nodup) {trees : List Tree}
    (hlength : trees.length = names.length) :
    names.mapM (slot? (names.zip trees)) = some (trees.map some) := by
  induction names generalizing trees with
  | nil =>
    rw [List.length_eq_zero_iff.1 hlength]
    rfl
  | cons name names ih =>
    obtain ⟨tree, trees, rfl⟩ := List.exists_cons_of_length_eq_add_one hlength
    obtain ⟨hname, hnames⟩ := List.nodup_cons.1 hnodup
    have hlength : trees.length = names.length := Nat.succ.inj hlength
    have hfst : (names.zip trees).map (·.1) = names := by
      rw [List.map_fst_zip (by omega)]
    rw [List.zip_cons_cons, List.mapM_cons, slot?_cons_self (by rwa [hfst]),
      mapM_slot?_cons hname, ih hnames hlength]
    rfl

theorem slots?_tree {names : List String} (hnodup : names.Nodup) {trees : List Tree}
    (hlength : trees.length = names.length) :
    slots? names (tree names trees) = some (trees.map some) := by
  rw [tree, slots?, named?_map]
  exact mapM_slot?_zip hnodup hlength

end Record

/-! ## Trees of rules -/

def Parameter.tree (p : Parameter) : Tree :=
  Record.tree fieldNames
    [textTree p.name, textTree p.description, textTree p.type, textTree p.defaultValue]

def Remediation.tree (r : Remediation) : Tree := Record.tree fieldNames [textTree r.cost]

def Remediation.optionalTree : Option Remediation → Tree
  | some remediation => remediation.tree
  | none => .null

def Rule.tree (rule : Rule) : Tree :=
  Record.tree fieldNames
    [textTree rule.name, textTree rule.title, textTree rule.htmlDocumentation, textTree rule.type,
      textTree rule.defaultSeverity, textsTree rule.tags.toList, textTree rule.cleanCodeAttribute,
      textTree rule.scope, .array (rule.parameters.map Parameter.tree),
      Remediation.optionalTree rule.remediation, textsTree rule.compatibleLanguages,
      textsTree rule.qualityProfiles]

/-! ## Writing -/

@[simp] theorem tree?_toJson_parameter (p : Parameter) : p.toJson.tree? = some p.tree := rfl

@[simp] theorem tree?_toJson_remediation (r : Remediation) : r.toJson.tree? = some r.tree := rfl

theorem trees?_map {α : Type} {toJson : α → Value} {treeOf : α → Tree}
    (h : ∀ a, (toJson a).tree? = some (treeOf a)) (items : List α) :
    Value.trees? (items.map toJson) = some (items.map treeOf) := by
  induction items with
  | nil => rfl
  | cons a items ih => rw [List.map_cons, Value.trees?, h, ih, List.map_cons]

@[simp] theorem tree?_textsToJson (texts : List String) :
    (Rule.textsToJson texts).tree? = some (textsTree texts) := by
  have htexts (s : String) : (Value.string s).tree? = some (textTree s) := rfl
  rw [Rule.textsToJson, Value.tree?, trees?_map htexts]
  rfl

@[simp] theorem tree?_toJson (rule : Rule) : rule.toJson.tree? = some rule.tree := by
  have hparameters := trees?_map tree?_toJson_parameter rule.parameters
  obtain ⟨name, title, documentation, type, severity, tags, quality, scope, parameters, remediation,
    languages, profiles⟩ := rule
  cases remediation with
  | none =>
    simp only [Rule.toJson, Value.tree?, Value.members?, tree?_textsToJson, hparameters,
      Option.map_some]
    rfl
  | some remediation =>
    simp only [Rule.toJson, Value.tree?, Value.members?, tree?_textsToJson, hparameters,
      tree?_toJson_remediation, Option.map_some]
    rfl

/-! ## Reading -/

@[simp] theorem Parameter.ofTree?_tree (p : Parameter) : Parameter.ofTree? p.tree = some p := by
  rw [Parameter.ofTree?, Parameter.tree, slots?_tree (by decide) rfl]
  simp only [List.map_cons, List.map_nil, text?_textTree, bind, Option.bind, pure]

@[simp]
theorem Remediation.ofTree?_tree (r : Remediation) : Remediation.ofTree? r.tree = some r := by
  rw [Remediation.ofTree?, Remediation.tree, slots?_tree (by decide) rfl]
  simp only [List.map_cons, List.map_nil, text?_textTree, bind, Option.bind, pure]

@[simp] theorem Rule.ofTree?_tree (rule : Rule) : Rule.ofTree? rule.tree = some rule := by
  have hremediation :
      optional? Remediation.ofTree? (some (Remediation.optionalTree rule.remediation)) =
        some rule.remediation := by
    cases rule.remediation with
    | none => rfl
    | some remediation =>
      show (Remediation.ofTree? remediation.tree).map some = _
      rw [Remediation.ofTree?_tree, Option.map_some]
  rw [Rule.ofTree?, Rule.tree, slots?_tree (by decide) rfl]
  simp only [List.map_cons, List.map_nil, text?_textTree, list?_textsTree, bind, Option.bind, pure,
    list?_map Parameter.ofTree?_tree, TagSet.ofList_toList, hremediation]

/-! ## Texts -/

namespace Rule

def layouts : List (Rule → String) := [compactText, dataText]

theorem treeOfText?_write {write : Rule → String} (h : write ∈ layouts) (rule : Rule) :
    Tree.ofText? (write rule) = some rule.tree := by
  obtain ⟨hcompact, hdata⟩ := Value.ofText?_printed (tree?_toJson rule)
  simp only [layouts, List.mem_cons, List.not_mem_nil, or_false] at h
  rcases h with rfl | rfl
  · exact hcompact
  · exact hdata

theorem ofText?_write {write : Rule → String} (h : write ∈ layouts) (rule : Rule) :
    ofText? (write rule) = some rule := by
  rw [ofText?, treeOfText?_write h, Option.bind_some, ofTree?_tree]

/-- The tags of a rule in the order in which a text lists them, with repetitions. -/
def listedTags? (text : String) : Option (List String) := do
  let tree ← Tree.ofText? text
  let slots ← slots? fieldNames tree
  list? text? (← (slots[fieldNames.idxOf "tags"]?).join)

theorem listedTags?_write {write : Rule → String} (h : write ∈ layouts) (rule : Rule) :
    listedTags? (write rule) = some rule.tags.toList := by
  have hslots : slots? fieldNames rule.tree = _ := slots?_tree (by decide) rfl
  simp only [listedTags?, treeOfText?_write h, hslots, bind, Option.bind]
  exact list?_textsTree rule.tags.toList

/-- What is read as a rule lists tags, and the rule has the set of them. -/
theorem exists_listedTags? {text : String} {rule : Rule} (h : ofText? text = some rule) :
    ∃ tags, listedTags? text = some tags ∧ rule.tags = TagSet.ofList tags := by
  obtain ⟨tree, htree, hrule⟩ := Option.bind_eq_some_iff.1 h
  rw [ofTree?] at hrule
  obtain ⟨slots, hslots, hrule⟩ := Option.bind_eq_some_iff.1 hrule
  split at hrule
  · -- Of the twelve fields only the tags matter here.
    simp only [Option.bind_eq_bind, Option.bind_eq_some_iff] at hrule
    obtain ⟨_, -, _, -, _, -, _, -, _, -, tags, htags, _, -, _, -, _, -, _, -, _, -, _, -, hrule⟩ :=
      hrule
    cases hrule
    refine ⟨tags, ?_, rfl⟩
    simp only [listedTags?, htree, hslots, bind, Option.bind]
    exact htags
  · cases hrule

/-- Either layout is a normal form of the texts that are read as rules: what is written for a rule
is read as that rule again, texts are written alike exactly if their rules are equal, and the tags
that a text lists are written once each and in ascending order. -/
theorem writing_is_canonical {write : Rule → String} (hwrite : write ∈ layouts) :
    (∀ rule, ofText? (write rule) = some rule) ∧
    (∀ text rule, ofText? text = some rule → ofText? (write rule) = ofText? text) ∧
    (∀ text other rule rule', ofText? text = some rule → ofText? other = some rule' →
      (write rule = write rule' ↔ rule = rule')) ∧
    (∀ text rule, ofText? text = some rule → ∃ tags sorted,
      listedTags? text = some tags ∧ listedTags? (write rule) = some sorted ∧
        sorted.Pairwise (· < ·) ∧ ∀ tag, tag ∈ sorted ↔ tag ∈ tags) := by
  refine ⟨ofText?_write hwrite, ?_, ?_, ?_⟩
  · intro text rule h
    rw [ofText?_write hwrite, h]
  · intro text other rule rule' _ _
    constructor
    · -- Equal texts are read alike, and each is read as the rule it was written for.
      intro heq
      have hread := ofText?_write hwrite rule
      rw [heq, ofText?_write hwrite rule'] at hread
      exact (Option.some.inj hread).symm
    · rintro rfl
      rfl
  · intro text rule h
    -- The rule has the tags as a set, and that is how they are written.
    obtain ⟨tags, htags, hset⟩ := exists_listedTags? h
    refine ⟨tags, rule.tags.toList, htags, listedTags?_write hwrite rule, rule.tags.ascending, ?_⟩
    intro tag
    rw [hset]
    exact TagSet.mem_ofList

/-- A rule as an array, with a tag twice and out of order, and without a remediation. -/
def unsortedText : String :=
  "[\"S1\",\"t\",\"\\u00e9\",\"BUG\",\"MAJOR\",[\"b\",\"a\",\"b\"],\"CLEAR\",\"MAIN\"," ++
    "[[\"p\",\"\",\"INTEGER\",\"1\"]],null,[\"js\"],[]]"

def unsortedRule : Rule where
  name := "S1"
  title := "t"
  htmlDocumentation := "é"
  type := "BUG"
  defaultSeverity := "MAJOR"
  tags := TagSet.ofList ["a", "b"]
  cleanCodeAttribute := "CLEAR"
  scope := "MAIN"
  parameters := [⟨"p", "", "INTEGER", "1"⟩]
  remediation := none
  compatibleLanguages := ["js"]
  qualityProfiles := []

def costlyRule : Rule := { unsortedRule with remediation := some ⟨"5min"⟩ }

theorem writing_is_canonical_unsorted :
    dataText ∈ layouts ∧ ofText? unsortedText = some unsortedRule ∧
      ofText? unsortedRule.dataText = ofText? unsortedText ∧
      (unsortedRule.dataText = costlyRule.dataText ↔ unsortedRule = costlyRule) ∧
      ∃ tags sorted, listedTags? unsortedText = some tags ∧
        listedTags? unsortedRule.dataText = some sorted ∧
        sorted.Pairwise (· < ·) ∧ ∀ tag, tag ∈ sorted ↔ tag ∈ tags := by
  have hwrite : dataText ∈ layouts := by simp [layouts]
  have hread : ofText? unsortedText = some unsortedRule := by decide +kernel
  obtain ⟨hreads, hagain, halike, htags⟩ := writing_is_canonical hwrite
  exact ⟨hwrite, hread, hagain _ _ hread, halike _ _ _ _ hread (hreads costlyRule),
    htags _ _ hread⟩

end Rule

end Rulebook
