import Mathlib.Logic.Relation
import Rulebook.Proofs.Json.Members
import Rulebook.Proofs.Manifest.Constants
import Rulebook.Proofs.Manifest.Contents
import Rulebook.Proofs.Manifest.Inspection

/-!
Only what a manifest says under recognized names counts. Edits of anything else go unnoticed, both
when a rule is accepted and when it is malformed, and so does the removal of a member that is null.
An item of a list that is null is no such member: with one the rule is malformed.
-/

namespace Rulebook

open Rulebook.Json (Value Members)

namespace Manifest

/-! ## Edits -/

def recognized : List String := [
  "type", "defaultSeverity", "scope", "title", "tags", "code", "parameters", "remediation",
  "compatibleLanguages", "defaultQualityProfiles"]

def recognizedInParameter : List String := ["name", "description", "type", "defaultValue"]

/-- Two objects with the same members, the one of a name apart. -/
def SameBut (name : String) (members others : Members) : Prop :=
  ∀ other, other ≠ name → members.get? other = others.get? other

/-- An edit of one member of an object in which some names are recognized: a member with another
name is added, removed or changed, or a member that is null is removed. -/
inductive MemberEdit (names : List String) (members others : Members) : Prop where
  | unrecognized {name : String} (hname : name ∉ names) (hbut : SameBut name members others)
  | nullRemoved {name : String} (hnull : members.get? name = some .null)
    (hnone : others.get? name = none) (hbut : SameBut name members others)

def LacksCost (value : Option Value) : Prop :=
  ∀ (members : Members) (cost : Value), value = some (.object members) →
    members.get? "constantCost" = some cost → scalarText? cost = none

/-- An edit of a manifest, or of the language that its rule is fetched for. -/
inductive Edit : String × Members → String × Members → Prop where
  | member {language : String} {fields others : Members}
    (hedit : MemberEdit recognized fields others) : Edit (language, fields) (language, others)
  | code {language : String} {fields others code edited : Members}
    (hcode : fields.get? "code" = some (.object code))
    (hedited : others.get? "code" = some (.object edited))
    (hbut : SameBut "code" fields others) (hedit : MemberEdit ["attribute"] code edited) :
    Edit (language, fields) (language, others)
  | parameter {language : String} {fields others entry edited : Members} {front back : List Value}
    (hentry : fields.get? "parameters" = some (.array (front ++ .object entry :: back)))
    (hedited : others.get? "parameters" = some (.array (front ++ .object edited :: back)))
    (hbut : SameBut "parameters" fields others)
    (hedit : MemberEdit recognizedInParameter entry edited) :
    Edit (language, fields) (language, others)
  | remediation {language : String} {fields others remediation edited : Members}
    (hremediation : fields.get? "remediation" = some (.object remediation))
    (hedited : others.get? "remediation" = some (.object edited))
    (hbut : SameBut "remediation" fields others)
    (hedit : MemberEdit ["constantCost"] remediation edited) :
    Edit (language, fields) (language, others)
  /-- Remediation without a cost is replaced, removed or added. -/
  | withoutCost {language : String} {fields others : Members}
    (hlacks : LacksCost (fields.get? "remediation"))
    (hlacks' : LacksCost (others.get? "remediation"))
    (hbut : SameBut "remediation" fields others) : Edit (language, fields) (language, others)
  | language {first second : String} {fields : Members} {languages : Value}
    (hlanguages : fields.get? "compatibleLanguages" = some languages) (hnull : languages ≠ .null) :
    Edit (first, fields) (second, fields)

theorem sameBut_removed {name : String} (front : Members) (value : Value) (back : Members) :
    SameBut name (front ++ (name, value) :: back) (front ++ back) := by
  intro other hother
  induction front with
  | nil =>
    rw [List.nil_append, Json.Members.get?_cons, if_neg hother]
    rfl
  | cons entry rest ih =>
    rw [List.cons_append, List.cons_append, Json.Members.get?_cons, Json.Members.get?_cons, ih]

theorem sameBut_replaced {name : String} (front : Members) (value value' : Value)
    (back : Members) :
    SameBut name (front ++ (name, value) :: back) (front ++ (name, value') :: back) := by
  intro other hother
  rw [sameBut_removed front value back other hother, sameBut_removed front value' back other hother]

/-! ## Readings of members -/

section Readings

variable {fields others : Members} {name : String}

theorem present?_congr (h : fields.get? name = others.get? name) :
    present? fields name = present? others name := by
  unfold present?
  rw [h]

theorem SameBut.present?_eq {apart : String} (h : SameBut apart fields others)
    (hname : name ≠ apart) : present? fields name = present? others name :=
  present?_congr (h name hname)

theorem MemberEdit.present?_eq {names : List String} (h : MemberEdit names fields others)
    (hname : name ∈ names) : present? fields name = present? others name := by
  cases h with
  | @unrecognized apart hapart hbut =>
    apply hbut.present?_eq
    rintro rfl
    exact hapart hname
  | @nullRemoved apart hnull hnone hbut =>
    by_cases heq : name = apart
    · -- The member that was null is not read, whether it is there or not.
      subst heq
      unfold present?
      rw [hnull, hnone]
    · exact hbut.present?_eq heq

theorem requiredText_congr (h : present? fields name = present? others name) :
    requiredText fields name = requiredText others name := by
  unfold requiredText
  rw [h]

theorem optionalTexts_congr (h : present? fields name = present? others name) :
    optionalTexts fields name = optionalTexts others name := by
  unfold optionalTexts
  rw [h]

theorem costOf?_object (members : Members) :
    costOf? (.object members) = (present? members "constantCost").bind scalarText? := by
  unfold present?
  show (members.get? "constantCost").bind scalarText? = _
  cases members.get? "constantCost" with
  | none => rfl
  | some cost =>
    cases cost with
    | null => rfl
    | _ => rfl

theorem remediationOf_of_lacksCost (h : LacksCost (fields.get? "remediation")) :
    remediationOf fields = none := by
  have hcost : (present? fields "remediation").bind costOf? = none := by
    unfold present?
    cases hvalue : fields.get? "remediation" with
    | none => rfl
    | some value =>
      cases value with
      | object members =>
        rw [hvalue] at h
        show (Members.get? members "constantCost").bind scalarText? = none
        cases hmember : Members.get? members "constantCost" with
        | none => rfl
        | some cost => exact h members cost rfl hmember
      | _ => rfl
  rw [remediationOf, hcost]
  rfl

theorem attributeOf_congr (h : present? fields "code" = present? others "code") :
    attributeOf fields = attributeOf others := by
  unfold attributeOf
  rw [h]

theorem attributeOf_congr_object {code edited : Members}
    (hcode : fields.get? "code" = some (.object code))
    (hedited : others.get? "code" = some (.object edited))
    (h : present? code "attribute" = present? edited "attribute") :
    attributeOf fields = attributeOf others := by
  simp only [attributeOf, present?_of_get? hcode nofun, present?_of_get? hedited nofun, h]

theorem parametersOf_congr (h : present? fields "parameters" = present? others "parameters") :
    parametersOf fields = parametersOf others := by
  unfold parametersOf
  rw [h]

theorem remediationOf_congr (h : present? fields "remediation" = present? others "remediation") :
    remediationOf fields = remediationOf others := by
  rw [remediationOf, h, remediationOf]

theorem parameterOf_congr
    (h : ∀ name ∈ recognizedInParameter, present? fields name = present? others name)
    (index : Nat) : parameterOf index (.object fields) = parameterOf index (.object others) := by
  have htext {name : String} (hname : name ∈ recognizedInParameter) :
      parameterText index fields name = parameterText index others name := by
    rw [parameterText_eq, parameterText_eq, h name hname]
  simp only [parameterOf]
  rw [htext (by decide), htext (by decide), htext (by decide), htext (by decide)]

theorem parametersFrom_congr {entry edited : Value}
    (h : ∀ index, parameterOf index entry = parameterOf index edited) (front back : List Value)
    (index : Nat) : parametersFrom index (front ++ entry :: back) =
      parametersFrom index (front ++ edited :: back) := by
  induction front generalizing index with
  | nil =>
    show (parameterOf index entry >>= _) = (parameterOf index edited >>= _)
    rw [h]
  | cons first rest ih =>
    -- An entry in front moves both entries to the same next index.
    rw [List.cons_append, List.cons_append, parametersFrom, parametersFrom, ih]

end Readings

/-! ## Objects that are read alike -/

/-- Every reading of a part of the rule gives the same for both objects. -/
structure ReadAlike (fields others : Members) : Prop where
  texts : ∀ name ∈ ["type", "defaultSeverity", "scope", "title", "tags", "compatibleLanguages",
    "defaultQualityProfiles"], present? fields name = present? others name
  code : attributeOf fields = attributeOf others
  parameters : parametersOf fields = parametersOf others
  remediation : remediationOf fields = remediationOf others

namespace ReadAlike

variable {fields others : Members}

theorem of_present?
    (h : ∀ name ∈ recognized, present? fields name = present? others name) :
    ReadAlike fields others where
  texts := by
    intro name hname
    apply h
    revert name
    decide
  code := attributeOf_congr (h "code" (by decide))
  parameters := parametersOf_congr (h "parameters" (by decide))
  remediation := remediationOf_congr (h "remediation" (by decide))

/-- Only the member of one name differs, and what is read of it is the same. -/
theorem of_sameBut {apart : String} (hbut : SameBut apart fields others)
    (happart : apart ∈ ["code", "parameters", "remediation"])
    (hcode : attributeOf fields = attributeOf others)
    (hparameters : parametersOf fields = parametersOf others)
    (hremediation : remediationOf fields = remediationOf others) : ReadAlike fields others where
  texts := by
    intro name hname
    apply hbut.present?_eq
    rintro rfl
    revert happart hname
    clear hbut
    revert name
    decide
  code := hcode
  parameters := hparameters
  remediation := hremediation

theorem ruleOf_eq (h : ReadAlike fields others) (language key : String)
    (documentation : Option String) :
    ruleOf language ⟨key, .object fields, documentation⟩ =
      ruleOf language ⟨key, .object others, documentation⟩ := by
  have hdescription : descriptionOf ⟨key, .object fields, documentation⟩ fields =
      descriptionOf ⟨key, .object others, documentation⟩ others := by
    unfold descriptionOf
    rw [requiredText_congr (h.texts "type" (by decide)),
      requiredText_congr (h.texts "defaultSeverity" (by decide)),
      requiredText_congr (h.texts "scope" (by decide)),
      requiredText_congr (h.texts "title" (by decide)),
      optionalTexts_congr (h.texts "tags" (by decide)), h.code, h.parameters]
    rfl
  show (descriptionOf _ fields >>= _) = (descriptionOf _ others >>= _)
  rw [hdescription, optionalTexts_congr (h.texts "compatibleLanguages" (by decide)),
    optionalTexts_congr (h.texts "defaultQualityProfiles" (by decide)), h.remediation]

end ReadAlike

theorem ruleOf_eq_of_language {first second : String} {fields : Members} {languages : Value}
    (hlanguages : fields.get? "compatibleLanguages" = some languages) (hnull : languages ≠ .null)
    (key : String) (documentation : Option String) :
    ruleOf first ⟨key, .object fields, documentation⟩ =
      ruleOf second ⟨key, .object fields, documentation⟩ := by
  show (descriptionOf _ fields >>= _) = (descriptionOf _ fields >>= _)
  congr 1
  funext description
  -- Languages that are there are malformed or given, and no default takes their place.
  unfold optionalTexts
  rw [present?_of_get? hlanguages hnull]
  cases languages with
  | array items =>
    show ((textsAt _ 0 items).map some >>= _) = ((textsAt _ 0 items).map some >>= _)
    cases textsAt "compatibleLanguages" 0 items with
    | error d => rfl
    | ok texts => rfl
  | _ => rfl

/-! ## Edits change nothing -/

theorem Edit.ruleOf_eq {first second : String × Members} (h : Edit first second) (key : String)
    (documentation : Option String) :
    ruleOf first.1 ⟨key, .object first.2, documentation⟩ =
      ruleOf second.1 ⟨key, .object second.2, documentation⟩ := by
  cases h with
  | member hedit => exact (ReadAlike.of_present? fun name => hedit.present?_eq).ruleOf_eq ..
  | code hcode hedited hbut hedit =>
    refine (ReadAlike.of_sameBut hbut (by decide) ?_ ?_ ?_).ruleOf_eq ..
    · exact attributeOf_congr_object hcode hedited (hedit.present?_eq (by decide))
    · exact parametersOf_congr (hbut.present?_eq (by decide))
    · exact remediationOf_congr (hbut.present?_eq (by decide))
  | parameter hentry hedited hbut hedit =>
    refine (ReadAlike.of_sameBut hbut (by decide) ?_ ?_ ?_).ruleOf_eq ..
    · exact attributeOf_congr (hbut.present?_eq (by decide))
    · rw [parametersOf, present?_of_get? hentry nofun, parametersOf,
        present?_of_get? hedited nofun]
      exact parametersFrom_congr (parameterOf_congr fun name => hedit.present?_eq) _ _ 0
    · exact remediationOf_congr (hbut.present?_eq (by decide))
  | remediation hremediation hedited hbut hedit =>
    refine (ReadAlike.of_sameBut hbut (by decide) ?_ ?_ ?_).ruleOf_eq ..
    · exact attributeOf_congr (hbut.present?_eq (by decide))
    · exact parametersOf_congr (hbut.present?_eq (by decide))
    · rw [remediationOf, present?_of_get? hremediation nofun, remediationOf,
        present?_of_get? hedited nofun, Option.bind_some, Option.bind_some, costOf?_object,
        costOf?_object, hedit.present?_eq (by decide)]
  | withoutCost hlacks hlacks' hbut =>
    -- What remediation is instead of an object with a cost is not told apart.
    refine (ReadAlike.of_sameBut hbut (by decide) ?_ ?_ ?_).ruleOf_eq ..
    · exact attributeOf_congr (hbut.present?_eq (by decide))
    · exact parametersOf_congr (hbut.present?_eq (by decide))
    · rw [remediationOf_of_lacksCost hlacks, remediationOf_of_lacksCost hlacks']
  | language hlanguages hnull => exact ruleOf_eq_of_language hlanguages hnull key documentation

theorem ruleOf_eq_of_edits {first second : String × Members}
    (h : Relation.EqvGen Edit first second) (key : String) (documentation : Option String) :
    ruleOf first.1 ⟨key, .object first.2, documentation⟩ =
      ruleOf second.1 ⟨key, .object second.2, documentation⟩ := by
  induction h with
  | rel _ _ hedit => exact hedit.ruleOf_eq key documentation
  | refl _ => rfl
  | symm _ _ _ ih => exact ih.symm
  | trans _ _ _ _ _ ih ih' => exact ih.trans ih'

/-! ## Null items -/

theorem null_notMem_of_textsAt {name : String} {index : Nat} {items : List Value}
    {texts : List String} (h : textsAt name index items = .ok texts) : .null ∉ items := by
  have htexts : List.Forall₂ (fun item text => item ≠ .null ∧ scalarText? item = some text)
      items texts := by
    refine (textsAt_eq_ok.1 h).imp fun item text htext => ⟨?_, htext⟩
    rintro rfl
    cases htext
  exact fun hnull => ((List.forall₂_and_left items texts).1 htexts).1 .null hnull rfl

theorem null_notMem_of_optionalTexts {fields : Members} {name : String} {items : List Value}
    {texts : Option (List String)} (hitems : fields.get? name = some (.array items))
    (h : optionalTexts fields name = .ok texts) : .null ∉ items := by
  unfold optionalTexts at h
  rw [present?_of_get? hitems nofun] at h
  obtain ⟨found, hfound, -⟩ := map_eq_ok.1 h
  exact null_notMem_of_textsAt hfound

theorem null_notMem_of_parametersFrom {index : Nat} {entries : List Value}
    {parameters : List Parameter} (h : parametersFrom index entries = .ok parameters) :
    .null ∉ entries := by
  induction entries generalizing index parameters with
  | nil => exact List.not_mem_nil
  | cons entry rest ih =>
    obtain ⟨parameter, hentry, h⟩ := bind_eq_ok.1 h
    obtain ⟨others, hrest, -⟩ := bind_eq_ok.1 h
    intro hnull
    rcases List.mem_cons.1 hnull with rfl | hnull
    · cases hentry
    · exact ih hrest hnull

theorem null_notMem_of_readFrom {rule : Rule} {language name : String} {raw : RawRule}
    {fields : Members} {items : List Value} (h : rule.ReadFrom language raw fields)
    (hname : name ∈ ["tags", "compatibleLanguages", "defaultQualityProfiles", "parameters"])
    (hitems : fields.get? name = some (.array items)) : .null ∉ items := by
  obtain ⟨tags, htags, -⟩ := map_eq_ok.1 h.tags
  obtain ⟨languages, hlanguages, -⟩ := map_eq_ok.1 h.compatibleLanguages
  obtain ⟨profiles, hprofiles, -⟩ := map_eq_ok.1 h.qualityProfiles
  simp only [List.mem_cons, List.not_mem_nil, or_false] at hname
  rcases hname with rfl | rfl | rfl | rfl
  · exact null_notMem_of_optionalTexts hitems htags
  · exact null_notMem_of_optionalTexts hitems hlanguages
  · exact null_notMem_of_optionalTexts hitems hprofiles
  · have hparameters := h.parameters
    rw [parametersOf, present?_of_get? hitems nofun] at hparameters
    exact null_notMem_of_parametersFrom hparameters

end Manifest

namespace RawRule

open Rulebook.Manifest

/-- However often a manifest is edited beside its recognized names, the outcome for its rule is the
same, be it a rule or an error. A null in one of its lists is an error, whatever else it says. -/
theorem normalize_reads_recognized :
    (∀ first second : String × Members, Relation.EqvGen Edit first second →
      ∀ (key : String) (documentation : Option String),
        normalize first.1 ⟨key, .object first.2, documentation⟩ =
          normalize second.1 ⟨key, .object second.2, documentation⟩) ∧
    (∀ (language : String) (raw : RawRule) (fields : Members) (name : String)
      (items : List Value), raw.manifest = .object fields →
      name ∈ ["tags", "compatibleLanguages", "defaultQualityProfiles", "parameters"] →
      fields.get? name = some (.array items) → .null ∈ items →
      ∃ m, raw.normalize language = .error m) := by
  refine ⟨fun first second hedits key documentation => ?_,
    fun language raw fields name items hmanifest hname hitems hnull => ?_⟩
  · rw [normalize, Manifest.ruleOf_eq_of_edits hedits, normalize]
  · cases h : raw.normalize language with
    | error m => exact ⟨m, rfl⟩
    | ok rule =>
      -- A rule that was made has read a text or a parameter from every item.
      obtain ⟨read, hread, hrule⟩ := Manifest.readFrom_of_ruleOf (ruleOf_of_normalize h)
      rw [hmanifest] at hread
      cases hread
      exact absurd hnull (Manifest.null_notMem_of_readFrom hrule hname hitems)

def entry : Members := [
  ("defaultValue", .bool true), ("description", .string ""), ("name", .string "max"),
  ("type", .string "integer")]

def bareWith (entry : Members) : Members := [
  ("compatibleLanguages", .array [.string "js"]), ("defaultSeverity", .string "Major"),
  ("parameters", .array ([] ++ .object entry :: [])), ("scope", .string "Main"),
  ("title", .string "Tabs"), ("type", .string "BUG")]

def noted : Members := Members.insert "note" (.array []) entry

def annotated : Members :=
  Members.merge (bareWith noted) [("remediation", .object [("func", .string "Linear")]),
    ("tags", .null)]

theorem edits_annotated : Relation.EqvGen Edit ("js", annotated) ("java", bareWith entry) := by
  -- The null, remediation without a cost and the note go one after the other, then the language.
  let untagged := annotated.eraseIdx 5
  have htags : Edit ("js", annotated) ("js", untagged) :=
    .member (.nullRemoved rfl rfl (sameBut_removed (annotated.take 5) .null (annotated.drop 6)))
  have hremediation : Edit ("js", untagged) ("js", bareWith noted) := by
    refine .withoutCost ?_ nofun (sameBut_removed (untagged.take 3) _ (untagged.drop 4))
    intro members cost hmembers hcost
    cases hmembers
    cases hcost
  have hentry : MemberEdit recognizedInParameter noted entry := by
    apply MemberEdit.unrecognized _ (sameBut_removed (entry.take 3) (.array []) (entry.drop 3))
    decide
  have hnote : Edit ("js", bareWith noted) ("js", bareWith entry) :=
    .parameter rfl rfl
      (sameBut_replaced ((bareWith entry).take 2) _ _ ((bareWith entry).drop 3)) hentry
  have hlanguage : Edit ("js", bareWith entry) ("java", bareWith entry) := .language rfl nofun
  exact .trans _ _ _ (.rel _ _ htags) (.trans _ _ _ (.rel _ _ hremediation)
    (.trans _ _ _ (.rel _ _ hnote) (.rel _ _ hlanguage)))

theorem normalize_reads_recognized_edited :
    normalize "js" ⟨"S1", .object annotated, some ""⟩ =
      normalize "java" ⟨"S1", .object (bareWith entry), some ""⟩ ∧
    ∃ m, normalize "js" ⟨"S1", .object [("tags", .array [.string "a", .null])], none⟩ =
      .error m := by
  obtain ⟨hedits, hnull⟩ := normalize_reads_recognized
  exact ⟨hedits ("js", annotated) ("java", bareWith entry) edits_annotated "S1" (some ""),
    hnull "js" _ _ "tags" [.string "a", .null] rfl (by decide) rfl (by simp)⟩

end RawRule

end Rulebook
