import Rulebook.Catalog.Checkout
import Rulebook.Proofs.FileTree.Places
import Rulebook.Proofs.Json.Members
import Rulebook.Proofs.Run.Record
import Rulebook.Proofs.Text.Utf8

/-!
Fetching the rules of a language from a directory. The rules are those that have a manifest for the
language, in ascending order of their names; what is reported is the first of all that is wrong
with their files, and without such every rule is fetched as its files have it.
-/

namespace Rulebook

open Rulebook.Json (Value Members)
open Rulebook.Text.Utf8 (encode decode? decode?_eq_some_iff)
open Rulebook.Log (Logger)

namespace FileTree

variable {t : FileTree} {p : Path}

def text (t : FileTree) (p : Path) : Except IoError String :=
  match t.read p with
  | .error cause => .error cause
  | .ok bytes =>
    match decode? bytes with
    | some text => .ok text
    | none => .error .brokenText

theorem text_eq_ok_iff {s : String} : t.text p = .ok s ↔ t.read p = .ok (encode s) := by
  unfold text
  cases t.read p with
  | error cause => simp only [reduceCtorEq]
  | ok bytes =>
    simp only [Except.ok.injEq]
    rw [eq_comm (a := bytes), ← decode?_eq_some_iff]
    cases decode? bytes with
    | none => simp only [reduceCtorEq]
    | some text => simp only [Except.ok.injEq, Option.some.injEq]

theorem text_eq_notFound_iff : t.text p = .error .notFound ↔ t.read p = .error .notFound := by
  unfold text
  cases t.read p with
  | error cause => simp only [Except.error.injEq]
  | ok bytes =>
    simp only [reduceCtorEq]
    cases decode? bytes <;> simp only [Except.error.injEq, reduceCtorEq]

end FileTree

/-! ## Reading -/

@[simp] theorem FileTree.run_readText (t : FileTree) (p : Path) :
    (FileTree.host.readText p).run t = (t.text p, t) := by
  have hread : (FileTree.host.read p).run t = (t.read p, t) := rfl
  refine (run_bind_of_run hread _).trans ?_
  unfold text
  cases t.read p with
  | error cause => rfl
  | ok bytes =>
    simp only
    cases decode? bytes <;> rfl

namespace Catalog

/-! ## What is wrong with files -/

def manifestDefects (path : Path) (text : String) : List FetchError :=
  match Value.ofText? text with
  | none => [.brokenManifest path]
  | some (.object _) => []
  | some _ => [.notAnObject path]

def requiredDefects (t : FileTree) (path : Path) (defects : String → List FetchError) :
    List FetchError :=
  match t.text path with
  | .error cause => [.unreadable path cause]
  | .ok text => defects text

def optionalDefects (t : FileTree) (path : Path) (defects : String → List FetchError) :
    List FetchError :=
  match t.text path with
  | .error .notFound => []
  | .error cause => [.unreadable path cause]
  | .ok text => defects text

def nameDefects (place : RulePlace) : List FetchError :=
  if (decode? place.name).isSome then [] else [.brokenName place.directory]

def placeDefects (t : FileTree) (place : RulePlace) : List FetchError := List.flatten [
  nameDefects place,
  optionalDefects t place.shared (manifestDefects place.shared),
  requiredDefects t place.manifest (manifestDefects place.manifest),
  optionalDefects t place.documentation fun _ => []]

/-! ## Fetching as an outcome -/

section Outcomes

variable (t : FileTree) (place : RulePlace)

def keyAt : Except FetchError String :=
  match decode? place.name with
  | none => .error (.brokenName place.directory)
  | some key => .ok key

def optionalText (path : Path) : Except FetchError (Option String) :=
  match t.text path with
  | .ok text => .ok (some text)
  | .error .notFound => .ok none
  | .error cause => .error (.unreadable path cause)

def sharedAt (path : Path) : Except FetchError Members := do
  match ← optionalText t path with
  | none => .ok []
  | some text => membersOfText path text

def requiredText (path : Path) : Except FetchError String :=
  match t.text path with
  | .error cause => .error (.unreadable path cause)
  | .ok text => .ok text

def ownAt (path : Path) : Except FetchError Members := do
  membersOfText path (← requiredText t path)

def ruleAt : Except FetchError RawRule := do
  let key ← keyAt place
  let shared ← sharedAt t place.shared
  let own ← ownAt t place.manifest
  let documentation ← optionalText t place.documentation
  .ok { key, manifest := .object (Members.merge shared own), documentation }

@[simp] theorem run_readOptional (path : Path) :
    (readOptional FileTree.host path).run t = (optionalText t path, t) := by
  refine (run_bind_of_run (t.run_readText path) _).trans ?_
  unfold optionalText
  cases t.text path with
  | error cause => cases cause <;> rfl
  | ok text => rfl

@[simp] theorem run_sharedMembers (path : Path) :
    (sharedMembers FileTree.host path).run t = (sharedAt t path, t) := by
  refine (run_bind_of_run (run_readOptional t path) _).trans ?_
  unfold sharedAt
  cases optionalText t path with
  | error e => rfl
  | ok text => cases text <;> rfl

@[simp] theorem run_ownMembers (path : Path) :
    (ownMembers FileTree.host path).run t = (ownAt t path, t) := by
  have hrequired : (readRequired FileTree.host path).run t = (requiredText t path, t) := by
    refine (run_bind_of_run (t.run_readText path) _).trans ?_
    unfold requiredText
    cases t.text path <;> rfl
  refine (run_bind_of_run hrequired _).trans ?_
  unfold ownAt
  cases requiredText t path <;> rfl

@[simp] theorem run_fetchRule : (fetchRule FileTree.host place).run t = (ruleAt t place, t) := by
  unfold fetchRule ruleAt keyAt
  cases decode? place.name with
  | none => rfl
  | some key =>
    refine (run_bind_of_run (run_sharedMembers t place.shared) _).trans ?_
    cases sharedAt t place.shared with
    | error e => rfl
    | ok shared =>
      refine (run_bind_of_run (run_ownMembers t place.manifest) _).trans ?_
      cases ownAt t place.manifest with
      | error e => rfl
      | ok own =>
        refine (run_bind_of_run (run_readOptional t place.documentation) _).trans ?_
        cases optionalText t place.documentation <;> rfl

def rulesAt (places : List RulePlace) : Except FetchError (List RawRule) :=
  (places.filter fun place => t.isFile place.manifest).mapM (ruleAt t)

theorem run_fetchRules {log : Logger (StateM FileTree)} (hlog : Run.IsQuiet log) (language : String)
    (places : List RulePlace) :
    (fetchRules FileTree.host log language places).run t = (rulesAt t places, t) := by
  unfold rulesAt
  induction places with
  | nil => rfl
  | cons place rest ih =>
    have hfile : (FileTree.host.isFile place.manifest).run t = (t.isFile place.manifest, t) := rfl
    refine (run_bind_of_run hfile _).trans ?_
    rw [List.filter_cons]
    -- A place without a manifest is passed over, here and in the filter.
    cases t.isFile place.manifest with
    | false => exact ih
    | true =>
      rw [if_pos rfl, if_pos rfl, List.mapM_cons]
      refine (run_bind_of_run (run_fetchRule t place) _).trans ?_
      cases ruleAt t place with
      | error e => rfl
      | ok raw =>
        simp only [hlog.reportAll, pure_bind]
        refine (run_bind_of_run ih _).trans ?_
        cases (rest.filter fun place => t.isFile place.manifest).mapM (ruleAt t) <;> rfl

end Outcomes

/-! ## What is reported -/

section Reports

variable (t : FileTree) (place : RulePlace)

theorem keyAt_reports : Reports (keyAt place) (nameDefects place) := by
  unfold keyAt nameDefects
  cases decode? place.name with
  | none => exact .error _
  | some key => exact .ok key

theorem membersOfText_reports (path : Path) (text : String) :
    Reports (membersOfText path text) (manifestDefects path text) := by
  unfold membersOfText manifestDefects
  cases Value.ofText? text with
  | none => exact .error _
  | some value =>
    cases value with
    | object members => exact .ok members
    | _ => exact .error _

theorem sharedAt_reports (path : Path) :
    Reports (sharedAt t path) (optionalDefects t path (manifestDefects path)) := by
  unfold sharedAt optionalText optionalDefects
  cases t.text path with
  | error cause =>
    -- Of all causes only absence is no defect.
    cases cause with
    | notFound => exact .ok []
    | _ => exact .error _
  | ok text => exact membersOfText_reports path text

theorem ownAt_reports (path : Path) :
    Reports (ownAt t path) (requiredDefects t path (manifestDefects path)) := by
  unfold ownAt requiredText requiredDefects
  cases t.text path with
  | error cause => exact .error _
  | ok text => exact membersOfText_reports path text

theorem optionalText_reports (path : Path) :
    Reports (optionalText t path) (optionalDefects t path fun _ => []) := by
  unfold optionalText optionalDefects
  cases t.text path with
  | error cause =>
    cases cause with
    | notFound => exact .ok none
    | _ => exact .error _
  | ok text => exact .ok (some text)

theorem ruleAt_reports : Reports (ruleAt t place) (placeDefects t place) := by
  -- One step for each file, in the order in which the defects are listed.
  refine .bind_flatten (keyAt_reports place) fun key => ?_
  refine .bind_flatten (sharedAt_reports t place.shared) fun shared => ?_
  refine .bind_flatten (ownAt_reports t place.manifest) fun own => ?_
  refine .bind_flatten (optionalText_reports t place.documentation) fun documentation => ?_
  exact .ok _

end Reports

/-! ## What is fetched -/

def HoldsManifest (t : FileTree) (path : Path) (members : Members) : Prop :=
  ∃ text, t.read path = .ok (encode text) ∧ Value.ofText? text = some (.object members)

/-- The raw rule is what the files of its place hold. The manifest for the language says what a name
has if it has the name at all; otherwise the shared one does, if there is one. -/
structure IsFetched (t : FileTree) (place : RulePlace) (raw : RawRule) : Prop where
  key : encode raw.key = place.name
  documented : ∀ text, raw.documentation = some text ↔
    t.read place.documentation = .ok (encode text)
  undocumented : raw.documentation = none ↔ t.read place.documentation = .error .notFound
  manifest : ∃ members own shared : Members, raw.manifest = .object members ∧ members.Ascending ∧
    HoldsManifest t place.manifest own ∧
    (HoldsManifest t place.shared shared ∨
      t.read place.shared = .error .notFound ∧ shared = []) ∧
    ∀ name, members.get? name = (own.get? name).or (shared.get? name)

section Fetched

variable {t : FileTree} {path : Path}

theorem holdsManifest_of_membersOfText {text : String} {members : Members}
    (htext : t.text path = .ok text) (h : membersOfText path text = .ok members) :
    HoldsManifest t path members := by
  refine ⟨text, FileTree.text_eq_ok_iff.1 htext, ?_⟩
  unfold membersOfText at h
  split at h <;> cases h
  assumption

theorem holdsManifest_of_ownAt {own : Members} (h : ownAt t path = .ok own) :
    HoldsManifest t path own := by
  obtain ⟨text, htext, hmembers⟩ := bind_eq_ok.1 h
  refine holdsManifest_of_membersOfText ?_ hmembers
  unfold requiredText at htext
  split at htext <;> cases htext
  assumption

theorem optionalText_eq_ok {found : Option String} (h : optionalText t path = .ok found) :
    (∃ text, found = some text ∧ t.text path = .ok text) ∨
      found = none ∧ t.text path = .error .notFound := by
  unfold optionalText at h
  split at h
  · next text htext =>
    cases h
    exact Or.inl ⟨text, rfl, htext⟩
  · next htext =>
    cases h
    exact Or.inr ⟨rfl, htext⟩
  · cases h

theorem holdsManifest_of_sharedAt {shared : Members} (h : sharedAt t path = .ok shared) :
    HoldsManifest t path shared ∨ t.read path = .error .notFound ∧ shared = [] := by
  obtain ⟨found, hfound, hmembers⟩ := bind_eq_ok.1 h
  rcases optionalText_eq_ok hfound with ⟨text, rfl, htext⟩ | ⟨rfl, htext⟩
  · exact Or.inl (holdsManifest_of_membersOfText htext hmembers)
  · cases hmembers
    exact Or.inr ⟨FileTree.text_eq_notFound_iff.1 htext, rfl⟩

theorem HoldsManifest.ascending {members : Members} (h : HoldsManifest t path members) :
    Members.Ascending members := by
  obtain ⟨text, -, htext⟩ := h
  exact Json.ascending_of_ofText? htext

theorem isFetched_of_ruleAt {place : RulePlace} {raw : RawRule} (h : ruleAt t place = .ok raw) :
    IsFetched t place raw := by
  obtain ⟨key, hkey, h⟩ := bind_eq_ok.1 h
  obtain ⟨shared, hshared, h⟩ := bind_eq_ok.1 h
  obtain ⟨own, hown, h⟩ := bind_eq_ok.1 h
  obtain ⟨documentation, hdocumentation, h⟩ := bind_eq_ok.1 h
  cases h
  have howns := holdsManifest_of_ownAt hown
  have hshareds := holdsManifest_of_sharedAt hshared
  -- A shared manifest that is missing has no members, and no members are in order too.
  have hascending : Members.Ascending shared := by
    rcases hshareds with h | ⟨-, rfl⟩
    · exact h.ascending
    · exact List.Pairwise.nil
  refine ⟨?_, fun text => ?_, ?_, Members.merge shared own, own, shared, rfl, ?_, howns, hshareds,
    ?_⟩
  · unfold keyAt at hkey
    split at hkey <;> cases hkey
    exact decode?_eq_some_iff.1 ‹_›
  · rw [← FileTree.text_eq_ok_iff]
    rcases optionalText_eq_ok hdocumentation with ⟨found, rfl, htext⟩ | ⟨rfl, htext⟩
    · rw [htext, Option.some.injEq, Except.ok.injEq]
    · rw [htext]
      simp only [reduceCtorEq]
  · rw [← FileTree.text_eq_notFound_iff]
    rcases optionalText_eq_ok hdocumentation with ⟨found, rfl, htext⟩ | ⟨rfl, htext⟩
    · rw [htext]
      simp only [reduceCtorEq]
    · simp only [htext]
  · exact hascending.merge own
  · exact Members.get?_merge howns.ascending shared

end Fetched

/-! ## Which rules there are -/

theorem sortNames_eq (names : List (List UInt8)) :
    sortNames names = names.insertionSort (· ≤ ·) := by
  have hinsert (name : List UInt8) (names : List (List UInt8)) :
      insertName name names = names.orderedInsert (· ≤ ·) name := by
    induction names with
    | nil => rfl
    | cons other rest ih => rw [insertName, List.orderedInsert_cons, ih]
  unfold sortNames List.insertionSort
  congr 1
  funext name names
  exact hinsert name names

section Names

variable (t : FileTree) (rules : Path)

def directoryNames : List (List UInt8) :=
  (sortNames ((t.namesIn (t.location rules)).map (·.bytes))).filter fun name =>
    t.isDirectory (rules.join ⟨name⟩)

theorem run_directoriesAmong (names : List (List UInt8)) :
    (directoriesAmong FileTree.host rules names).run t =
      (names.filter fun name => t.isDirectory (rules.join ⟨name⟩), t) := by
  induction names with
  | nil => rfl
  | cons name rest ih =>
    have hname : (FileTree.host.isDirectory (rules.join ⟨name⟩)).run t =
        (t.isDirectory (rules.join ⟨name⟩), t) := rfl
    refine (run_bind_of_run hname _).trans ((run_bind_of_run ih _).trans ?_)
    rw [List.filter_cons]
    rfl

theorem run_ruleNames (h : t.isDirectory rules = true) :
    (ruleNames FileTree.host rules).run t = (.ok (directoryNames t rules), t) := by
  have hdir : (FileTree.host.isDirectory rules).run t = (true, t) := by
    rw [← h]
    rfl
  obtain ⟨dir, hfind⟩ := FileTree.isDirectory_iff.1 h
  have hlist : (FileTree.host.list rules).run t =
      (.ok ((t.namesIn (t.location rules)).map (·.bytes)), t) := by
    rw [← FileTree.location_of_find hfind, ← FileTree.list_of_find hfind]
    rfl
  refine (run_bind_of_run hdir _).trans ((run_bind_of_run hlist _).trans ?_)
  exact run_bind_of_run (run_directoriesAmong t rules _) _

theorem directoryNames_ascending : (directoryNames t rules).Pairwise (· < ·) := by
  let names := (t.namesIn (t.location rules)).map (·.bytes)
  have hle : (sortNames names).Pairwise (· ≤ ·) := by
    rw [sortNames_eq]
    exact List.pairwise_insertionSort (· ≤ ·) names
  -- It is `<` because no name is listed twice.
  have hnodup : (sortNames names).Nodup := by
    rw [sortNames_eq, (List.perm_insertionSort (· ≤ ·) names).nodup_iff]
    exact (t.nodup_namesIn _).map FileName.bytes_injective
  exact (hle.imp₂ (fun a b => Std.lt_of_le_of_ne) hnodup).filter _

theorem mem_directoryNames {dir : Location} (h : t.find rules = .ok (dir, .directory))
    (name : List UInt8) : name ∈ directoryNames t rules ↔ ∃ entry : FileName, entry.bytes = name ∧
      t.node? (dir ++ [entry]) = some .directory ∧ t.isDirectory (rules.join ⟨name⟩) = true := by
  unfold directoryNames
  rw [List.mem_filter, sortNames_eq, List.mem_insertionSort, ← FileTree.location_of_find h,
    List.mem_map]
  constructor
  · rintro ⟨⟨entry, -, rfl⟩, hdirectory⟩
    exact ⟨entry, rfl, FileTree.node?_of_find_join h hdirectory, hdirectory⟩
  · rintro ⟨entry, rfl, hnode, hdirectory⟩
    exact ⟨⟨entry, FileTree.mem_namesIn.2 ⟨_, hnode⟩, rfl⟩, hdirectory⟩

end Names

/-! ## Whole languages -/

/-- The names of the rules that a directory has for a language: those of the directories in it that
have a manifest for the language. A directory counts if the path to it can be followed. -/
structure AreRules (t : FileTree) (rules : Path) (dir : Location) (language : String)
    (names : List (List UInt8)) : Prop where
  ascending : names.Pairwise (· < ·)
  mem_iff : ∀ name, name ∈ names ↔ ∃ entry : FileName, entry.bytes = name ∧
    t.node? (dir ++ [entry]) = some .directory ∧ t.isDirectory (rules.join ⟨name⟩) = true ∧
    t.isFile (RulePlace.ofName rules language name).manifest = true

section Languages

variable (t : FileTree) (rules : Path) (language : String)

def rulePlaces : List RulePlace :=
  ((directoryNames t rules).map (RulePlace.ofName rules language)).filter fun place =>
    t.isFile place.manifest

theorem names_rulePlaces : (rulePlaces t rules language).map (·.name) =
    (directoryNames t rules).filter fun name =>
      t.isFile (RulePlace.ofName rules language name).manifest := by
  rw [rulePlaces, List.filter_map, List.map_map]
  exact List.map_id _

theorem areRules_rulePlaces {dir : Location} (h : t.find rules = .ok (dir, .directory)) :
    AreRules t rules dir language ((rulePlaces t rules language).map (·.name)) := by
  rw [names_rulePlaces]
  refine ⟨(directoryNames_ascending t rules).filter _, fun name => ?_⟩
  rw [List.mem_filter, mem_directoryNames t rules h]
  constructor
  · rintro ⟨⟨entry, hname, hnode, hdirectory⟩, hfile⟩
    exact ⟨entry, hname, hnode, hdirectory, hfile⟩
  · rintro ⟨entry, hname, hnode, hdirectory, hfile⟩
    exact ⟨⟨entry, hname, hnode, hdirectory⟩, hfile⟩

theorem run_fetchLanguage (h : t.isDirectory rules = true) (around : List Log.Span) :
    (fetchLanguage FileTree.host rules (.quiet around) language).run t =
      ((rulePlaces t rules language).mapM (ruleAt t), t) := by
  have hquiet := Run.isQuiet_quiet (m := StateM FileTree) around
  refine (run_bind_of_run (run_ruleNames t rules h) _).trans ?_
  refine (run_bind_of_run (run_fetchRules t hquiet language _) _).trans ?_
  unfold rulesAt rulePlaces
  cases List.mapM (ruleAt t) _ <;> rfl

def answerIn : Except FetchError (List RawRule) :=
  if t.isDirectory rules then (rulePlaces t rules language).mapM (ruleAt t)
  else .error (.directoryNotFound rules)

theorem run_fetchLanguage_eq (around : List Log.Span) :
    (fetchLanguage FileTree.host rules (.quiet around) language).run t =
      (answerIn t rules language, t) := by
  unfold answerIn
  by_cases h : t.isDirectory rules = true
  · rw [if_pos h]
    exact run_fetchLanguage t rules language h around
  · rw [if_neg h]
    have hdir : (FileTree.host.isDirectory rules).run t = (false, t) := by
      rw [← Bool.eq_false_iff.2 h]
      rfl
    have hnames : (ruleNames FileTree.host rules).run t = (.error (.directoryNotFound rules), t) :=
      run_bind_of_run hdir _
    exact run_bind_of_run hnames _

end Languages

theorem keys_of_isFetched {t : FileTree} {places : List RulePlace} {raws : List RawRule}
    (h : List.Forall₂ (IsFetched t) places raws) :
    (raws.map fun raw => encode raw.key) = places.map (·.name) := by
  induction h with
  | nil => rfl
  | cons hraw _ ih => rw [List.map_cons, List.map_cons, hraw.key, ih]

theorem AreRules.keys_nodup {t : FileTree} {rules : Path} {dir : Location} {language : String}
    {raws : List RawRule} (h : AreRules t rules dir language (raws.map fun raw => encode raw.key)) :
    (raws.map (·.key)).Nodup := by
  have hnodup : ((raws.map (·.key)).map encode).Nodup := by
    rw [List.map_map]
    refine List.Pairwise.imp ?_ h.ascending
    rintro a b hlt rfl
    exact List.lt_irrefl a hlt
  exact hnodup.of_map

/-- No two rules in an answer have one key, and each key is the name of a directory. -/
theorem keys_of_answerIn {t : FileTree} {rules : Path} {language : String} {raws : List RawRule}
    (h : answerIn t rules language = .ok raws) : (raws.map (·.key)).Nodup ∧
      ∀ raw ∈ raws, ∃ entry : FileName, entry.bytes = encode raw.key := by
  unfold answerIn at h
  -- Without the directory there are no rules whose keys could be equal.
  split_ifs at h with hrules
  · obtain ⟨dir, hdir⟩ := FileTree.isDirectory_iff.1 hrules
    have hfetched := (mapM_eq_ok.1 h).imp fun place raw => isFetched_of_ruleAt
    have hareRules := areRules_rulePlaces t rules language hdir
    rw [← keys_of_isFetched hfetched] at hareRules
    refine ⟨hareRules.keys_nodup, fun raw hraw => ?_⟩
    obtain ⟨entry, hentry, -⟩ := (hareRules.mem_iff _).1 (List.mem_map_of_mem hraw)
    exact ⟨entry, hentry⟩

/-- Fetching visits the rules that a directory has for a language in ascending order and changes
nothing. It reports the first of all that is wrong with their files; without such it has fetched
every rule as its files hold it, and no two rules have one key. -/
theorem fetchLanguage_exact (t : FileTree) {rules : Path} {dir : Location}
    (h : t.find rules = .ok (dir, .directory)) (around : List Log.Span) (language : String) :
    ∃ names, AreRules t rules dir language names ∧
      let places := names.map (RulePlace.ofName rules language)
      let outcome := (fetchLanguage FileTree.host rules (.quiet around) language).run t
      outcome.2 = t ∧
      (∀ e, outcome.1 = .error e ↔ (places.flatMap (placeDefects t)).head? = some e) ∧
      ((∃ raws, outcome.1 = .ok raws) ↔ places.flatMap (placeDefects t) = []) ∧
      ∀ raws, outcome.1 = .ok raws → List.Forall₂ (IsFetched t) places raws ∧
        (raws.map fun raw => encode raw.key) = names ∧ (raws.map (·.key)).Nodup := by
  have hareRules := areRules_rulePlaces t rules language h
  refine ⟨_, hareRules, ?_⟩
  intro places outcome
  -- Places are told by their names, so nothing is lost between the two lists.
  have hplaces : places = rulePlaces t rules language := by
    show ((rulePlaces t rules language).map (·.name)).map (RulePlace.ofName rules language) = _
    rw [names_rulePlaces, rulePlaces, List.filter_map]
    rfl
  have houtcome : outcome = (places.mapM (ruleAt t), t) := by
    rw [hplaces]
    exact run_fetchLanguage t rules language (FileTree.isDirectory_iff.2 ⟨dir, h⟩) around
  have hreports := Reports.mapM (ruleAt_reports t) places
  rw [houtcome]
  refine ⟨rfl, fun e => hreports.eq_error_iff, hreports.exists_eq_ok_iff, fun raws hraws => ?_⟩
  have hfetched := (mapM_eq_ok.1 hraws).imp fun place raw => isFetched_of_ruleAt
  have hkeys := keys_of_isFetched hfetched
  rw [hplaces] at hkeys
  exact ⟨hfetched, hkeys, AreRules.keys_nodup (hkeys ▸ hareRules)⟩

/-- The names `rules`, `S1`, `S2`, `js` and `java`. -/
def rulesName : FileName := ⟨[0x72, 0x75, 0x6C, 0x65, 0x73], by decide⟩

def ruleName : FileName := ⟨[0x53, 0x31], by decide⟩

def otherRuleName : FileName := ⟨[0x53, 0x32], by decide⟩

def languageName : FileName := ⟨[0x6A, 0x73], by decide⟩

def otherLanguageName : FileName := ⟨[0x6A, 0x61, 0x76, 0x61], by decide⟩

/-- The names `metadata.json` and `rule.html`. -/
def manifestFile : FileName :=
  ⟨[0x6D, 0x65, 0x74, 0x61, 0x64, 0x61, 0x74, 0x61, 0x2E, 0x6A, 0x73, 0x6F, 0x6E], by decide⟩

def documentationFile : FileName :=
  ⟨[0x72, 0x75, 0x6C, 0x65, 0x2E, 0x68, 0x74, 0x6D, 0x6C], by decide⟩

/-- A rule whose manifest for a language, `{"a":null}`, takes a name away from the shared one,
`{"a":1}`, before another one that is listed first and has documentation. A directory `js` is none
of a rule, and a file `java` is no directory. -/
def overriddenTree : FileTree where
  entries := [
    ([rulesName], .directory),
    ([rulesName, otherLanguageName], .file []),
    ([rulesName, languageName], .directory),
    ([rulesName, otherRuleName], .directory),
    ([rulesName, otherRuleName, languageName], .directory),
    ([rulesName, otherRuleName, languageName, manifestFile], .file [0x7B, 0x7D]),
    ([rulesName, otherRuleName, languageName, documentationFile], .file [0x31]),
    ([rulesName, ruleName], .directory),
    ([rulesName, ruleName, manifestFile], .file [0x7B, 0x22, 0x61, 0x22, 0x3A, 0x31, 0x7D]),
    ([rulesName, ruleName, languageName], .directory),
    ([rulesName, ruleName, languageName, manifestFile],
      .file [0x7B, 0x22, 0x61, 0x22, 0x3A, 0x6E, 0x75, 0x6C, 0x6C, 0x7D])]
  nodup := by decide
  closed := by decide
  home := []
  homed := by decide

theorem fetchLanguage_exact_overridden :
    let rules : Path := ⟨rulesName.bytes⟩
    let outcome := (fetchLanguage FileTree.host rules (.quiet []) "js").run overriddenTree
    overriddenTree.find rules = .ok ([rulesName], .directory) ∧ outcome.2 = overriddenTree ∧
    ∃ raws, outcome.1 = .ok raws ∧
      raws.map (fun raw => (raw.key, raw.manifest.compact, raw.documentation)) =
        [("S1", "\x7b\"a\":null\x7d", none), ("S2", "\x7b\x7d", some "1")] ∧
      AreRules overriddenTree rules [rulesName] "js" (raws.map fun raw => encode raw.key) ∧
      List.Forall₂ (IsFetched overriddenTree)
        ([ruleName, otherRuleName].map fun name => RulePlace.ofName rules "js" name.bytes)
        raws := by
  have hfind : overriddenTree.find ⟨rulesName.bytes⟩ = .ok ([rulesName], .directory) := by rfl
  have hraws : ((fetchLanguage FileTree.host ⟨rulesName.bytes⟩ (.quiet []) "js").run
      overriddenTree).1.toOption.map (·.map fun raw =>
        (raw.key, raw.manifest.compact, raw.documentation)) =
      some [("S1", "\x7b\"a\":null\x7d", none), ("S2", "\x7b\x7d", some "1")] := by decide +kernel
  obtain ⟨names, hrules, htree, -, -, hfetched⟩ :=
    fetchLanguage_exact overriddenTree hfind [] "js"
  dsimp only
  generalize (fetchLanguage FileTree.host ⟨rulesName.bytes⟩ (.quiet []) "js").run
    overriddenTree = outcome at hraws htree hfetched ⊢
  obtain ⟨result, after⟩ := outcome
  cases result with
  | error e => cases hraws
  | ok raws =>
    have hlist := Option.some.inj hraws
    obtain ⟨hplaces, hkeys, -⟩ := hfetched raws rfl
    -- The keys tell the names, and with them the places.
    have hnames : names = [ruleName.bytes, otherRuleName.bytes] := by
      have hencoded : [encode "S1", encode "S2"] = [ruleName.bytes, otherRuleName.bytes] := by
        decide +kernel
      have hfirst := congrArg (List.map fun raw => encode raw.1) hlist
      simp only [List.map_map, List.map_cons, List.map_nil] at hfirst
      exact hkeys.symm.trans (Eq.trans hfirst hencoded)
    rw [← hkeys] at hrules
    rw [hnames] at hplaces
    exact ⟨hfind, htree, raws, rfl, hlist, hrules, hplaces⟩

end Catalog

end Rulebook
