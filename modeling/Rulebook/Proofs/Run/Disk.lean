import Rulebook.Proofs.Run.Files
import Rulebook.Proofs.Run.Spared

/-!
Runs on a tree, from a catalog in it to files in it. A run hands to the disk what is planned for the
answers that it meets, and every file that is planned has a path of its own. So, whether the run
succeeds or fails, the files that it has written hold what it wrote, no two of them are one, and
there is nothing else that it has changed but the directories that it made for them.
-/

namespace Rulebook.Run

open Rulebook.Catalog (FetchError checkout answerIn rulesName languageName otherRuleName
  manifestFile completeManifest sharedTree)
open Rulebook.FileTree (Changes Creation steps)
open Rulebook.Log (Logger)
open Rulebook.Sink (Taken)
open Rulebook.Text.Utf8 (encode encode_injective)

/-! ## Requests -/

/-- A request for languages that have directories of their own directly in the target directory,
with files directly in those. -/
structure Request.IsPlain (request : Request) : Prop where
  distinct : request.languages.Nodup
  languages : ∀ language ∈ request.languages, Path.IsPlain (encode language)
  target : [Path.dot, Path.dot] ∉ request.target.segments
  repositoryKey : ∀ settings key, request.mode = .registrars settings →
    settings.repositoryKey = some key → Path.slash ∉ encode key

/-- Directories that a run may make: the target directory, those above it, and the directories of
languages. -/
def Request.MayMake (request : Request) (t : FileTree) (loc : Location) : Prop :=
  loc <+: t.location request.target ∨
    ∃ language ∈ request.languages, loc = t.location (request.directory language)

section Requests

variable {request : Request} {t t' t'' : FileTree} {language : String} {name : List UInt8}

theorem Request.IsPlain.up_not_mem_steps (h : request.IsPlain)
    (hlanguage : language ∈ request.languages) :
    Segment.up ∉ steps (request.directory language) := by
  have hplain := h.languages language hlanguage
  have hup {bytes : List UInt8} (hbytes : bytes ≠ [Path.dot, Path.dot]) :
      Segment.ofBytes bytes ≠ .up := by
    unfold Segment.ofBytes
    split_ifs
    · exact Segment.noConfusion
    · split <;> exact Segment.noConfusion
  rw [Request.directory, Path.ofText, FileTree.steps_join hplain, List.mem_append, not_or,
    List.mem_singleton]
  refine ⟨fun hmem => ?_, (hup hplain.ne_up).symm⟩
  obtain ⟨bytes, hbytes, heq⟩ := List.mem_map.1 hmem
  exact hup (fun hdots => h.target (hdots ▸ hbytes)) heq

theorem Request.IsPlain.mayMake (h : request.IsPlain) (hlanguage : language ∈ request.languages)
    {loc : Location} (hloc : loc <+: t.location (request.directory language)) :
    request.MayMake t loc := by
  rcases FileTree.location_join (t := t) (h.languages language hlanguage) request.target with
    htarget | ⟨dir, -, hdir⟩
  · exact Or.inl (htarget ▸ hloc)
  · have hlocs := hloc
    rw [Request.directory, Path.ofText, hdir, List.prefix_concat_iff] at hlocs
    rcases hlocs with heq | hprefix
    · exact Or.inr ⟨language, hlanguage, heq.trans hdir.symm⟩
    · exact Or.inl hprefix

/-- The directories that are made for a file of a language. -/
theorem Request.IsPlain.creation_changes (h : request.IsPlain)
    (hlanguage : language ∈ request.languages) (hname : Path.IsPlain name) {parent : Path}
    (hparent : ((request.directory language).join ⟨name⟩).parent? = some parent)
    {made : Except IoError Unit} (hcreation : Creation t' parent made t'')
    (hlocation : ∀ p, t'.location p = t.location p) :
    Changes (request.MayMake t) (fun _ => False) t' t'' := by
  refine hcreation.changes.mono ?_ fun _ => id
  rintro loc ⟨start, hne, hstart, rfl⟩
  have hdir := hstart.trans (hname.isStart_of_parent?_join hparent)
  rw [hlocation]
  exact h.mayMake hlanguage (FileTree.location_prefix hdir hne (h.up_not_mem_steps hlanguage))

theorem Request.IsPlain.prepared_changes (h : request.IsPlain)
    (hlanguage : language ∈ request.languages) (hname : Path.IsPlain name)
    (hprepared : Sink.Prepared t' ((request.directory language).join ⟨name⟩) t'')
    (hlocation : ∀ p, t'.location p = t.location p) :
    Changes (request.MayMake t) (fun _ => False) t' t'' := by
  cases hprepared with
  | nothing => exact .refl _ _ t'
  | made hparent _ hcreation =>
    exact h.creation_changes hlanguage hname hparent hcreation hlocation

end Requests

/-! ## What has been written -/

/-- What a run that has written files has made of a tree. -/
structure Written (request : Request) (t : FileTree) (taken : Taken) (t' : FileTree) : Prop where
  changes : Changes (request.MayMake t) (fun loc => ∃ file ∈ taken, loc = t.location file.1) t t'
  distinct : (taken.map (·.1)).Nodup
  placed : ∀ file ∈ taken, ∃ language ∈ request.languages, ∃ name : FileName,
    file.1 = (request.directory language).join ⟨name.bytes⟩
  held : ∀ file ∈ taken, t'.find file.1 = .ok (t.location file.1, .file (encode file.2))

section Writes

variable {request : Request} {t t' : FileTree} {taken : Taken} {language : String}
  {name : List UInt8}

theorem written_nil (request : Request) (t : FileTree) : Written request t [] t :=
  ⟨.refl _ _ t, List.nodup_nil, fun _ h => absurd h List.not_mem_nil,
    fun _ h => absurd h List.not_mem_nil⟩

/-- Directories that are made on the way to a file do no harm to the others. -/
theorem Written.changed (h : Written request t taken t') {t'' : FileTree}
    (hchanges : Changes (request.MayMake t) (fun _ => False) t' t'') :
    Written request t taken t'' :=
  ⟨h.changes.trans (hchanges.mono (fun _ => id) fun _ => False.elim), h.distinct, h.placed,
    fun file hfile => hchanges.find_file (h.held file hfile) id⟩

/-- Only one path of one language leads to a file. -/
theorem eq_of_find_eq (h : request.IsPlain) (hlanguage : language ∈ request.languages)
    (hname : Path.IsPlain name) {other : String} (hother : other ∈ request.languages)
    {name' contents contents' : List UInt8} (hname' : Path.IsPlain name') {loc : Location}
    (hlocation : ∀ p, t'.location p = t.location p)
    (hfind : t.find ((request.directory language).join ⟨name⟩) = .ok (loc, .file contents))
    (hfind' : t'.find ((request.directory other).join ⟨name'⟩) = .ok (loc, .file contents')) :
    (request.directory language).join ⟨name⟩ = (request.directory other).join ⟨name'⟩ := by
  obtain ⟨dir, file, hdir, rfl, rfl⟩ :=
    FileTree.location_of_find_join_join (h.languages language hlanguage) hname hfind
  obtain ⟨dir', file', hdir', rfl, heq⟩ :=
    FileTree.location_of_find_join_join (h.languages other hother) hname' hfind'
  rw [hlocation, List.append_cancel_left_eq] at heq
  cases heq
  rw [encode_injective (hdir.symm.trans hdir')]

theorem Written.write (hrequest : request.IsPlain) (h : Written request t taken t')
    (hlanguage : language ∈ request.languages) (hname : Path.IsPlain name)
    (hfresh : (request.directory language).join ⟨name⟩ ∉ taken.map (·.1)) {contents : String}
    {t'' : FileTree}
    (hwrite : t'.write ((request.directory language).join ⟨name⟩) (encode contents) = .ok t'') :
    Written request t (taken ++ [((request.directory language).join ⟨name⟩, contents)]) t'' := by
  let path := (request.directory language).join ⟨name⟩
  have hfind := FileTree.find_of_write hwrite (t'.node?_start path)
  have hchanges := FileTree.write_changes hwrite
  rw [h.changes.location_eq] at hfind hchanges
  refine ⟨?_, ?_, ?_, ?_⟩
  · -- One more location where a file was written.
    refine (h.changes.mono (fun _ => id) ?_).trans (hchanges.mono (fun _ => False.elim) ?_)
    · rintro loc ⟨file, hfile, hloc⟩
      exact ⟨file, List.mem_append_left _ hfile, hloc⟩
    · rintro loc hloc
      exact ⟨_, List.mem_append_right _ (List.mem_singleton_self _), hloc⟩
  · -- The path has not been written before.
    rw [List.map_append, List.nodup_append]
    refine ⟨h.distinct, List.nodup_singleton _, fun p hp q hq heq => hfresh ?_⟩
    have hpath : q = path := List.mem_singleton.1 hq
    rwa [heq, hpath] at hp
  · intro file hfile
    rcases List.mem_append.1 hfile with hfile | hfile
    · exact h.placed file hfile
    · obtain ⟨dir, entry, -, hentry, -⟩ :=
        FileTree.location_of_find_join_join (hrequest.languages language hlanguage) hname hfind
      cases List.mem_singleton.1 hfile
      exact ⟨language, hlanguage, entry, by rw [hentry]⟩
  · intro file hfile
    rcases List.mem_append.1 hfile with hfile | hfile
    · -- An earlier file that the new one replaced would have the new one's path.
      refine hchanges.find_file (h.held file hfile) fun heq => hfresh ?_
      obtain ⟨other, hother, entry, hpath⟩ := h.placed file hfile
      have hheld := h.held file hfile
      rw [heq, hpath] at hheld
      have hsame := eq_of_find_eq hrequest hother (FileTree.isPlain_bytes entry) hlanguage hname
        hchanges.location_eq hheld hfind
      rw [← hsame, ← hpath]
      exact List.mem_map_of_mem hfile
    · cases List.mem_singleton.1 hfile
      exact hfind

/-- A write that fails may have made directories; one that succeeds has written its file too. -/
theorem Written.run_write (hrequest : request.IsPlain) (h : Written request t taken t')
    (hlanguage : language ∈ request.languages) (hname : Path.IsPlain name)
    (hfresh : (request.directory language).join ⟨name⟩ ∉ taken.map (·.1)) (contents : String) :
    let path := (request.directory language).join ⟨name⟩
    let write := ((Sink.disk FileTree.host).write .silent path contents).run t'
    (∃ e t'', write = (.error e, t'') ∧ Written request t taken t'') ∨
      ∃ t'', write = (.ok (), t'') ∧ Written request t (taken ++ [(path, contents)]) t'' := by
  intro path write
  have hlocation := h.changes.location_eq
  obtain ⟨result, t'', hrun, hwriting⟩ := Sink.run_write_disk isQuiet_silent t' path contents
  cases hwriting with
  | noDirectory hparent _ hcreation =>
    have hmade := hrequest.creation_changes hlanguage hname hparent hcreation hlocation
    exact Or.inl ⟨_, t'', hrun, h.changed hmade⟩
  | noFile hprepared =>
    have hmade := hrequest.prepared_changes hlanguage hname hprepared hlocation
    exact Or.inl ⟨_, t'', hrun, h.changed hmade⟩
  | written hprepared hwrite =>
    have hmade := hrequest.prepared_changes hlanguage hname hprepared hlocation
    exact Or.inr ⟨t'', hrun, (h.changed hmade).write hrequest hlanguage hname hfresh hwrite⟩

def Request.Places (request : Request) (language : String) (path : Path) : Prop :=
  ∃ name, Path.IsPlain name ∧ path = (request.directory language).join ⟨name⟩

theorem Written.hand (hrequest : request.IsPlain) (h : Written request t taken t')
    {files : List (Path × String)} (hdistinct : (files.map (·.1)).Nodup)
    (hplaced : ∀ file ∈ files, ∃ language ∈ request.languages, request.Places language file.1)
    (hfresh : ∀ file ∈ files, file.1 ∉ taken.map (·.1)) :
    Written request t (taken ++ ((Sink.disk FileTree.host).hand t' files).taken)
      ((Sink.disk FileTree.host).hand t' files).state := by
  -- Along the files: each is written behind those before it, none of which has its path.
  induction files generalizing taken t' with
  | nil =>
    show Written request t (taken ++ []) t'
    rwa [List.append_nil]
  | cons file rest ih =>
    obtain ⟨path, contents⟩ := file
    obtain ⟨hpath, hrest⟩ := List.nodup_cons.1 (List.map_cons ▸ hdistinct)
    obtain ⟨language, hlanguage, name, hname, rfl⟩ := hplaced _ List.mem_cons_self
    rcases h.run_write hrequest hlanguage hname (hfresh _ List.mem_cons_self) contents with
      ⟨e, t'', hwrite, hwritten⟩ | ⟨t'', hwrite, hwritten⟩
    · rw [Sink.hand_cons_of_error hwrite, List.append_nil]
      exact hwritten
    · have hfreshRest : ∀ file ∈ rest,
          file.1 ∉ (taken ++ [((request.directory language).join ⟨name⟩, contents)]).map (·.1) := by
        intro file hfile hmem
        rw [List.map_append, List.mem_append] at hmem
        rcases hmem with hmem | hmem
        · exact hfresh file (List.mem_cons_of_mem _ hfile) hmem
        · exact hpath (List.mem_map.2 ⟨file, hfile, List.mem_singleton.1 hmem⟩)
      have hwritten := ih hwritten hrest
        (fun file hfile => hplaced file (List.mem_cons_of_mem _ hfile)) hfreshRest
      rw [List.append_assoc] at hwritten
      rw [Sink.hand_cons_of_ok hwrite]
      exact hwritten

end Writes

/-! ## What is planned -/

section Planned

variable {request : Request} {answer : String → Except FetchError (List RawRule)}
  {language other : String} {plan : Plan}

/-- The rules that were fetched have keys of their own, which can begin the names of files. -/
def HasKeys (answer : Except FetchError (List RawRule)) : Prop :=
  ∀ raws, answer = .ok raws →
    (raws.map (·.key)).Nodup ∧ ∀ raw ∈ raws, Path.slash ∉ encode raw.key

theorem hasKeys_answerIn (t : FileTree) (rules : Path) (language : String) :
    HasKeys (answerIn t rules language) := by
  intro raws hraws
  obtain ⟨hdistinct, hentries⟩ := Catalog.keys_of_answerIn hraws
  refine ⟨hdistinct, fun raw hraw => ?_⟩
  obtain ⟨entry, hentry⟩ := hentries raw hraw
  rw [← hentry]
  exact (FileTree.isPlain_bytes entry).slash_not_mem

theorem Request.IsPlain.namesFiles (h : request.IsPlain) (hlanguage : language ∈ request.languages)
    {raws : List RawRule} {rules : List Rule} (hdistinct : (raws.map (·.key)).Nodup)
    (hkeys : ∀ raw ∈ raws, Path.slash ∉ encode raw.key)
    (hrules : RawRule.normalizeAll language raws = .ok rules) :
    request.NamesFiles language rules := by
  have hnames := RawRule.names_of_normalizeAll hrules
  refine ⟨fun settings hmode => ?_, fun rule hrule => ?_, hnames ▸ hdistinct⟩
  · unfold RegistrarSettings.options
    cases hkey : settings.repositoryKey with
    | none => exact (h.languages language hlanguage).slash_not_mem
    | some key => exact h.repositoryKey settings key hmode hkey
  · have hmem : rule.name ∈ raws.map (·.key) := hnames ▸ List.mem_map_of_mem hrule
    obtain ⟨raw, hraw, heq⟩ := List.mem_map.1 hmem
    exact heq ▸ hkeys raw hraw

theorem Request.IsPlain.places_plan (h : request.IsPlain) (hlanguage : language ∈ request.languages)
    (hkeys : HasKeys (answer language)) (hplan : request.plan answer language = .ok plan) :
    (plan.files.map (·.1)).Nodup ∧ ∀ file ∈ plan.files, request.Places language file.1 := by
  obtain ⟨raws, rules, hraws, hrules, rfl⟩ := plan_eq_ok.1 hplan
  obtain ⟨hdistinct, hslash⟩ := hkeys raws hraws
  exact paths_filesOf_distinct (h.namesFiles hlanguage hdistinct hslash hrules)

/-- What is placed for one language lies in its own directory. -/
theorem Request.IsPlain.eq_of_places (h : request.IsPlain)
    (hlanguage : language ∈ request.languages) (hother : other ∈ request.languages) {path : Path}
    (hpath : request.Places language path) (hpath' : request.Places other path) :
    language = other := by
  obtain ⟨name, hname, rfl⟩ := hpath
  obtain ⟨name', hname', heq⟩ := hpath'
  have hdirs := (hname.join_inj hname' heq).1
  unfold Request.directory Path.ofText at hdirs
  rw [(h.languages language hlanguage).segments_join, (h.languages other hother).segments_join]
    at hdirs
  exact encode_injective (List.singleton_inj.1 (List.append_cancel_left hdirs))

theorem Request.IsPlain.places_planned (h : request.IsPlain)
    (hkeys : ∀ language ∈ request.languages, HasKeys (answer language)) {languages : List String}
    (hsub : ∀ language ∈ languages, language ∈ request.languages) (hdistinct : languages.Nodup) :
    ((filesBeforeFailure (languages.map (request.plan answer))).map (·.1)).Nodup ∧
      ∀ file ∈ filesBeforeFailure (languages.map (request.plan answer)),
        ∃ language ∈ languages, request.Places language file.1 := by
  induction languages with
  | nil => exact ⟨List.nodup_nil, fun _ h => absurd h List.not_mem_nil⟩
  | cons language rest ih =>
    obtain ⟨hnot, hrest⟩ := List.nodup_cons.1 hdistinct
    have hlanguage := hsub language List.mem_cons_self
    have hsubRest := fun other hmem => hsub other (List.mem_cons_of_mem _ hmem)
    obtain ⟨hpaths, hplaces⟩ := ih hsubRest hrest
    rw [List.map_cons]
    cases hplan : request.plan answer language with
    | error e => exact ⟨List.nodup_nil, fun _ h => absurd h List.not_mem_nil⟩
    | ok plan =>
      obtain ⟨hpathsOf, hplacesOf⟩ := h.places_plan hlanguage (hkeys language hlanguage) hplan
      rw [filesBeforeFailure, List.map_append]
      refine ⟨List.nodup_append.2 ⟨hpathsOf, hpaths, fun path hpath path' hpath' heq => ?_⟩,
        fun file hfile => ?_⟩
      · -- A path in both parts would be placed for this language and for one of the rest.
        obtain ⟨file, hfile, rfl⟩ := List.mem_map.1 hpath
        obtain ⟨file', hfile', rfl⟩ := List.mem_map.1 hpath'
        obtain ⟨other, hother, hplace⟩ := hplaces file' hfile'
        have hsame := h.eq_of_places hlanguage (hsubRest other hother) (hplacesOf file hfile)
          (heq ▸ hplace)
        exact hnot (hsame ▸ hother)
      · rcases List.mem_append.1 hfile with hfile | hfile
        · exact ⟨language, List.mem_cons_self, hplacesOf file hfile⟩
        · obtain ⟨other, hother, hplace⟩ := hplaces file hfile
          exact ⟨other, List.mem_cons_of_mem _ hother, hplace⟩

end Planned

/-! ## Whole runs -/

/-- A run reads its rules in the tree and writes its files there. Every language is answered from
the tree that those before it have left, and what is planned for the answers is handed to the disk:
all of it unless a write fails. Whatever comes of the run, each file that it has written has a path
of its own, a name in the directory of a language, and holds what was written; every other file is
as it was; directories stay, and those that are new are the target directory, those above it and
those of languages. A run that succeeds sums up the paths that it has written. -/
theorem disk_run_exact {request : Request} (hrequest : request.IsPlain) (rules : Path)
    (t : FileTree) :
    let source := checkout FileTree.host rules
    let sink := Sink.disk FileTree.host
    let recorded := (request.record source sink).run t
    let written := recorded.1.2
    let after := recorded.2
    (request.run source sink Logger.silent).run t = (recorded.1.1, after) ∧
    (∃ answer, AnswersMet (answerIn · rules) sink request t request.languages answer ∧
      recorded = outcome sink t (request.plans answer) ∧
      written <+: filesBeforeFailure (request.plans answer) ∧
      ((∀ e, recorded.1.1 ≠ .error (.write e)) →
        written = filesBeforeFailure (request.plans answer))) ∧
    (written.map (·.1)).Nodup ∧
    (∀ file ∈ written, ∃ language ∈ request.languages, ∃ name : FileName,
      file.1 = (request.directory language).join ⟨name.bytes⟩) ∧
    (∀ file ∈ written,
      after.find file.1 = .ok (t.location file.1, .file (encode file.2))) ∧
    (∀ loc contents, (∀ file ∈ written, loc ≠ t.location file.1) →
      (after.node? loc = some (.file contents) ↔ t.node? loc = some (.file contents))) ∧
    (∀ loc, t.node? loc = some .directory → after.node? loc = some .directory) ∧
    (∀ loc, after.node? loc = some .directory → t.node? loc = some .directory ∨
      loc <+: t.location request.target ∨
      ∃ language ∈ request.languages, loc = t.location (request.directory language)) ∧
    ∀ summaries, recorded.1.1 = .ok summaries →
      summaries.flatMap (·.files) = written.map (·.1) := by
  intro source sink recorded written after
  obtain ⟨answer, hmet⟩ :=
    exists_answersMet (answerIn · rules) sink request hrequest.distinct t
  -- What the catalog answers depends on the tree that it is read from, and reading changes nothing.
  have hanswer (s : FileTree) (language : String) :
      AnswersIn source s language (answerIn s rules language) :=
    Catalog.run_fetchLanguage_eq s rules language
  have hrecorded : recorded = outcome sink t (request.plans answer) :=
    run_recorded_eq_outcome_of_answersMet (Sink.isSteady_disk _) isQuiet_silent hanswer hmet
  have hall (hresult : ∀ e, recorded.1.1 ≠ .error (.write e)) :
      recorded = ((plannedSummaries (request.plans answer),
        filesBeforeFailure (request.plans answer)),
          sink.storedAll t (filesBeforeFailure (request.plans answer))) := by
    rw [hrecorded] at hresult ⊢
    exact outcome_of_taken (taken_of_outcome hresult)
  -- Each answer comes from some tree, and in every tree the names of directories are keys.
  have hkeys (language : String) (hlanguage : language ∈ request.languages) :
      HasKeys (answer language) := by
    obtain ⟨s, hs⟩ := hmet.exists_state hlanguage
    exact hs ▸ hasKeys_answerIn s rules language
  obtain ⟨hdistinct, hplaces⟩ :=
    hrequest.places_planned hkeys (fun _ h => h) hrequest.distinct
  have h : Written request t written after := by
    have hhanded :=
      (written_nil request t).hand hrequest hdistinct hplaces fun _ _ => List.not_mem_nil
    show Written request t recorded.1.2 recorded.2
    rw [hrecorded]
    exact hhanded
  refine ⟨run_eq_record request source sink t, ⟨answer, hmet, hrecorded, ?_, fun hresult => ?_⟩,
    h.distinct, h.placed, h.held, fun loc contents hloc => ?_, fun loc => h.changes.directory,
    fun loc => h.changes.of_directory, fun summaries hsummaries => ?_⟩
  · show recorded.1.2 <+: _
    rw [hrecorded]
    exact Sink.taken_prefix sink t _
  · exact congrArg (·.1.2) (hall hresult)
  · exact h.changes.file_iff (fun ⟨file, hfile, heq⟩ => hloc file hfile heq) contents
  · have hrun := hall fun e he => by cases hsummaries.symm.trans he
    have hplanned : plannedSummaries (request.plans answer) = .ok summaries :=
      (congrArg (·.1.1) hrun).symm.trans hsummaries
    rw [files_of_plannedSummaries hplanned]
    exact congrArg (·.1.2.map (·.1)) hrun.symm

/-- Rule data of two languages that go where the rules are read from. -/
def overlappingRequest : Request where
  mode := .ruleData
  languages := ["js", "java"]
  target := ⟨rulesName.bytes⟩

theorem disk_run_exact_overlapping :
    let recorded := (overlappingRequest.record (checkout FileTree.host overlappingRequest.target)
      (Sink.disk FileTree.host)).run sharedTree
    let written := recorded.1.2
    let after := recorded.2
    overlappingRequest.IsPlain ∧
    written.map (·.1) = [
      .ofText "rules/js/S1.html", .ofText "rules/js/S1.json", .ofText "rules/js/S2.html",
      .ofText "rules/js/S2.json", .ofText "rules/java/S1.html", .ofText "rules/java/S1.json"] ∧
    (∃ summaries, recorded.1.1 = .ok summaries ∧
      summaries.flatMap (·.files) = written.map (·.1)) ∧
    (∃ answer, written = filesBeforeFailure (overlappingRequest.plans answer)) ∧
    (∀ file ∈ written,
      after.find file.1 = .ok (sharedTree.location file.1, .file (encode file.2))) ∧
    after.node? [rulesName, otherRuleName, languageName, manifestFile] =
      some (.file (encode completeManifest)) := by
  have hrequest : overlappingRequest.IsPlain := by
    refine ⟨by decide, fun language hlanguage => ?_, by decide, fun _ _ hmode => by cases hmode⟩
    simp only [overlappingRequest, List.mem_cons, List.not_mem_nil, or_false] at hlanguage
    rcases hlanguage with rfl | rfl <;> exact ⟨by decide, by decide, by decide, by decide⟩
  have hrun :
      let recorded := (overlappingRequest.record (checkout FileTree.host overlappingRequest.target)
        (Sink.disk FileTree.host)).run sharedTree
      recorded.1.1.toOption.isSome = true ∧ recorded.1.2.map (·.1) = [
        .ofText "rules/js/S1.html", .ofText "rules/js/S1.json", .ofText "rules/js/S2.html",
        .ofText "rules/js/S2.json", .ofText "rules/java/S1.html",
        .ofText "rules/java/S1.json"] := by
    decide +kernel
  have hmanifest : sharedTree.node? [rulesName, otherRuleName, languageName, manifestFile] =
      some (.file (encode completeManifest)) := by decide +kernel
  have hexact := disk_run_exact hrequest overlappingRequest.target sharedTree
  dsimp only at hexact
  -- From here on only what the run came to counts, and it is not run again.
  generalize (overlappingRequest.record (checkout FileTree.host overlappingRequest.target)
    (Sink.disk FileTree.host)).run sharedTree = recorded at hrun hexact ⊢
  obtain ⟨⟨result, written⟩, after⟩ := recorded
  obtain ⟨hok, hpaths⟩ := hrun
  obtain ⟨summaries, rfl⟩ := exists_eq_ok_of_isSome hok
  obtain ⟨-, ⟨answer, -, -, -, hplanned⟩, -, -, hheld, hothers, -, -, hsummaries⟩ := hexact
  refine ⟨hrequest, hpaths, ⟨summaries, rfl, hsummaries summaries rfl⟩,
    ⟨answer, hplanned fun e he => by cases he⟩, hheld,
    (hothers _ _ fun file hfile => ?_).2 hmanifest⟩
  have hpath : file.1 ∈ written.map (·.1) := List.mem_map_of_mem hfile
  rw [hpaths] at hpath
  generalize file.1 = path at hpath
  revert path
  decide +kernel

end Rulebook.Run
