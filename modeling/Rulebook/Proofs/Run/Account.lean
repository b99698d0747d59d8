import Rulebook.Proofs.Run.Selection

/-!
Accounts of runs. Summaries are made where rules are fetched, where artifacts are made and where
they have been written. Whatever the source answers and whatever is reported, they agree with the
transcript of the run: with the raw rules of every answer, with every path that was written, and
with the statements in the sources that were written.
-/

namespace Rulebook.Run

open Rulebook.Catalog (Source)
open Rulebook.Java (Line renderLines renderLines_append_eq)
open Rulebook.Log (Logger)
open Rulebook.Registrar

def Step.path? : Step → Option Path
  | .fetched _ _ => none
  | .wrote path _ => some path

def written (steps : List Step) : List Path := steps.filterMap Step.path?

/-- A part of a transcript: the answer of the source for one language, and the files that were
written before it was asked again. -/
structure Stretch where
  language : String
  raws : List RawRule
  files : List (Path × String)

def Stretch.steps (stretch : Stretch) : List Step :=
  .fetched stretch.language stretch.raws :: stretch.files.map .ofFile

/-! ## What summaries say -/

/-- Behind the lines up to the one that names the class, a source has so many statements of a
kind. -/
def HasStatements (kind : StatementKind) (head : List Line) (source : String) (n : Nat) : Prop :=
  ∃ body, source = renderLines head ++ body ∧ (said kind (statements body)).length = n

/-- The numbers are those of two sources that have been written: the rules that the repository
creates, and those that the profile activates. -/
def CountsRegistrars (settings : RegistrarSettings) (summary : Summary)
    (files : List (Path × String)) : Prop :=
  let options := settings.options summary.language
  ∃ repository profile activations, summary.files.length = 2 ∧
    files.map (·.2) = [repository, profile] ∧ summary.activations = some activations ∧
    activations ≤ summary.emitted ∧ summary.emitted ≤ summary.fetched ∧
    HasStatements .creation (repositoryHead options) repository summary.emitted ∧
    HasStatements .activation (profileHead options) profile activations

def CountsRuleData (directory : Path) (summary : Summary) (raws : List RawRule) : Prop :=
  summary.emitted = summary.fetched ∧ summary.activations = none ∧
    summary.files.length = 2 * summary.emitted ∧
    summary.files = raws.flatMap fun raw =>
      [directory.join (.ofText (raw.key ++ ".html")), directory.join (.ofText (raw.key ++ ".json"))]

/-- A summary is right about a part of a transcript. -/
structure AccountsFor (request : Request) (summary : Summary) (stretch : Stretch) : Prop where
  language : summary.language = stretch.language
  fetched : summary.fetched = stretch.raws.length
  files : summary.files = stretch.files.map (·.1)
  registrars : ∀ settings, request.mode = .registrars settings →
    CountsRegistrars settings summary stretch.files
  ruleData : request.mode = .ruleData →
    CountsRuleData (request.directory stretch.language) summary stretch.raws

/-- Summaries are right about a transcript, of which they leave nothing out. -/
structure Account (request : Request) (summaries : List Summary) (steps : List Step) : Prop where
  languages : summaries.map (·.language) = request.languages
  files : summaries.flatMap (·.files) = written steps
  each : ∃ stretches : List Stretch, steps = stretches.flatMap (·.steps) ∧
    List.Forall₂ (AccountsFor request) summaries stretches

/-! ## One language -/

section Visits

variable {visit : Visit} {request : Request} {settings : RegistrarSettings}

def Visit.stretch (request : Request) (visit : Visit) : Stretch where
  language := visit.language
  raws := visit.raws
  files := request.filesOf visit.language visit.rules

theorem Visit.fetched_eq (h : visit.IsSound) :
    (visit.summary request).fetched = visit.raws.length :=
  (RawRule.normalizeAll_eq_ok.1 h).length_eq.symm

theorem hasStatements_repository (h : visit.IsSound) :
    HasStatements .creation (repositoryHead (settings.options visit.language))
      (renderLines (repositoryLines visit.rules (settings.options visit.language)))
      (compatibleRules visit.rules (settings.options visit.language).targetLanguage).length := by
  refine ⟨renderLines (repositoryClassBody visit.rules (settings.options visit.language)), ?_, ?_⟩
  · rw [repositoryLines_eq, renderLines_append_eq]
  · rw [creates_of_isSound h, List.length_map, (forall₂_created h).length_eq]

theorem hasStatements_profile (h : visit.IsSound) :
    HasStatements .activation (profileHead (settings.options visit.language))
      (renderLines (profileLines visit.rules (settings.options visit.language)))
      (activatedRules visit.rules (settings.options visit.language)).length := by
  refine ⟨renderLines (profileClassBody visit.rules (settings.options visit.language)), ?_, ?_⟩
  · rw [profileLines_eq, renderLines_append_eq]
  · rw [activates_of_isSound h, List.length_map, (forall₂_activated h).length_eq]

theorem countsRegistrars_of_isSound (h : visit.IsSound)
    (hmode : request.mode = .registrars settings) :
    CountsRegistrars settings (visit.summary request) (visit.stretch request).files := by
  have hfiles : (visit.stretch request).files.map (·.2) =
      [renderLines (repositoryLines visit.rules (settings.options visit.language)),
        renderLines (profileLines visit.rules (settings.options visit.language))] := by
    simp only [Visit.stretch, Request.filesOf, hmode, List.map_cons, List.map_nil]
  have hactivations : (visit.summary request).activations =
      some (activatedRules visit.rules (settings.options visit.language)).length := by
    simp only [Visit.summary, Request.planOf, Request.activationsOf, hmode]
  have hemitted : (visit.summary request).emitted =
      (compatibleRules visit.rules (settings.options visit.language).targetLanguage).length := by
    simp only [Visit.summary, Request.planOf, Request.emittedOf, hmode]
  have hlength : (visit.summary request).files.length = 2 := by
    have hwritten := congrArg List.length hfiles
    rw [List.length_map] at hwritten
    exact (List.length_map _).trans hwritten
  refine ⟨_, _, _, hlength, hfiles, hactivations, ?_, ?_, ?_, hasStatements_profile h⟩
  -- Both selections only leave rules out, the profile from what the repository has.
  · rw [hemitted]
    exact List.length_filter_le _ _
  · rw [hemitted]
    exact List.length_filter_le _ _
  · rw [hemitted]
    exact hasStatements_repository h

theorem countsRuleData_of_isSound (h : visit.IsSound) (hmode : request.mode = .ruleData) :
    CountsRuleData (request.directory visit.language) (visit.summary request) visit.raws := by
  let place (name : String) : Path := (request.directory visit.language).join (.ofText name)
  have hemitted : (visit.summary request).emitted = (visit.summary request).fetched := by
    simp only [Visit.summary, Request.planOf, Request.emittedOf, hmode]
  have hactivations : (visit.summary request).activations = none := by
    simp only [Visit.summary, Request.planOf, Request.activationsOf, hmode]
  -- Canonical rules have the keys of their raw rules as names, in the same order.
  have hnames : visit.rules.map (·.name) = visit.raws.map (·.key) :=
    (map_eq_of_forall₂ (RawRule.normalizeAll_eq_ok.1 h) fun raw rule hrule =>
      (RawRule.name_of_normalize hrule).symm).symm
  have hfiles : (visit.summary request).files =
      visit.raws.flatMap fun raw => [place (raw.key ++ ".html"), place (raw.key ++ ".json")] := by
    have hrules : (visit.summary request).files =
        (visit.rules.map (·.name)).flatMap fun name =>
          [place (name ++ ".html"), place (name ++ ".json")] := by
      simp only [Visit.summary, Request.planOf, Request.filesOf, hmode, List.map_flatMap,
        List.flatMap_map, List.map_cons, List.map_nil, place]
    rw [hrules, hnames, List.flatMap_map]
  refine ⟨hemitted, hactivations, ?_, hfiles⟩
  rw [hfiles, hemitted, visit.fetched_eq h, List.length_flatMap]
  simp only [List.length_cons, List.length_nil, List.map_const', List.sum_replicate_nat]
  exact Nat.mul_comm _ _

theorem accountsFor_of_isSound (h : visit.IsSound) :
    AccountsFor request (visit.summary request) (visit.stretch request) where
  language := rfl
  fetched := visit.fetched_eq h
  files := rfl
  registrars _ hmode := countsRegistrars_of_isSound h hmode
  ruleData hmode := countsRuleData_of_isSound h hmode

end Visits

/-! ## Whole runs -/

@[simp] theorem written_append (steps more : List Step) :
    written (steps ++ more) = written steps ++ written more := List.filterMap_append

@[simp]
theorem written_steps (stretch : Stretch) : written stretch.steps = stretch.files.map (·.1) := by
  rw [written, Stretch.steps, List.filterMap_cons_none rfl, List.filterMap_map]
  exact congrFun List.filterMap_eq_map _

theorem files_eq_written {request : Request} {summaries : List Summary} {stretches : List Stretch}
    (h : List.Forall₂ (AccountsFor request) summaries stretches) :
    summaries.flatMap (·.files) = written (stretches.flatMap (·.steps)) := by
  induction h with
  | nil => rfl
  | @cons summary stretch summaries stretches hfirst _ ih =>
    simp [← ih, hfirst.files]

theorem account_of_run {σ : Type} {source : Source (StateM σ)} {sink : Sink (StateM σ)}
    {log : Logger (StateM σ)} {request : Request} {s s' : σ} {summaries : List Summary}
    (h : (request.run source sink log).run s = (.ok summaries, s')) :
    ∃ steps, (request.transcriptWith source sink log).run s = ((.ok summaries, steps), s') ∧
      Account request summaries steps := by
  obtain ⟨visits, hlanguages, hsound, rfl, htranscript⟩ := transcriptWith_of_run h
  -- Summaries and stretches are both made of the visits, one by one.
  have heach : List.Forall₂ (AccountsFor request) (visits.map (·.summary request))
      (visits.map (·.stretch request)) := by
    rw [List.forall₂_map_left_iff, List.forall₂_map_right_iff, List.forall₂_same]
    exact fun visit hvisit => accountsFor_of_isSound (hsound visit hvisit)
  have hsteps : visits.flatMap (·.steps request) =
      (visits.map (·.stretch request)).flatMap (·.steps) := by
    rw [List.flatMap_map]
    rfl
  refine ⟨_, htranscript, ?_, ?_, ⟨_, hsteps, heach⟩⟩
  · rw [List.map_map]
    exact hlanguages
  · rw [hsteps]
    exact files_eq_written heach

/-! ## Runs that succeed -/

def Succeeds {σ ε α : Type} (x : StateM σ (Except ε α)) : Prop :=
  ∀ s, ∃ a s', x.run s = (.ok a, s')

section Success

variable {σ ε ε' α β γ : Type}

theorem succeeds_ok (a : α) : Succeeds (pure (.ok a) : StateM σ (Except ε α)) :=
  fun s => ⟨a, s, rfl⟩

theorem Succeeds.bind {x : StateM σ (Except ε α)} {f : Except ε α → StateM σ (Except ε' β)}
    (h : Succeeds x) (hf : ∀ a, Succeeds (f (.ok a))) : Succeeds (x >>= f) := by
  intro s
  obtain ⟨a, s₁, hx⟩ := h s
  rw [run_bind_of_run hx]
  exact hf a s₁

/-- What is reported before makes no difference. -/
theorem Succeeds.after {y : StateM σ γ} {g : γ → StateM σ (Except ε α)}
    (h : ∀ c, Succeeds (g c)) : Succeeds (y >>= g) := fun s => h (y.run s).1 (y.run s).2

variable {source : Source (StateM σ)} {sink : Sink (StateM σ)}

def AnswersSoundly (source : Source (StateM σ)) (languages : List String) : Prop :=
  ∀ log, ∀ language ∈ languages, ∀ s, ∃ raws rules s',
    (source.fetch log language).run s = (.ok raws, s') ∧
      RawRule.normalizeAll language raws = .ok rules

def NeverFails (sink : Sink (StateM σ)) : Prop :=
  ∀ log path contents, Succeeds (sink.write log path contents)

theorem succeeds_writeAll (h : NeverFails sink) (log : Logger (StateM σ))
    (files : List (Path × String)) : Succeeds (writeAll sink log files) := by
  induction files with
  | nil => exact succeeds_ok ()
  | cons file rest ih => exact (h log file.1 file.2).bind fun u => ih

theorem succeeds_fetchRules {languages : List String} (h : AnswersSoundly source languages)
    (log : Logger (StateM σ)) {language : String} (hlanguage : language ∈ languages) :
    Succeeds (fetchRules source log language) := by
  intro s
  obtain ⟨raws, rules, s₁, hfetch, hrules⟩ := h log language hlanguage s
  have hnormalize : Succeeds (normalizeRules log language raws) := by
    refine .after fun u => ?_
    rw [hrules]
    exact .after fun u => succeeds_ok rules
  rw [fetchRules, run_bind_of_run hfetch]
  exact Succeeds.after (fun u => hnormalize) s₁

theorem succeeds_runLanguage {request : Request} {languages : List String}
    (hsource : AnswersSoundly source languages) (hsink : NeverFails sink)
    (log : Logger (StateM σ)) {language : String} (hlanguage : language ∈ languages) :
    Succeeds (runLanguage source sink request log language) := by
  have hinside : Succeeds (runInside source sink request language
      (log.entered (request.mode.span language))) := by
    refine .after fun u => (succeeds_fetchRules hsource _ hlanguage).bind fun rules => ?_
    refine .after fun u => (succeeds_writeAll hsink _ _).bind fun u => ?_
    exact .after fun u => succeeds_ok _
  -- The end of the span is reported before the value is returned.
  exact hinside.bind fun summary => .after fun u => succeeds_ok summary

theorem succeeds_runLanguages {request : Request} {languages : List String}
    (hsource : AnswersSoundly source languages) (hsink : NeverFails sink)
    (log : Logger (StateM σ)) {asked : List String} (h : ∀ language ∈ asked, language ∈ languages) :
    Succeeds (runLanguages source sink request log asked) := by
  induction asked with
  | nil => exact succeeds_ok []
  | cons language rest ih =>
    refine (succeeds_runLanguage hsource hsink log (h language List.mem_cons_self)).bind
      fun summary => ?_
    refine (ih fun other hother => h other (List.mem_cons_of_mem language hother)).bind
      fun summaries => ?_
    exact succeeds_ok _

theorem succeeds_run {request : Request} (hsource : AnswersSoundly source request.languages)
    (hsink : NeverFails sink) (log : Logger (StateM σ)) :
    Succeeds (request.run source sink log) :=
  succeeds_runLanguages hsource hsink log fun _ hlanguage => hlanguage

end Success

end Rulebook.Run
