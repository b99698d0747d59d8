import Rulebook.Proofs.Outcome
import Rulebook.Run.Basic

/-!
Plans of runs. What a run will write for a language, and what it will sum up, can be told from the
answer of the source alone. A run follows the plans of its languages in order, as far as there are
plans and the sink takes what they hold.
-/

namespace Rulebook.Run

open Rulebook.Catalog (Source FetchError)
open Rulebook.Log (Logger)
open Rulebook.Registrar (compatibleRules activatedRules)
open Rulebook.Sink (Taken)

/-! ## Plans -/

/-- What a run does for a language unless a write fails. -/
structure Plan where
  files : List (Path × String)
  summary : Summary

namespace Request

def filesOf (request : Request) (language : String) (rules : List Rule) : List (Path × String) :=
  let place (name contents : String) := ((request.directory language).join (.ofText name), contents)
  match request.mode with
  | .registrars settings =>
    let options := settings.options language
    [ place (Registrar.repositoryClassName options.repositoryKey ++ ".java")
        (Java.renderLines (Registrar.repositoryLines rules options)),
      place (Registrar.profileClassName options.repositoryKey ++ ".java")
        (Java.renderLines (Registrar.profileLines rules options))]
  | .ruleData => rules.flatMap fun rule => [
      place (rule.name ++ ".html") rule.htmlDocumentation,
      place (rule.name ++ ".json") rule.dataText]

def emittedOf (request : Request) (language : String) (rules : List Rule) : Nat :=
  match request.mode with
  | .registrars settings =>
    (compatibleRules rules (settings.options language).targetLanguage).length
  | .ruleData => rules.length

def activationsOf (request : Request) (language : String) (rules : List Rule) : Option Nat :=
  match request.mode with
  | .registrars settings => some (activatedRules rules (settings.options language)).length
  | .ruleData => none

def planOf (request : Request) (language : String) (rules : List Rule) : Plan where
  files := request.filesOf language rules
  summary := {
    language
    directory := request.directory language
    fetched := rules.length
    emitted := request.emittedOf language rules
    activations := request.activationsOf language rules
    files := (request.filesOf language rules).map (·.1) }

end Request

/-- The canonical rules of a language, or why there are none: the source has no answer, or a raw
rule is malformed, of which the first one counts. -/
def canonicalRules (answer : String → Except FetchError (List RawRule)) (language : String) :
    Except Failure (List Rule) :=
  match answer language with
  | .error e => .error (.fetch e)
  | .ok raws =>
    match raws.findSome? fun raw => error? (raw.normalize language) with
    | some e => .error (.malformedRule e)
    | none => .ok (raws.filterMap fun raw => (raw.normalize language).toOption)

def Request.plan (request : Request) (answer : String → Except FetchError (List RawRule))
    (language : String) : Except Failure Plan :=
  (canonicalRules answer language).map (request.planOf language)

/-- A plan depends on the answer for its language only. -/
theorem plan_congr (request : Request) {answer answer' : String → Except FetchError (List RawRule)}
    {language : String} (h : answer language = answer' language) :
    request.plan answer language = request.plan answer' language := by
  unfold Request.plan canonicalRules
  rw [h]

/-! ## What becomes of plans -/

/-- The files of the plans before the first one that is missing. -/
def filesBeforeFailure : List (Except Failure Plan) → List (Path × String)
  | .ok plan :: rest => plan.files ++ filesBeforeFailure rest
  | .error _ :: _ => []
  | [] => []

def accepted (limit : Option Nat) (files : List (Path × String)) : List (Path × String) :=
  match limit with
  | none => files
  | some n => files.take n

def refused? (limit : Option Nat) (files : List (Path × String)) : Option (Path × String) :=
  limit.bind (files[·]?)

/-- The result of following plans: a write that failed comes before the first missing plan, because
nothing is written behind that. -/
def followed (failure : Path → WriteError) (refused : Option (Path × String))
    (plans : List (Except Failure Plan)) : Except Failure (List Summary) :=
  match refused with
  | some (path, _) => .error (.write (failure path))
  | none =>
    match plans.findSome? error? with
    | some e => .error e
    | none => .ok (plans.filterMap fun plan => plan.toOption.map (·.summary))

def plannedSummaries (plans : List (Except Failure Plan)) : Except Failure (List Summary) :=
  match plans.findSome? error? with
  | some e => .error e
  | none => .ok (plans.filterMap fun plan => plan.toOption.map (·.summary))

/-! ## Loggers that keep nothing -/

section Quiet

variable {m : Type → Type} [Monad m] {log : Logger m}

def IsQuiet (log : Logger m) : Prop := ∀ entry, log.write entry = pure ()

theorem isQuiet_silent : IsQuiet (Logger.silent : Logger m) := fun _ => rfl

theorem IsQuiet.entered (h : IsQuiet log) (span : Log.Span) : IsQuiet (log.entered span) := h

theorem IsQuiet.report (h : IsQuiet log) (event : Log.Event) : log.report event = pure () := h _

variable [LawfulMonad m]

theorem IsQuiet.reportAll (h : IsQuiet log) (events : List Log.Event) :
    log.reportAll events = pure () := by
  induction events with
  | nil => rfl
  | cons event rest ih => rw [Logger.reportAll, h.report, pure_bind, ih]

theorem IsQuiet.within {α : Type} (h : IsQuiet log) (span : Log.Span) (body : Logger m → m α) :
    log.within span body = body (log.entered span) := by
  unfold Logger.within
  simp only [h _, pure_bind, bind_pure]

end Quiet

/-! ## Canonical rules -/

theorem normalizeAll_eq (language : String) (raws : List RawRule) :
    RawRule.normalizeAll language raws =
      match raws.findSome? fun raw => error? (raw.normalize language) with
      | some e => .error e
      | none => .ok (raws.filterMap fun raw => (raw.normalize language).toOption) := by
  induction raws with
  | nil => rfl
  | cons raw rest ih =>
    rw [RawRule.normalizeAll, List.findSome?_cons, List.filterMap_cons]
    cases raw.normalize language with
    | error e => rfl
    | ok rule =>
      show (RawRule.normalizeAll language rest >>= fun rules => .ok (rule :: rules)) =
        match rest.findSome? fun raw => error? (raw.normalize language) with
        | some e => .error e
        | none => .ok (rule :: rest.filterMap fun raw => (raw.normalize language).toOption)
      rw [ih]
      cases rest.findSome? fun raw => error? (raw.normalize language) with
      | some e => rfl
      | none => rfl

theorem canonicalRules_eq_ok {answer : String → Except FetchError (List RawRule)}
    {language : String} {rules : List Rule} : canonicalRules answer language = .ok rules ↔
      ∃ raws, answer language = .ok raws ∧ RawRule.normalizeAll language raws = .ok rules := by
  unfold canonicalRules
  cases answer language with
  | error e => simp
  | ok raws =>
    simp only [normalizeAll_eq, Except.ok.injEq, exists_eq_left']
    cases raws.findSome? fun raw => error? (raw.normalize language) <;> simp

theorem plan_eq_ok {request : Request} {answer : String → Except FetchError (List RawRule)}
    {language : String} {plan : Plan} : request.plan answer language = .ok plan ↔
      ∃ raws rules, answer language = .ok raws ∧ RawRule.normalizeAll language raws = .ok rules ∧
        plan = request.planOf language rules := by
  rw [Request.plan, map_eq_ok]
  simp only [canonicalRules_eq_ok]
  constructor
  · rintro ⟨rules, ⟨raws, hraws, hrules⟩, rfl⟩
    exact ⟨raws, rules, hraws, hrules, rfl⟩
  · rintro ⟨raws, rules, hraws, hrules, rfl⟩
    exact ⟨rules, ⟨raws, hraws, hrules⟩, rfl⟩

theorem fetchRules_eq {m : Type → Type} [Monad m] [LawfulMonad m] {log : Logger m}
    (h : IsQuiet log) (answer : String → Except FetchError (List RawRule)) (language : String) :
    fetchRules (Source.ofAnswers answer) log language = pure (canonicalRules answer language) := by
  unfold fetchRules canonicalRules
  simp only [Source.ofAnswers, pure_bind]
  cases answer language with
  | error e => rfl
  | ok raws =>
    simp only [normalizeRules, h.report, h.reportAll, pure_bind, normalizeAll_eq]
    cases raws.findSome? fun raw => error? (raw.normalize language) with
    | some e => rfl
    | none => rfl

theorem placed_batch (request : Request) (language : String) (rules : List Rule) :
    placed (request.directory language) (request.mode.batch language rules).artifacts =
      request.filesOf language rules := by
  unfold Request.filesOf
  cases request.mode with
  | registrars settings =>
    simp only [placed, Mode.batch, Registrar.emit, Registrar.repositoryFile, Registrar.profileFile,
      Java.SourceFile.fileName, List.map_cons, List.map_nil]
  | ruleData =>
    simp only [placed, Mode.batch, ruleDataArtifacts, Rule.documentationArtifact, Rule.dataArtifact,
      List.map_flatMap, List.map_cons, List.map_nil]

@[simp] theorem emitted_batch (request : Request) (language : String) (rules : List Rule) :
    (request.mode.batch language rules).emitted = request.emittedOf language rules := by
  unfold Request.emittedOf
  cases request.mode with
  | registrars settings => rfl
  | ruleData => rfl

@[simp] theorem activations_batch (request : Request) (language : String) (rules : List Rule) :
    (request.mode.batch language rules).activations = request.activationsOf language rules := by
  unfold Request.activationsOf
  cases request.mode with
  | registrars settings => rfl
  | ruleData => rfl

/-! ## Limits -/

section Limits

variable {limit : Option Nat} {files others : List (Path × String)} {refused : Path × String}

theorem refused?_eq_none_iff :
    refused? limit files = none ↔ ∀ n, limit = some n → files.length ≤ n := by
  cases limit with
  | none => exact ⟨fun _ n h => absurd h (by simp), fun _ => rfl⟩
  | some n =>
    rw [refused?, Option.bind_some, List.getElem?_eq_none_iff]
    constructor
    · intro h k hk
      cases hk
      exact h
    · intro h
      exact h n rfl

theorem accepted_of_refused?_eq_none (h : refused? limit files = none) :
    accepted limit files = files := by
  cases limit with
  | none => rfl
  | some n => exact List.take_of_length_le (refused?_eq_none_iff.1 h n rfl)

theorem refused?_append (h : refused? limit files = some refused) (others : List (Path × String)) :
    refused? limit (files ++ others) = some refused := by
  cases limit with
  | none => cases h
  | some n =>
    obtain ⟨hn, -⟩ := List.getElem?_eq_some_iff.1 h
    exact (List.getElem?_append_left hn).trans h

theorem accepted_append (h : refused? limit files = some refused) (others : List (Path × String)) :
    accepted limit (files ++ others) = accepted limit files := by
  cases limit with
  | none => cases h
  | some n =>
    obtain ⟨hn, -⟩ := List.getElem?_eq_some_iff.1 h
    exact List.take_append_of_le_length (Nat.le_of_lt hn)

end Limits

/-! ## Writes -/

theorem followed_cons (failure : Path → WriteError) (refused : Option (Path × String))
    (plan : Plan) (plans : List (Except Failure Plan)) :
    followed failure refused (.ok plan :: plans) =
      (followed failure refused plans).map (plan.summary :: ·) := by
  unfold followed
  cases refused with
  | some refused => rfl
  | none =>
    rw [List.findSome?_cons, List.filterMap_cons]
    simp only [error?, Except.toOption]
    cases plans.findSome? _ with
    | some e => rfl
    | none => rfl

@[simp] theorem plannedSummaries_ok_cons (plan : Plan) (plans : List (Except Failure Plan)) :
    plannedSummaries (.ok plan :: plans) = (plannedSummaries plans).map (plan.summary :: ·) :=
  followed_cons (fun path => .file path .notFound) none plan plans

/-- Summaries list the paths of all that was planned. -/
theorem files_of_plannedSummaries {request : Request}
    {answer : String → Except FetchError (List RawRule)} {languages : List String}
    {summaries : List Summary}
    (h : plannedSummaries (languages.map (request.plan answer)) = .ok summaries) :
    summaries.flatMap (·.files) =
      (filesBeforeFailure (languages.map (request.plan answer))).map (·.1) := by
  induction languages generalizing summaries with
  | nil =>
    cases h
    rfl
  | cons language rest ih =>
    rw [List.map_cons] at h ⊢
    cases hplan : request.plan answer language with
    | error e =>
      rw [hplan] at h
      cases h
    | ok plan =>
      rw [hplan, plannedSummaries_ok_cons, map_eq_ok] at h
      obtain ⟨others, hothers, rfl⟩ := h
      obtain ⟨raws, rules, -, -, rfl⟩ := plan_eq_ok.1 hplan
      rw [List.flatMap_cons, ih hothers, filesBeforeFailure, List.map_append]
      rfl

section Runs

variable {limit : Option Nat} {failure : Path → WriteError} {log : Logger (StateM Taken)}
  {taken : Taken}

/-- What is left to write comes behind what a sink has taken, which it had room for. -/
theorem run_writeAll (h : refused? limit taken = none) (files : List (Path × String)) :
    (writeAll (Sink.memory limit failure) log files).run taken =
      (match refused? limit (taken ++ files) with
        | some (path, _) => .error (.write (failure path))
        | none => .ok (),
        accepted limit (taken ++ files)) := by
  -- Each file that is taken moves from the files to what the sink has taken, which has room still.
  induction files generalizing taken with
  | nil =>
    rw [List.append_nil, h, accepted_of_refused?_eq_none h]
    rfl
  | cons file rest ih =>
    obtain ⟨path, contents⟩ := file
    have hwrite : ((Sink.memory limit failure).write log path contents).run taken =
        if limit = some taken.length then (.error (failure path), taken)
        else (.ok (), taken ++ [(path, contents)]) := rfl
    rw [writeAll, StateT.run_bind, hwrite]
    by_cases hlimit : limit = some taken.length
    · subst hlimit
      have hrefused : refused? (some taken.length) (taken ++ (path, contents) :: rest) =
          some (path, contents) := by
        rw [refused?, Option.bind_some, List.getElem?_append_right (Nat.le_refl _), Nat.sub_self]
        rfl
      rw [if_pos rfl, hrefused, accepted, List.take_left]
      rfl
    · have hroom : refused? limit (taken ++ [(path, contents)]) = none := by
        rw [refused?_eq_none_iff] at h ⊢
        intro n hn
        have hle := h n hn
        have hne : n ≠ taken.length := fun he => hlimit (he ▸ hn)
        rw [List.length_append, List.length_singleton]
        omega
      have hrest := ih hroom
      rw [List.append_assoc, List.singleton_append] at hrest
      rw [if_neg hlimit]
      exact hrest

theorem run_runLanguage (hlog : IsQuiet log) (h : refused? limit taken = none)
    (answer : String → Except FetchError (List RawRule)) (request : Request) (language : String) :
    (runLanguage (Source.ofAnswers answer) (Sink.memory limit failure) request log language).run
        taken =
      match request.plan answer language with
      | .error e => (.error e, taken)
      | .ok plan => (match refused? limit (taken ++ plan.files) with
        | some (path, _) => .error (.write (failure path))
        | none => .ok plan.summary,
        accepted limit (taken ++ plan.files)) := by
  have hquiet := hlog.entered (request.mode.span language)
  rw [runLanguage, hlog.within]
  unfold runInside Request.plan
  simp only [hquiet.report, pure_bind, fetchRules_eq hquiet]
  cases canonicalRules answer language with
  | error e => rfl
  | ok rules =>
    -- The files that are written are those of the plan.
    simp only [Except.map, placed_batch]
    rw [StateT.run_bind, run_writeAll h]
    simp only [Request.planOf]
    cases refused? limit (taken ++ request.filesOf language rules) with
    | some refused => rfl
    | none =>
      rw [← emitted_batch, ← activations_batch]
      rfl

theorem run_runLanguages (hlog : IsQuiet log) (h : refused? limit taken = none)
    (answer : String → Except FetchError (List RawRule)) (request : Request)
    (languages : List String) :
    (runLanguages (Source.ofAnswers answer) (Sink.memory limit failure) request log languages).run
        taken =
      (followed failure
          (refused? limit (taken ++ filesBeforeFailure (languages.map (request.plan answer))))
          (languages.map (request.plan answer)),
        accepted limit (taken ++ filesBeforeFailure (languages.map (request.plan answer)))) := by
  induction languages generalizing taken with
  | nil =>
    simp only [List.map_nil, filesBeforeFailure, List.append_nil]
    rw [h, accepted_of_refused?_eq_none h]
    rfl
  | cons language rest ih =>
    -- Without a plan nothing is written; with one the rest goes on behind its files.
    rw [runLanguages, StateT.run_bind, run_runLanguage hlog h]
    simp only [List.map_cons]
    cases request.plan answer language with
    | error e =>
      simp only [filesBeforeFailure, List.append_nil]
      rw [h, accepted_of_refused?_eq_none h]
      rfl
    | ok plan =>
      simp only [filesBeforeFailure]
      rw [← List.append_assoc]
      cases hrefused : refused? limit (taken ++ plan.files) with
      | some refused =>
        -- The other languages are not reached; their files stand behind the one that was refused.
        rw [refused?_append hrefused, accepted_append hrefused]
        rfl
      | none =>
        rw [accepted_of_refused?_eq_none hrefused]
        show StateT.run (_ >>= _) (taken ++ plan.files) = _
        rw [StateT.run_bind, ih hrefused]
        rw [followed_cons]
        generalize rest.map (request.plan answer) = plans
        cases followed failure (refused? limit (taken ++ plan.files ++ filesBeforeFailure plans))
          plans with
        | error e => rfl
        | ok summaries => rfl

end Runs

/-! ## Whole runs -/

theorem followed_none_eq_ok_iff {failure : Path → WriteError} {plans : List (Except Failure Plan)}
    {summaries : List Summary} :
    followed failure none plans = .ok summaries ↔
      ∃ made : List Plan, plans = made.map .ok ∧ summaries = made.map (·.summary) := by
  induction plans generalizing summaries with
  | nil =>
    constructor
    · intro h
      cases h
      exact ⟨[], rfl, rfl⟩
    · rintro ⟨made, hmade, rfl⟩
      rw [List.map_eq_nil_iff.1 hmade.symm]
      rfl
  | cons plan rest ih =>
    cases plan with
    | error e =>
      constructor
      · intro h
        cases h
      · rintro ⟨made, hmade, -⟩
        obtain ⟨first, others, -, hfirst, -⟩ := List.map_eq_cons_iff.1 hmade.symm
        cases hfirst
    | ok plan =>
      rw [followed_cons, map_eq_ok]
      constructor
      · rintro ⟨others, hothers, rfl⟩
        obtain ⟨made, rfl, rfl⟩ := ih.1 hothers
        exact ⟨plan :: made, rfl, rfl⟩
      · rintro ⟨made, hmade, rfl⟩
        obtain ⟨first, others, rfl, hfirst, hothers⟩ := List.map_eq_cons_iff.1 hmade.symm
        cases hfirst
        exact ⟨others.map (·.summary), ih.2 ⟨others, hothers.symm, rfl⟩, rfl⟩

/-- A run follows the plans of its languages. A sink with a limit has taken so many of the files
that come before the first missing plan. There is a summary for each language unless a plan is
missing or a write failed; otherwise the result is the failure that was met. -/
theorem run_follows_plans (request : Request)
    (answer : String → Except FetchError (List RawRule)) (limit : Option Nat)
    (failure : Path → WriteError) :
    let plans := request.languages.map (request.plan answer)
    let files := filesBeforeFailure plans
    let outcome :=
      (request.run (Source.ofAnswers answer) (Sink.memory limit failure) Logger.silent).run []
    outcome.2 = accepted limit files ∧
      outcome.1 = followed failure (refused? limit files) plans ∧
      ∀ summaries, outcome.1 = .ok summaries ↔ refused? limit files = none ∧
        ∃ made : List Plan, plans = made.map .ok ∧ summaries = made.map (·.summary) := by
  intro plans files outcome
  -- Before anything is taken there is room, whatever the limit.
  have hroom : refused? limit [] = none := refused?_eq_none_iff.2 fun n _ => Nat.zero_le n
  have houtcome : outcome = (followed failure (refused? limit files) plans, accepted limit files) :=
    run_runLanguages isQuiet_silent hroom answer request request.languages
  rw [houtcome]
  refine ⟨rfl, rfl, fun summaries => ?_⟩
  cases refused? limit files with
  | some refused =>
    constructor
    · intro h
      cases h
    · rintro ⟨h, -⟩
      cases h
  | none =>
    rw [followed_none_eq_ok_iff]
    exact ⟨fun h => ⟨rfl, h⟩, fun h => h.2⟩

end Rulebook.Run
