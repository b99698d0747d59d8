import Mathlib.Data.List.Infix
import Rulebook.Proofs.Run.Correspondence
import Rulebook.Proofs.Run.Record

/-!
Files that are handed to a sink with a state. Between two writes a run only fetches, which changes
nothing, so the files that a run writes tell all the states that it passes through. A run with known
answers hands the files of its plans to the sink, up to the first that the sink refuses; a run with
any source is such a run as long as the source answers alike in all the states that are passed.
-/

namespace Rulebook

open Rulebook.Catalog (Source FetchError)
open Rulebook.Log (Logger)
open Rulebook.Sink (Taken)

/-! ## Sinks -/

namespace Sink

/-- It makes no difference to a sink which logger that keeps nothing it is given. -/
def IsSteady {m : Type → Type} [Monad m] (sink : Sink m) : Prop :=
  ∀ log, Run.IsQuiet log → sink.write log = sink.write .silent

theorem isSteady_disk {m : Type → Type} [Monad m] (host : Host m) : (disk host).IsSteady := by
  intro log hlog
  unfold disk
  simp only [hlog.report, Run.isQuiet_silent.report]

theorem isSteady_dryRun {m : Type → Type} [Monad m] : (dryRun : Sink m).IsSteady := by
  intro log hlog
  unfold dryRun
  simp only [hlog.report, Run.isQuiet_silent.report]

variable {σ : Type} {sink : Sink (StateM σ)} {s s' : σ} {file : Path × String}
  {files others : Taken}

def stored (sink : Sink (StateM σ)) (s : σ) (file : Path × String) : σ :=
  ((sink.write .silent file.1 file.2).run s).2

def storedAll (sink : Sink (StateM σ)) (s : σ) (files : Taken) : σ := files.foldl sink.stored s

@[simp] theorem storedAll_append (sink : Sink (StateM σ)) (s : σ) (files others : Taken) :
    sink.storedAll s (files ++ others) = sink.storedAll (sink.storedAll s files) others :=
  List.foldl_append

/-- What every file keeps is kept by all of them. -/
theorem storedAll_induction (holds : σ → Prop) (hs : holds s)
    (hstep : ∀ s, holds s → ∀ file ∈ files, holds (sink.stored s file)) :
    holds (sink.storedAll s files) := by
  induction files generalizing s with
  | nil => exact hs
  | cons file rest ih =>
    exact ih (hstep s hs file List.mem_cons_self) fun s hs other hother =>
      hstep s hs other (List.mem_cons_of_mem _ hother)

/-- What becomes of files that are handed to a sink up to the first that it refuses. -/
structure Handed (σ : Type) where
  /-- Why that one was refused. -/
  refused : Option WriteError
  /-- The files before it. -/
  taken : Taken
  state : σ

def hand (sink : Sink (StateM σ)) (s : σ) : Taken → Handed σ
  | [] => ⟨none, [], s⟩
  | file :: rest =>
    match (sink.write .silent file.1 file.2).run s with
    | (.error e, s') => ⟨some e, [], s'⟩
    | (.ok (), s') =>
      { sink.hand s' rest with taken := file :: (sink.hand s' rest).taken }

theorem hand_cons_of_error {e : WriteError}
    (h : (sink.write .silent file.1 file.2).run s = (.error e, s')) :
    sink.hand s (file :: files) = ⟨some e, [], s'⟩ := by
  rw [hand, h]

theorem hand_cons_of_ok (h : (sink.write .silent file.1 file.2).run s = (.ok (), s')) :
    sink.hand s (file :: files) =
      { sink.hand s' files with taken := file :: (sink.hand s' files).taken } := by
  rw [hand, h]

/-- Without a refusal all files are taken. -/
theorem hand_of_taken (h : (sink.hand s files).refused = none) :
    sink.hand s files = ⟨none, files, sink.storedAll s files⟩ := by
  induction files generalizing s with
  | nil => rfl
  | cons file rest ih =>
    rw [hand] at h ⊢
    split at h
    · cases h
    · next s' hwrite =>
      have hstored : sink.stored s file = s' := congrArg Prod.snd hwrite
      rw [ih h, storedAll, storedAll, List.foldl_cons, hstored]

theorem taken_prefix (sink : Sink (StateM σ)) (s : σ) (files : Taken) :
    (sink.hand s files).taken <+: files := by
  induction files generalizing s with
  | nil => exact List.prefix_rfl
  | cons file rest ih =>
    rw [hand]
    split
    · exact List.nil_prefix
    · exact List.prefix_append_right_inj [file] |>.2 (ih _)

theorem hand_append_of_refused {e : WriteError} (h : (sink.hand s files).refused = some e)
    (others : Taken) : sink.hand s (files ++ others) = sink.hand s files := by
  induction files generalizing s with
  | nil => cases h
  | cons file rest ih =>
    rw [List.cons_append, hand, hand]
    rw [hand] at h
    split at h
    · rfl
    · rw [ih h]

theorem hand_append_of_taken (h : (sink.hand s files).refused = none) (others : Taken) :
    sink.hand s (files ++ others) = { sink.hand (sink.storedAll s files) others with
      taken := files ++ (sink.hand (sink.storedAll s files) others).taken } := by
  induction files generalizing s with
  | nil => rfl
  | cons file rest ih =>
    rw [List.cons_append, hand]
    rw [hand] at h
    split at h
    · cases h
    · next s' hwrite =>
      have hstored : sink.stored s file = s' := congrArg Prod.snd hwrite
      rw [ih h, storedAll, storedAll, List.foldl_cons, hstored]
      rfl

/-- All files are taken if each one is, behind those before it. -/
theorem taken_iff : (sink.hand s files).refused = none ↔
    ∀ before file, before ++ [file] <+: files →
      ((sink.write .silent file.1 file.2).run (sink.storedAll s before)).1 = .ok () := by
  induction files generalizing s with
  | nil =>
    refine ⟨fun _ before file h => ?_, fun _ => rfl⟩
    exact absurd (List.prefix_nil.1 h) (List.concat_ne_nil _ _)
  | cons first rest ih =>
    constructor
    · intro h before file hbefore
      rw [hand] at h
      split at h
      · cases h
      · next s' hwrite =>
        cases before with
        | nil =>
          -- Nothing stands before the first file, and it was just taken.
          obtain rfl : file = first := (List.cons_prefix_cons.1 hbefore).1
          exact congrArg Prod.fst hwrite
        | cons other before =>
          obtain ⟨rfl, hrest⟩ := List.cons_prefix_cons.1 hbefore
          have hstored : sink.stored s other = s' := congrArg Prod.snd hwrite
          rw [storedAll, List.foldl_cons, hstored]
          exact ih.1 h before file hrest
    · intro h
      have hfirst := h [] first (List.prefix_append [first] rest)
      have hrest : (sink.hand (sink.stored s first) rest).refused = none :=
        ih.2 fun before file hbefore =>
          h (first :: before) file (List.prefix_append_right_inj [first] |>.2 hbefore)
      rw [hand]
      split
      · next hwrite =>
        have hresult := congrArg Prod.fst hwrite
        cases hfirst.symm.trans hresult
      · next s' hwrite =>
        have hstored : sink.stored s first = s' := congrArg Prod.snd hwrite
        rw [hstored] at hrest
        exact hrest

theorem taken_of_prefix (h : (sink.hand s files).refused = none) (hothers : others <+: files) :
    (sink.hand s others).refused = none :=
  taken_iff.2 fun before file hbefore => taken_iff.1 h before file (hbefore.trans hothers)

end Sink

namespace Run

variable {σ : Type} {sink : Sink (StateM σ)} {log : Logger (StateT Taken (StateM σ))}
  {source source' : Source (StateM σ)} {request : Request} {s : σ} {taken : Taken}

/-! ## Runs with known answers -/

section Answers

def unlessRefused {α : Type} (refused : Option WriteError) (result : Except Failure α) :
    Except Failure α :=
  match refused with
  | some e => .error (.write e)
  | none => result

/-- What a run results in that hands files to a sink and has a result if they are taken. -/
def resultOfHanded {α : Type} (handed : Sink.Handed σ) (taken : Taken) (result : Except Failure α) :
    (Except Failure α × Taken) × σ :=
  ((unlessRefused handed.refused result, taken ++ handed.taken), handed.state)

theorem run_recorded_writeAll (hsink : sink.IsSteady) (files : List (Path × String))
    (taken : Taken) (s : σ) :
    ((writeAll sink.recorded log files).run taken).run s =
      resultOfHanded (sink.hand s files) taken (.ok ()) := by
  induction files generalizing taken s with
  | nil =>
    rw [Sink.hand, resultOfHanded, List.append_nil]
    rfl
  | cons file rest ih =>
    obtain ⟨path, contents⟩ := file
    have hquiet := hsink (.quiet log.around) (isQuiet_quiet log.around)
    rw [writeAll, Sink.hand]
    split
    -- The first refusal ends both.
    · next e s' hwrite =>
      rw [← hquiet] at hwrite
      rw [run_recorded_bind (run_recorded_write_error taken hwrite), resultOfHanded,
        List.append_nil]
      rfl
    · next s' hwrite =>
      rw [← hquiet] at hwrite
      rw [run_recorded_bind (run_recorded_write_ok taken hwrite)]
      refine (ih (taken ++ [(path, contents)]) s').trans ?_
      rw [resultOfHanded, List.append_assoc]
      rfl

theorem run_recorded_runLanguage (hsink : sink.IsSteady) (hlog : IsQuiet log)
    (answer : String → Except FetchError (List RawRule)) (request : Request) (language : String)
    (taken : Taken) (s : σ) :
    ((runLanguage (Source.ofAnswers answer) sink.recorded request log language).run taken).run s =
      match request.plan answer language with
      | .error e => ((.error e, taken), s)
      | .ok plan => resultOfHanded (sink.hand s plan.files) taken (.ok plan.summary) := by
  have hquiet := hlog.entered (request.mode.span language)
  rw [runLanguage, hlog.within]
  unfold runInside Request.plan
  simp only [hquiet.report, pure_bind, fetchRules_eq hquiet]
  cases canonicalRules answer language with
  | error e => rfl
  | ok rules =>
    simp only [Except.map, placed_batch]
    refine (run_recorded_bind (run_recorded_writeAll hsink _ taken s) _).trans ?_
    simp only [Request.planOf, ← emitted_batch, ← activations_batch]
    unfold resultOfHanded
    cases (sink.hand s (request.filesOf language rules)).refused <;> rfl

/-- A run with known answers hands the files of its plans to the sink. -/
theorem run_recorded_runLanguages (hsink : sink.IsSteady) (hlog : IsQuiet log)
    (answer : String → Except FetchError (List RawRule)) (request : Request)
    (languages : List String) (taken : Taken) (s : σ) :
    ((runLanguages (Source.ofAnswers answer) sink.recorded request log languages).run taken).run s =
      resultOfHanded (sink.hand s (filesBeforeFailure (languages.map (request.plan answer)))) taken
        (plannedSummaries (languages.map (request.plan answer))) := by
  induction languages generalizing taken s with
  | nil =>
    unfold resultOfHanded
    rw [List.map_nil, filesBeforeFailure, Sink.hand, List.append_nil]
    rfl
  | cons language rest ih =>
    have hfirst := run_recorded_runLanguage hsink hlog answer request language taken s
    rw [runLanguages, List.map_cons]
    cases hplan : request.plan answer language with
    | error e =>
      rw [hplan] at hfirst
      rw [run_recorded_bind hfirst, resultOfHanded, filesBeforeFailure, Sink.hand, List.append_nil]
      rfl
    | ok plan =>
      rw [hplan] at hfirst
      simp only at hfirst
      rw [filesBeforeFailure, plannedSummaries_ok_cons]
      generalize hplans : rest.map (request.plan answer) = plans at ih ⊢
      cases hrefused : (sink.hand s plan.files).refused with
      | some e =>
        -- The other languages are not reached.
        rw [run_recorded_bind hfirst, Sink.hand_append_of_refused hrefused, resultOfHanded,
          hrefused]
        rfl
      | none =>
        rw [resultOfHanded, hrefused, Sink.hand_of_taken hrefused] at hfirst
        rw [run_recorded_bind hfirst, Sink.hand_append_of_taken hrefused]
        have hrest := ih (taken ++ plan.files) (sink.storedAll s plan.files)
        refine (run_recorded_bind hrest _).trans ?_
        unfold resultOfHanded
        rw [List.append_assoc]
        cases (sink.hand (sink.storedAll s plan.files) (filesBeforeFailure plans)).refused with
        | some e => rfl
        | none => cases plannedSummaries plans <;> rfl

end Answers

/-! ## Records that grow -/

section Grows

variable {α β : Type}

def Grows (x : StateT Taken (StateM σ) α) : Prop :=
  ∀ taken s, taken <+: ((x.run taken).run s).1.2

theorem grows_pure (a : α) : Grows (pure a : StateT Taken (StateM σ) α) := fun _ _ =>
  List.prefix_rfl

theorem record_prefix_bind (x : StateT Taken (StateM σ) α) {f : α → StateT Taken (StateM σ) β}
    (hf : ∀ a, Grows (f a)) (taken : Taken) (s : σ) :
    ((x.run taken).run s).1.2 <+: (((x >>= f).run taken).run s).1.2 := by
  rw [run_recorded_bind (x := x) rfl]
  exact hf _ _ _

theorem Grows.bind {x : StateT Taken (StateM σ) α} {f : α → StateT Taken (StateM σ) β}
    (h : Grows x) (hf : ∀ a, Grows (f a)) : Grows (x >>= f) := fun taken s =>
  (h taken s).trans (record_prefix_bind x hf taken s)

theorem grows_write (sink : Sink (StateM σ)) (path : Path) (contents : String) :
    Grows (sink.recorded.write log path contents) := by
  intro taken s
  rcases hwrite : (sink.write (.quiet log.around) path contents).run s with ⟨_ | _, s'⟩
  · rw [run_recorded_write_error taken hwrite]
  · rw [run_recorded_write_ok taken hwrite]
    exact List.prefix_append taken _

def growing : Correspondence (StateT Taken (StateM σ)) (StateT Taken (StateM σ)) where
  rel x _ := Grows x
  rel_pure := grows_pure
  rel_bind := Grows.bind

theorem grows_runLanguages (hlog : IsQuiet log) (source : Source (StateM σ))
    (sink : Sink (StateM σ)) (request : Request) (languages : List String) :
    Grows (runLanguages source.recorded sink.recorded request log languages) := by
  have hreports : growing.Reports log.write log.write := fun entry _ => by
    rw [hlog entry]
    exact growing.rel_pure ()
  have hsource : growing.Fetches log.write log.write source.recorded source.recorded :=
    fun _ _ _ _ => List.prefix_rfl
  have hsink : growing.Hands log.write log.write sink.recorded sink.recorded :=
    fun _ path contents => grows_write sink path contents
  exact Correspondence.runLanguages hreports hsource hsink request log.around languages

end Grows

/-! ## Runs with the same answers -/

section Same

variable {answer : String → Except FetchError (List RawRule)}

/-- What a source answers in a state is known, and answering leaves the state as it is. -/
def AnswersIn (source : Source (StateM σ)) (s : σ) (language : String)
    (answer : Except FetchError (List RawRule)) : Prop :=
  ∀ around, (source.fetch (.quiet around) language).run s = (answer, s)

theorem ofAnswers_answersIn (answer : String → Except FetchError (List RawRule)) (s : σ)
    (language : String) : AnswersIn (Source.ofAnswers answer) s language (answer language) :=
  fun _ => rfl

theorem run_bind_congr {α β : Type} {x y : StateT Taken (StateM σ) α}
    (h : (x.run taken).run s = (y.run taken).run s) (f : α → StateT Taken (StateM σ) β) :
    ((x >>= f).run taken).run s = ((y >>= f).run taken).run s := by
  rw [StateT.run_bind, StateT.run_bind, StateT.run_bind, StateT.run_bind, h]

/-- A language is run as its answer says. -/
theorem run_recorded_runLanguage_eq (sink : Sink (StateM σ)) (request : Request)
    (hlog : IsQuiet log) {language : String}
    (h : AnswersIn source s language (answer language)) (taken : Taken) :
    ((runLanguage source.recorded sink.recorded request log language).run taken).run s =
      ((runLanguage (Source.ofAnswers answer) sink.recorded request log language).run
        taken).run s := by
  have hquiet := hlog.entered (request.mode.span language)
  rw [runLanguage, runLanguage, hlog.within, hlog.within]
  unfold runInside fetchRules
  simp only [hquiet.report, pure_bind]
  exact run_bind_congr (run_bind_congr (run_bind_of_run (h _) _) _) _

/-- Two sources that answer a language alike have the same run if they go on alike behind the files
of its plan. -/
theorem run_recorded_cons_congr (hsink : sink.IsSteady) (hlog : IsQuiet log) {language : String}
    (h : AnswersIn source s language (answer language))
    (h' : AnswersIn source' s language (answer language)) {rest : List String}
    (hrest : ∀ plan, request.plan answer language = .ok plan →
      (sink.hand s plan.files).refused = none →
      ((runLanguages source.recorded sink.recorded request log rest).run
          (taken ++ plan.files)).run (sink.storedAll s plan.files) =
        ((runLanguages source'.recorded sink.recorded request log rest).run
          (taken ++ plan.files)).run (sink.storedAll s plan.files)) :
    ((runLanguages source.recorded sink.recorded request log (language :: rest)).run taken).run s =
      ((runLanguages source'.recorded sink.recorded request log (language :: rest)).run
        taken).run s := by
  -- The first language comes to its plan with either source.
  have hfirst := run_recorded_runLanguage hsink hlog answer request language taken s
  have hrun := (run_recorded_runLanguage_eq sink request hlog h taken).trans hfirst
  have hrun' := (run_recorded_runLanguage_eq sink request hlog h' taken).trans hfirst
  rw [runLanguages, runLanguages]
  cases hplan : request.plan answer language with
  | error e =>
    rw [hplan] at hrun hrun'
    rw [run_recorded_bind hrun, run_recorded_bind hrun']
  | ok plan =>
    rw [hplan] at hrun hrun'
    simp only at hrun hrun'
    rw [run_recorded_bind hrun, run_recorded_bind hrun']
    cases hrefused : (sink.hand s plan.files).refused with
    | some e => rfl
    | none =>
      rw [Sink.hand_of_taken hrefused]
      exact run_bind_congr (hrest plan hplan hrefused) _

/-- Two sources that answer alike in every state that one of the runs passes through have the same
run. -/
theorem run_recorded_congr (holds : σ → Prop) (hsink : sink.IsSteady) (hlog : IsQuiet log)
    {languages : List String}
    (hanswer : ∀ s, holds s → ∀ language ∈ languages,
      AnswersIn source s language (answer language) ∧
        AnswersIn source' s language (answer language))
    (h : ∀ before, taken ++ before <+: (((runLanguages source.recorded sink.recorded request log
      languages).run taken).run s).1.2 → holds (sink.storedAll s before)) :
    ((runLanguages source.recorded sink.recorded request log languages).run taken).run s =
      ((runLanguages source'.recorded sink.recorded request log languages).run taken).run s := by
  -- The state that a language starts in is one that the run passes through, whatever its record is.
  induction languages generalizing taken s with
  | nil => rfl
  | cons language rest ih =>
    have hs : holds s := by
      refine h [] ?_
      rw [List.append_nil]
      exact grows_runLanguages hlog source sink request _ taken s
    obtain ⟨hsource, hsource'⟩ := hanswer s hs language List.mem_cons_self
    refine run_recorded_cons_congr hsink hlog hsource hsource' fun plan hplan hrefused =>
      ih (fun s hs other hother => hanswer s hs other (List.mem_cons_of_mem _ hother))
        fun before hbefore => ?_
    -- The rest goes on behind these files, and its record is part of that of the whole run.
    have hrun := (run_recorded_runLanguage_eq sink request hlog hsource taken).trans
      (run_recorded_runLanguage hsink hlog answer request language taken s)
    rw [hplan] at hrun
    simp only [Sink.hand_of_taken hrefused] at hrun
    rw [runLanguages, run_recorded_bind hrun] at h
    rw [← Sink.storedAll_append]
    refine h _ ?_
    rw [← List.append_assoc]
    refine hbefore.trans (record_prefix_bind _ (fun result => ?_) _ _)
    cases result <;> exact grows_pure _

/-- A run that stops at its first language, because there is no answer, is that of the answer. -/
theorem run_recorded_of_error (hsink : sink.IsSteady) (hlog : IsQuiet log) {language : String}
    {e : FetchError} (hanswer : answer language = .error e)
    (h : AnswersIn source s language (answer language)) (rest : List String) (taken : Taken) :
    ((runLanguages source.recorded sink.recorded request log (language :: rest)).run taken).run s =
      ((.error (.fetch e), taken), s) := by
  have hrun := run_recorded_runLanguage_eq sink request hlog h taken
  rw [run_recorded_runLanguage hsink hlog, Request.plan, canonicalRules, hanswer] at hrun
  exact run_recorded_bind hrun _

end Same

/-! ## Answers on the way -/

section Met

variable {answer : String → Except FetchError (List RawRule)}
  {answerIn : σ → String → Except FetchError (List RawRule)} {language : String}
  {languages rest : List String} {plan : Plan}

/-- Every language is answered as in the state that the planned files of those before it leave. -/
def AnswersMet (answerIn : σ → String → Except FetchError (List RawRule)) (sink : Sink (StateM σ))
    (request : Request) (s : σ) (languages : List String)
    (answer : String → Except FetchError (List RawRule)) : Prop :=
  ∀ before language, before ++ [language] <+: languages → answer language =
    answerIn (sink.storedAll s (filesBeforeFailure (before.map (request.plan answer)))) language

theorem AnswersMet.head (h : AnswersMet answerIn sink request s (language :: rest) answer) :
    answer language = answerIn s language :=
  h [] language (List.prefix_append [language] rest)

theorem AnswersMet.tail (h : AnswersMet answerIn sink request s (language :: rest) answer)
    (hplan : request.plan answer language = .ok plan) :
    AnswersMet answerIn sink request (sink.storedAll s plan.files) rest answer := by
  intro before other hbefore
  have hother := h (language :: before) other (List.prefix_append_right_inj [language] |>.2 hbefore)
  rwa [List.map_cons, hplan, filesBeforeFailure, Sink.storedAll_append] at hother

theorem AnswersMet.exists_state (h : AnswersMet answerIn sink request s languages answer)
    (hlanguage : language ∈ languages) : ∃ s', answer language = answerIn s' language := by
  obtain ⟨before, after, rfl⟩ := List.append_of_mem hlanguage
  refine ⟨_, h before language ⟨after, ?_⟩⟩
  rw [List.append_assoc, List.singleton_append]

/-- A language that is asked for once is answered once. -/
theorem exists_answersMet (answerIn : σ → String → Except FetchError (List RawRule))
    (sink : Sink (StateM σ)) (request : Request) (hdistinct : languages.Nodup) (s : σ) :
    ∃ answer, AnswersMet answerIn sink request s languages answer := by
  induction languages generalizing s with
  | nil =>
    exact ⟨answerIn s, fun before language h =>
      absurd (List.prefix_nil.1 h) (List.concat_ne_nil _ _)⟩
  | cons language rest ih =>
    obtain ⟨hnot, hrest⟩ := List.nodup_cons.1 hdistinct
    cases hplan : request.plan (answerIn s) language with
    | error e =>
      -- Nothing is written behind a missing plan, so the state stays what it is.
      refine ⟨answerIn s, fun before other hbefore => ?_⟩
      cases before with
      | nil => rfl
      | cons first before =>
        obtain ⟨rfl, -⟩ := List.cons_prefix_cons.1 hbefore
        rw [List.map_cons, hplan]
        rfl
    | ok plan =>
      obtain ⟨answer, hmet⟩ := ih hrest (sink.storedAll s plan.files)
      let updated := Function.update answer language (answerIn s language)
      have hlanguage : updated language = answerIn s language := Function.update_self ..
      have hother {other : String} (hmem : other ∈ rest) : updated other = answer other :=
        Function.update_of_ne (fun heq => hnot (by rwa [← heq])) ..
      refine ⟨updated, fun before other hbefore => ?_⟩
      cases before with
      | nil =>
        obtain ⟨rfl, -⟩ := List.cons_prefix_cons.1 hbefore
        exact hlanguage
      | cons first before =>
        obtain ⟨rfl, hbehind⟩ := List.cons_prefix_cons.1 hbefore
        have hmem := hbehind.subset
        have hplans : before.map (request.plan updated) = before.map (request.plan answer) :=
          List.map_congr_left fun other hin =>
            plan_congr request (hother (hmem (List.mem_append_left _ hin)))
        rw [List.map_cons, (plan_congr request hlanguage).trans hplan, filesBeforeFailure,
          Sink.storedAll_append, hplans,
          hother (hmem (List.mem_append_right _ (List.mem_singleton_self _)))]
        exact hmet before other hbehind

/-- A run with a source that changes nothing is the run with the answers that it meets. -/
theorem run_recorded_of_answersMet (hsink : sink.IsSteady) (hlog : IsQuiet log)
    (hanswer : ∀ s language, AnswersIn source s language (answerIn s language))
    (hmet : AnswersMet answerIn sink request s languages answer) (taken : Taken) :
    ((runLanguages source.recorded sink.recorded request log languages).run taken).run s =
      ((runLanguages (Source.ofAnswers answer).recorded sink.recorded request log languages).run
        taken).run s := by
  induction languages generalizing s taken with
  | nil => rfl
  | cons language rest ih =>
    exact run_recorded_cons_congr hsink hlog (hmet.head ▸ hanswer s language)
      (ofAnswers_answersIn answer s language) fun plan hplan _ => ih (hmet.tail hplan) _

end Met

/-! ## Whole runs -/

def Request.plans (request : Request) (answer : String → Except FetchError (List RawRule)) :
    List (Except Failure Plan) :=
  request.languages.map (request.plan answer)

/-- What a run comes to by its plans: their files are handed to the sink. -/
def outcome (sink : Sink (StateM σ)) (s : σ) (plans : List (Except Failure Plan)) :
    (Except Failure (List Summary) × Taken) × σ :=
  resultOfHanded (sink.hand s (filesBeforeFailure plans)) [] (plannedSummaries plans)

section Requests

variable {answer : String → Except FetchError (List RawRule)}
  {plans : List (Except Failure Plan)}

theorem run_eq_record (request : Request) (source : Source (StateM σ)) (sink : Sink (StateM σ))
    (s : σ) : (request.run source sink Logger.silent).run s =
      (((request.record source sink).run s).1.1, ((request.record source sink).run s).2) := by
  rw [← fst_record]
  rfl

theorem outcome_of_taken (h : (sink.hand s (filesBeforeFailure plans)).refused = none) :
    outcome sink s plans =
      ((plannedSummaries plans, filesBeforeFailure plans),
        sink.storedAll s (filesBeforeFailure plans)) := by
  rw [outcome, resultOfHanded, Sink.hand_of_taken h]
  rfl

theorem taken_of_outcome (h : ∀ e, (outcome sink s plans).1.1 ≠ .error (.write e)) :
    (sink.hand s (filesBeforeFailure plans)).refused = none := by
  rw [outcome, resultOfHanded] at h
  cases hrefused : (sink.hand s (filesBeforeFailure plans)).refused with
  | none => rfl
  | some e =>
    rw [hrefused] at h
    exact absurd rfl (h e)

/-- A run comes to the plans for the answers that it meets. -/
theorem run_recorded_eq_outcome_of_answersMet
    {answerIn : σ → String → Except FetchError (List RawRule)} (hsink : sink.IsSteady)
    (hlog : IsQuiet log)
    (hanswer : ∀ s language, AnswersIn source s language (answerIn s language))
    (hmet : AnswersMet answerIn sink request s request.languages answer) :
    ((request.run source.recorded sink.recorded log).run []).run s =
      outcome sink s (request.plans answer) := by
  have hsame := run_recorded_of_answersMet hsink hlog hanswer hmet []
  rw [recorded_ofAnswers] at hsame
  exact hsame.trans
    (run_recorded_runLanguages hsink hlog answer request request.languages [] s)

/-- A source whose answers stay the same in all states that its run passes through. -/
theorem run_recorded_eq_outcome (holds : σ → Prop) (hsink : sink.IsSteady) (hlog : IsQuiet log)
    (hanswer : ∀ s, holds s → ∀ language ∈ request.languages,
      AnswersIn source s language (answer language))
    (h : ∀ before, before <+: (((request.run source.recorded sink.recorded log).run []).run s).1.2 →
      holds (sink.storedAll s before)) :
    ((request.run source.recorded sink.recorded log).run []).run s =
      outcome sink s (request.plans answer) := by
  have hsame : ((request.run source.recorded sink.recorded log).run []).run s =
      ((request.run (Source.ofAnswers answer).recorded sink.recorded log).run []).run s :=
    run_recorded_congr holds hsink hlog (fun s hs language hlanguage =>
      ⟨hanswer s hs language hlanguage, ofAnswers_answersIn answer s language⟩) h
  rw [recorded_ofAnswers] at hsame
  exact hsame.trans
    (run_recorded_runLanguages hsink hlog answer request request.languages [] s)

/-- A source whose answers stay the same in all states that the run with these answers passes
through. -/
theorem run_recorded_eq_outcome_of_hand (holds : σ → Prop) (hsink : sink.IsSteady)
    (hlog : IsQuiet log)
    (hanswer : ∀ s, holds s → ∀ language ∈ request.languages,
      AnswersIn source s language (answer language))
    (h : ∀ before, before <+: (outcome sink s (request.plans answer)).1.2 →
      holds (sink.storedAll s before)) :
    ((request.run source.recorded sink.recorded log).run []).run s =
      outcome sink s (request.plans answer) := by
  have hplanned :=
    run_recorded_runLanguages hsink hlog answer request request.languages [] s
  have hsame : ((request.run (Source.ofAnswers answer).recorded sink.recorded log).run []).run s =
      ((request.run source.recorded sink.recorded log).run []).run s := by
    refine run_recorded_congr holds hsink hlog (fun s hs language hlanguage =>
      ⟨ofAnswers_answersIn answer s language, hanswer s hs language hlanguage⟩) ?_
    rw [recorded_ofAnswers, hplanned]
    exact h
  rw [recorded_ofAnswers] at hsame
  exact hsame.symm.trans hplanned

end Requests

end Run

end Rulebook
