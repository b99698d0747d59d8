import Rulebook.Proofs.Run.Record

/-!
Transcripts of runs: every answer of the source and every file that the sink took, in one order.
Source and sink may be anything that goes on from a state; they may share it, and answer the same
question differently the next time. A run that succeeds has visited its languages one after the
other: each time it was given raw rules, all of them sound, and handed on the files of the canonical
ones. What is reported on the way is no step, though a report may go on from the same state.
-/

namespace Rulebook

open Rulebook.Catalog (Source FetchError)
open Rulebook.Log (Logger Entry Event)

namespace Run

inductive Step where
  | fetched (language : String) (raws : List RawRule)
  | wrote (path : Path) (contents : String)

def Step.ofFile (file : Path × String) : Step := .wrote file.1 file.2

variable {m : Type → Type} [Monad m] {ε : Type}

/-- Notes a step behind the others if a computation has a value. -/
def noting {α : Type} (x : m (Except ε α)) (step : α → Step) :
    StateT (List Step) m (Except ε α) := fun steps => do
  match ← x with
  | .error e => return (.error e, steps)
  | .ok a => return (.ok a, steps ++ [step a])

end Run

variable {m : Type → Type} [Monad m]

open Rulebook.Run (Step noting)

def Catalog.Source.transcribed (source : Source m) : Source (StateT (List Step) m) where
  fetch log language := noting (source.fetch (.quiet log.around) language) (.fetched language)

def Sink.transcribed (sink : Sink m) : Sink (StateT (List Step) m) where
  write log path contents :=
    noting (sink.write (.quiet log.around) path contents) fun _ => .wrote path contents

/-- The same source, which notes its answers, with a log that does not know of that. -/
def Catalog.Source.noted (source : Source m) (write : Entry → m Unit) :
    Source (StateT (List Step) m) where
  fetch log language := noting (source.fetch ⟨log.around, write⟩ language) (.fetched language)

def Sink.noted (sink : Sink m) (write : Entry → m Unit) : Sink (StateT (List Step) m) where
  write log path contents :=
    noting (sink.write ⟨log.around, write⟩ path contents) fun _ => .wrote path contents

def Log.Logger.noted (log : Logger m) : Logger (StateT (List Step) m) := log.lift StateT.lift

namespace Run

def Request.transcript (request : Request) (source : Source m) (sink : Sink m) :
    m (Except Failure (List Summary) × List Step) :=
  (request.run source.transcribed sink.transcribed Logger.silent).run []

def Request.transcriptWith (request : Request) (source : Source m) (sink : Sink m)
    (log : Logger m) : m (Except Failure (List Summary) × List Step) :=
  (request.run (source.noted log.write) (sink.noted log.write) log.noted).run []

/-! ## A transcript changes nothing -/

@[simp] theorem fst_run_noting [LawfulMonad m] {ε α : Type} (x : m (Except ε α)) (step : α → Step)
    (steps : List Step) : Prod.fst <$> (noting x step).run steps = x := by
  show Prod.fst <$> (x >>= _) = x
  rw [map_bind]
  refine Eq.trans ?_ (bind_pure x)
  congr 1
  funext result
  cases result with
  | error e => exact map_pure _ _
  | ok a => exact map_pure _ _

theorem fst_transcriptWith [LawfulMonad m] (request : Request) (source : Source m) (sink : Sink m)
    (log : Logger m) :
    Prod.fst <$> request.transcriptWith source sink log = request.run source sink log := by
  have hreports : recording.Reports log.noted.write log.write := fun entry _ steps => by
    show Prod.fst <$> (StateT.lift (log.write entry)).run steps = _
    simp
  have hsource : recording.Fetches log.noted.write log.write (source.noted log.write) source :=
    fun _ language steps => fst_run_noting _ (.fetched language) steps
  have hsink : recording.Hands log.noted.write log.write (sink.noted log.write) sink :=
    fun _ path contents steps => fst_run_noting _ (fun _ => .wrote path contents) steps
  exact Correspondence.runLanguages hreports hsource hsink request log.around request.languages []

/-! ## Steps of a computation that succeeds -/

section State

variable {σ ε ε' α β γ : Type} {x : StateT (List Step) (StateM σ) (Except ε α)}
  {f : Except ε α → StateT (List Step) (StateM σ) (Except ε' β)} {P : α → List Step → Prop}
  {Q : β → List Step → Prop}

/-- Whenever the computation has a value, it has put steps behind those before it, and the value
and these steps are as they should be. -/
def Yields (x : StateT (List Step) (StateM σ) (Except ε α)) (P : α → List Step → Prop) : Prop :=
  ∀ (before : List Step) (s : σ) (a : α) (after : List Step) (s' : σ),
    (x.run before).run s = ((.ok a, after), s') → ∃ steps, after = before ++ steps ∧ P a steps

def Fails (x : StateT (List Step) (StateM σ) (Except ε α)) : Prop := Yields x fun _ _ => False

theorem fails_error (e : ε) : Fails (pure (.error e) : StateT _ (StateM σ) (Except ε α)) := by
  intro before s a after s' hrun
  cases hrun

namespace Yields

theorem ok {a : α} (h : P a []) : Yields (pure (.ok a) : StateT _ (StateM σ) (Except ε α)) P := by
  intro before s a' after s' hrun
  cases hrun
  exact ⟨[], (List.append_nil before).symm, h⟩

theorem imp {P' : α → List Step → Prop} (h : Yields x P) (hP : ∀ a steps, P a steps → P' a steps) :
    Yields x P' := by
  intro before s a after s' hrun
  obtain ⟨steps, hafter, hsteps⟩ := h before s a after s' hrun
  exact ⟨steps, hafter, hP a steps hsteps⟩

/-- What takes no notes adds no steps. -/
theorem lift_bind {y : StateM σ γ} {g : γ → StateT (List Step) (StateM σ) (Except ε α)}
    (h : ∀ c, Yields (g c) P) : Yields (StateT.lift y >>= g) P := by
  intro before s a after s' hrun
  exact h (y.run s).1 before (y.run s).2 a after s' hrun

/-- After a failure there is no value either, and the steps of the second computation come behind
those of the first. -/
theorem bind (h : Yields x P) (herror : ∀ e, Fails (f (.error e)))
    (hok : ∀ a steps, P a steps → Yields (f (.ok a)) fun b more => Q b (steps ++ more)) :
    Yields (x >>= f) Q := by
  intro before s b after s' hrun
  obtain ⟨⟨⟨result, middle⟩, s₁⟩, hx⟩ : ∃ outcome, (x.run before).run s = outcome := ⟨_, rfl⟩
  rw [run_recorded_bind hx] at hrun
  cases result with
  | error e =>
    -- Whatever was noted before the failure, no value comes of it.
    obtain ⟨-, -, hfalse⟩ := herror e middle s₁ b after s' hrun
    exact hfalse.elim
  | ok a =>
    obtain ⟨steps, rfl, hsteps⟩ := h before s a middle s₁ hx
    obtain ⟨more, rfl, hmore⟩ := hok a steps hsteps _ s₁ b after s' hrun
    exact ⟨steps ++ more, List.append_assoc before steps more, hmore⟩

end Yields

theorem yields_noting (x : StateM σ (Except ε α)) (step : α → Step) :
    Yields (noting x step) fun a steps => steps = [step a] := by
  intro before s a after s' hrun
  obtain ⟨⟨result, s₁⟩, hx⟩ : ∃ outcome, x.run s = outcome := ⟨_, rfl⟩
  change (x >>= _).run s = _ at hrun
  rw [run_bind_of_run hx] at hrun
  cases result with
  | error e => cases hrun
  | ok a =>
    cases hrun
    exact ⟨[step a], rfl, rfl⟩

/-! ## Reports add no steps -/

section Reports

variable {log : Logger (StateM σ)}

theorem Yields.report {g : Unit → StateT (List Step) (StateM σ) (Except ε α)} (event : Event)
    (h : Yields (g ()) P) : Yields (log.noted.report event >>= g) P :=
  .lift_bind fun _ => h

@[simp] theorem reportAll_noted (events : List Event) :
    log.noted.reportAll events = StateT.lift (log.reportAll events) := by
  induction events with
  | nil => exact (lift_pure ()).symm
  | cons event rest ih =>
    rw [Logger.reportAll, Logger.reportAll, lift_bind, ih]
    rfl

theorem Yields.reportAll {g : Unit → StateT (List Step) (StateM σ) (Except ε α)}
    (events : List Event) (h : Yields (g ()) P) : Yields (log.noted.reportAll events >>= g) P := by
  rw [reportAll_noted]
  exact .lift_bind fun _ => h

/-- The end of a span is reported after a failure too, which remains one. -/
theorem Yields.within {span : Log.Span}
    {body : Logger (StateT (List Step) (StateM σ)) →
      StateT (List Step) (StateM σ) (Except ε α)}
    (h : Yields (body (log.entered span).noted) P) : Yields (log.noted.within span body) P := by
  refine Yields.bind (x := body (log.entered span).noted) h (fun e => ?_) fun a steps hsteps => ?_
  · exact .lift_bind fun _ => fails_error e
  · refine .lift_bind fun _ => .ok ?_
    rw [List.append_nil]
    exact hsteps

end Reports

end State

/-! ## Runs -/

/-- One language of a run: what the source answered, and the canonical rules. -/
structure Visit where
  language : String
  raws : List RawRule
  rules : List Rule

namespace Visit

def steps (request : Request) (visit : Visit) : List Step :=
  .fetched visit.language visit.raws ::
    (request.filesOf visit.language visit.rules).map .ofFile

def IsSound (visit : Visit) : Prop :=
  RawRule.normalizeAll visit.language visit.raws = .ok visit.rules

def summary (request : Request) (visit : Visit) : Summary :=
  (request.planOf visit.language visit.rules).summary

end Visit

section Runs

variable {σ : Type} {source : Source (StateM σ)} {sink : Sink (StateM σ)} {log : Logger (StateM σ)}
  {write : Entry → StateM σ Unit}

theorem yields_writeAll (log : Logger (StateT (List Step) (StateM σ)))
    (files : List (Path × String)) :
    Yields (writeAll (sink.noted write) log files) fun _ steps => steps = files.map .ofFile := by
  induction files with
  | nil => exact .ok rfl
  | cons file rest ih =>
    refine (yields_noting _ _).bind (fun e => fails_error _) fun u steps hsteps => ?_
    refine ih.imp fun u more hmore => ?_
    rw [hsteps, hmore]
    rfl

theorem yields_fetchRules (language : String) :
    Yields (fetchRules (source.noted write) log.noted language) fun rules steps => ∃ raws,
      steps = [.fetched language raws] ∧ RawRule.normalizeAll language raws = .ok rules := by
  refine (yields_noting _ _).bind (fun e => fails_error _) fun raws steps hsteps => ?_
  refine .report _ (.reportAll _ ?_)
  cases hrules : RawRule.normalizeAll language raws with
  | error e => exact fun _ _ _ _ _ hrun => by cases hrun
  | ok rules =>
    rw [hsteps]
    exact .report _ (.ok ⟨raws, rfl, hrules⟩)

theorem yields_runLanguage (request : Request) (language : String) :
    Yields (runLanguage (source.noted write) (sink.noted write) request log.noted language)
      fun summary steps => ∃ visit : Visit, visit.language = language ∧ visit.IsSound ∧
        steps = visit.steps request ∧ summary = visit.summary request := by
  -- Without what it reports, the run of a language fetches and then writes.
  refine .within (.report _ ?_)
  refine (yields_fetchRules language).bind (fun e => fails_error _) fun rules steps hfetched => ?_
  obtain ⟨raws, rfl, hrules⟩ := hfetched
  refine .report _ ?_
  refine (yields_writeAll _ _).bind (fun e => fails_error _) fun u wrote hwrote => .report _ ?_
  rw [hwrote, placed_batch, emitted_batch, activations_batch]
  refine .ok ⟨⟨language, raws, rules⟩, rfl, hrules, ?_, rfl⟩
  rw [List.append_nil]
  rfl

theorem yields_runLanguages (request : Request) (languages : List String) :
    Yields (runLanguages (source.noted write) (sink.noted write) request log.noted languages)
      fun summaries steps => ∃ visits : List Visit, visits.map (·.language) = languages ∧
        (∀ visit ∈ visits, visit.IsSound) ∧ steps = visits.flatMap (·.steps request) ∧
        summaries = visits.map (·.summary request) := by
  induction languages with
  | nil => exact .ok ⟨[], rfl, List.forall_mem_nil _, rfl, rfl⟩
  | cons language rest ih =>
    refine (yields_runLanguage request language).bind (fun e => fails_error _)
      fun summary steps hfirst => ?_
    obtain ⟨visit, rfl, hsound, rfl, rfl⟩ := hfirst
    refine ih.bind (fun e => fails_error _) fun summaries more hrest => ?_
    obtain ⟨visits, hlanguages, hvisits, rfl, rfl⟩ := hrest
    refine .ok ⟨visit :: visits, ?_, List.forall_mem_cons.2 ⟨hsound, hvisits⟩, ?_, rfl⟩
    · rw [List.map_cons, hlanguages]
    · rw [List.append_nil, List.flatMap_cons]

/-- A run that succeeds has visited all of its languages, and has done nothing else but report. -/
theorem transcriptWith_of_run {request : Request} {s s' : σ} {summaries : List Summary}
    (h : (request.run source sink log).run s = (.ok summaries, s')) :
    ∃ visits : List Visit, visits.map (·.language) = request.languages ∧
      (∀ visit ∈ visits, visit.IsSound) ∧ summaries = visits.map (·.summary request) ∧
      (request.transcriptWith source sink log).run s =
        ((.ok summaries, visits.flatMap (·.steps request)), s') := by
  obtain ⟨⟨⟨result, steps⟩, s₁⟩, hrun⟩ : ∃ outcome,
      (request.transcriptWith source sink log).run s = outcome := ⟨_, rfl⟩
  -- The run with a transcript succeeds as well, since it results in the same.
  rw [← fst_transcriptWith, StateT.run_map, hrun] at h
  cases h
  obtain ⟨_, rfl, visits, hlanguages, hsound, rfl, hsummaries⟩ :=
    yields_runLanguages request request.languages [] s summaries steps _ hrun
  exact ⟨visits, hlanguages, hsound, hsummaries, hrun⟩

theorem transcript_of_run {request : Request} {s : σ} {summaries : List Summary}
    (h : ((request.run source sink Logger.silent).run s).1 = .ok summaries) :
    ∃ visits : List Visit, visits.map (·.language) = request.languages ∧
      (∀ visit ∈ visits, visit.IsSound) ∧ summaries = visits.map (·.summary request) ∧
      ((request.transcript source sink).run s).1 =
        (.ok summaries, visits.flatMap (·.steps request)) := by
  obtain ⟨visits, hlanguages, hsound, hsummaries, htranscript⟩ :=
    transcriptWith_of_run (Prod.ext h rfl)
  exact ⟨visits, hlanguages, hsound, hsummaries, congrArg Prod.fst htranscript⟩

end Runs

end Run

end Rulebook
