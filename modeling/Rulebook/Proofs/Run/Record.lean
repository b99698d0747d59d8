import Rulebook.Proofs.Run.Correspondence
import Rulebook.Proofs.Run.Plan

/-!
Records of runs. A run may be recorded whatever its source and its sink are: the record lists what
the sink took, in order. Recording changes nothing else about a run.
-/

namespace Rulebook

open Rulebook.Catalog (Source FetchError)
open Rulebook.Log (Logger)
open Rulebook.Sink (Taken)

variable {m : Type → Type} [Monad m]

def Log.Logger.quiet (around : List Log.Span) : Logger m := ⟨around, fun _ => pure ()⟩

def Catalog.Source.recorded (source : Source m) : Source (StateT Taken m) where
  fetch log language := StateT.lift (source.fetch (.quiet log.around) language)

def Sink.recorded (sink : Sink m) : Sink (StateT Taken m) where
  write log path contents := fun taken => do
    match ← sink.write (.quiet log.around) path contents with
    | .error e => return (.error e, taken)
    | .ok () => return (.ok (), taken ++ [(path, contents)])

section Lifts

variable {n : Type → Type} [Monad n] [LawfulMonad n] {ρ α β : Type}

@[simp] theorem lift_pure (a : α) : (StateT.lift (pure a) : StateT ρ n α) = pure a := by
  funext s
  exact pure_bind a _

theorem lift_bind (x : n α) (f : α → n β) :
    (StateT.lift (x >>= f) : StateT ρ n β) = StateT.lift x >>= fun a => StateT.lift (f a) := by
  funext s
  show (x >>= f) >>= _ = (x >>= fun a => pure (a, s)) >>= fun p => f p.1 >>= fun b => pure (b, p.2)
  simp only [bind_assoc, pure_bind]

end Lifts

namespace Run

/-- What a run results in, and what its sink took. -/
def Request.record (request : Request) (source : Source m) (sink : Sink m) :
    m (Except Failure (List Summary) × Taken) :=
  (request.run source.recorded sink.recorded Logger.silent).run []

/-! ## Recording changes nothing -/

section Plain

variable {source : Source m} {sink : Sink m}

theorem isQuiet_quiet (around : List Log.Span) : IsQuiet (.quiet around : Logger m) := fun _ => rfl

variable {ρ : Type} [LawfulMonad m]

theorem fst_run_bind {α β : Type} {x : StateT ρ m α} {f : α → StateT ρ m β} {y : m α}
    {g : α → m β} (hx : ∀ kept, Prod.fst <$> x.run kept = y)
    (hf : ∀ a kept, Prod.fst <$> (f a).run kept = g a) (kept : ρ) :
    Prod.fst <$> (x >>= f).run kept = y >>= g := by
  rw [StateT.run_bind, map_bind, ← hx kept, bind_map_left]
  congr 1
  funext result
  exact hf result.1 result.2

@[simp] theorem fst_run_pure {α : Type} (a : α) (kept : ρ) :
    Prod.fst <$> (pure a : StateT ρ m α).run kept = pure a := by
  rw [StateT.run_pure, map_pure]

theorem fst_run_write (around : List Log.Span) (path : Path) (contents : String) (taken : Taken) :
    Prod.fst <$> (sink.recorded.write (.quiet around) path contents).run taken =
      sink.write (.quiet around) path contents := by
  show Prod.fst <$> (sink.write (.quiet around) path contents >>= _) = _
  rw [map_bind]
  refine Eq.trans ?_ (bind_pure _)
  congr 1
  funext result
  cases result with
  | error e => exact map_pure _ _
  | ok u => exact map_pure _ _

theorem fst_run_fetch (around : List Log.Span) (language : String) (taken : Taken) :
    Prod.fst <$> (source.recorded.fetch (.quiet around) language).run taken =
      source.fetch (.quiet around) language := by
  show Prod.fst <$> (StateT.lift (source.fetch (.quiet around) language)).run taken = _
  simp

/-- Computations that keep a record of any kind, and what they are without it. -/
def recording : Correspondence (StateT ρ m) m where
  rel x y := ∀ kept, Prod.fst <$> x.run kept = y
  rel_pure := fst_run_pure
  rel_bind := fst_run_bind

theorem reports_recording :
    (recording : Correspondence (StateT ρ m) m).Reports (fun _ => pure ()) (fun _ => pure ()) :=
  fun _ _ => recording.rel_pure ()

@[simp] theorem fst_record (request : Request) (source : Source m) (sink : Sink m) :
    Prod.fst <$> request.record source sink = request.run source sink Logger.silent := by
  have hsource : recording.Fetches (fun _ => pure ()) (fun _ => pure ()) source.recorded source :=
    fst_run_fetch
  have hsink : recording.Hands (fun _ => pure ()) (fun _ => pure ()) sink.recorded sink :=
    fst_run_write
  exact Correspondence.runLanguages reports_recording hsource hsink request [] request.languages []

end Plain

@[simp]
theorem recorded_ofAnswers [LawfulMonad m] (answer : String → Except FetchError (List RawRule)) :
    (Source.ofAnswers answer : Source m).recorded = Source.ofAnswers answer := by
  unfold Source.recorded Source.ofAnswers
  congr 1
  funext log language taken
  exact pure_bind (answer language) fun result => pure (result, taken)

/-! ## Sinks with a state -/

section State

variable {σ ρ : Type} {sink : Sink (StateM σ)} {log : Logger (StateT Taken (StateM σ))}
  {path : Path} {contents : String} {s s' : σ}

theorem run_recorded_write_ok (taken : Taken)
    (h : (sink.write (.quiet log.around) path contents).run s = (.ok (), s')) :
    ((sink.recorded.write log path contents).run taken).run s =
      ((.ok (), taken ++ [(path, contents)]), s') := by
  show (sink.write (.quiet log.around) path contents >>= _).run s = _
  rw [StateT.run_bind, h]
  rfl

theorem run_recorded_write_error {e : WriteError} (taken : Taken)
    (h : (sink.write (.quiet log.around) path contents).run s = (.error e, s')) :
    ((sink.recorded.write log path contents).run taken).run s = ((.error e, taken), s') := by
  show (sink.write (.quiet log.around) path contents >>= _).run s = _
  rw [StateT.run_bind, h]
  rfl

theorem run_recorded_bind {α β : Type} {x : StateT ρ (StateM σ) α} {a : α} {kept kept' : ρ}
    (h : (x.run kept).run s = ((a, kept'), s')) (f : α → StateT ρ (StateM σ) β) :
    ((x >>= f).run kept).run s = ((f a).run kept').run s' := by
  rw [StateT.run_bind]
  exact run_bind_of_run h _

end State

end Run

end Rulebook
