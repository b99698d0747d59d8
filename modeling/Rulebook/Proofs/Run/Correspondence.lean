import Rulebook.Catalog.Checkout
import Rulebook.Run.Basic

/-!
Runs in two monads. A run reads files, reports what it does, and hands files to a sink. Two runs of
the same request correspond if reading, reporting and handing do, whatever else the two monads can
do.
-/

namespace Rulebook

open Rulebook.Catalog (Source RulePlace)
open Rulebook.Log (Logger Entry Event)

def Log.Entry.area (entry : Entry) : Log.Area :=
  match entry.occurrence with
  | .event event => event.area
  | .closed span => span.area

/-- A relation between the computations of two monads that composing them keeps. -/
structure Correspondence (m n : Type → Type) [Monad m] [Monad n] where
  rel : {α : Type} → m α → n α → Prop
  rel_pure : {α : Type} → (a : α) → rel (pure a) (pure a)
  rel_bind : {α β : Type} → {x : m α} → {y : n α} → {f : α → m β} → {g : α → n β} →
    rel x y → (∀ a, rel (f a) (g a)) → rel (x >>= f) (y >>= g)

namespace Correspondence

variable {m n : Type → Type} [Monad m] [Monad n] (R : Correspondence m n)

/-- The rule for a result that may be a failure. -/
theorem rel_bind_result {ε α β : Type} {x : m (Except ε α)} {y : n (Except ε α)}
    {f : Except ε α → m β} {g : Except ε α → n β} (h : R.rel x y)
    (herror : ∀ e, R.rel (f (.error e)) (g (.error e)))
    (hok : ∀ a, R.rel (f (.ok a)) (g (.ok a))) : R.rel (x >>= f) (y >>= g) := by
  refine R.rel_bind h fun result => ?_
  cases result with
  | error e => exact herror e
  | ok a => exact hok a

/-! ## What runs are made of -/

structure Reads (host : Host m) (host' : Host n) : Prop where
  isDirectory : ∀ p, R.rel (host.isDirectory p) (host'.isDirectory p)
  isFile : ∀ p, R.rel (host.isFile p) (host'.isFile p)
  list : ∀ p, R.rel (host.list p) (host'.list p)
  read : ∀ p, R.rel (host.read p) (host'.read p)

structure Changes (host : Host m) (host' : Host n) : Prop extends Reads R host host' where
  makeDirectory : ∀ p, R.rel (host.makeDirectory p) (host'.makeDirectory p)
  write : ∀ p contents, R.rel (host.write p contents) (host'.write p contents)

/-- Reporting whatever does not come from a sink corresponds. -/
def Reports (write : Entry → m Unit) (write' : Entry → n Unit) : Prop :=
  ∀ entry, entry.area ≠ .sink → R.rel (write entry) (write' entry)

def Fetches (write : Entry → m Unit) (write' : Entry → n Unit) (source : Source m)
    (source' : Source n) : Prop :=
  ∀ around language, R.rel (source.fetch ⟨around, write⟩ language)
    (source'.fetch ⟨around, write'⟩ language)

def Hands (write : Entry → m Unit) (write' : Entry → n Unit) (sink : Sink m) (sink' : Sink n) :
    Prop :=
  ∀ around path contents, R.rel (sink.write ⟨around, write⟩ path contents)
    (sink'.write ⟨around, write'⟩ path contents)

section Logs

variable {R} {write : Entry → m Unit} {write' : Entry → n Unit} (h : R.Reports write write')
  (around : List Log.Span)

include h

theorem report {event : Event} (hevent : event.area ≠ .sink) :
    R.rel ((⟨around, write⟩ : Logger m).report event)
      ((⟨around, write'⟩ : Logger n).report event) := h _ hevent

theorem reportAll {events : List Event} (hevents : ∀ event ∈ events, event.area ≠ .sink) :
    R.rel ((⟨around, write⟩ : Logger m).reportAll events)
      ((⟨around, write'⟩ : Logger n).reportAll events) := by
  induction events with
  | nil => exact R.rel_pure ()
  | cons event rest ih =>
    refine R.rel_bind (report h around (hevents event List.mem_cons_self)) fun u => ?_
    exact ih fun other hother => hevents other (List.mem_cons_of_mem event hother)

theorem within {α : Type} {span : Log.Span} (hspan : span.area ≠ .sink) {body : Logger m → m α}
    {body' : Logger n → n α}
    (hbody : R.rel (body ⟨around ++ [span], write⟩) (body' ⟨around ++ [span], write'⟩)) :
    R.rel ((⟨around, write⟩ : Logger m).within span body)
      ((⟨around, write'⟩ : Logger n).within span body') :=
  R.rel_bind hbody fun a => R.rel_bind (h _ hspan) fun _ => R.rel_pure a

end Logs

/-! ## Fetching from a directory -/

theorem area_of_mem_ruleEvents {language : String} {raw : RawRule} {event : Event}
    (h : event ∈ Catalog.ruleEvents language raw) : event.area ≠ .sink := by
  rcases List.mem_append.1 h with hevent | hevent
  · split at hevent
    · rw [List.mem_singleton.1 hevent]
      exact nofun
    · exact absurd hevent List.not_mem_nil
  · rw [List.mem_singleton.1 hevent]
    exact nofun

section Checkout

variable {R} {host : Host m} {host' : Host n} (hread : R.Reads host host')

include hread

theorem readText (p : Path) : R.rel (host.readText p) (host'.readText p) := by
  refine R.rel_bind_result (hread.read p) (fun cause => R.rel_pure _) fun bytes => ?_
  simp only
  cases Text.Utf8.decode? bytes <;> exact R.rel_pure _

theorem readOptional (p : Path) :
    R.rel (Catalog.readOptional host p) (Catalog.readOptional host' p) := by
  refine R.rel_bind_result (readText hread p) (fun cause => ?_) fun text => R.rel_pure _
  cases cause <;> exact R.rel_pure _

theorem fetchRule (place : RulePlace) :
    R.rel (Catalog.fetchRule host place) (Catalog.fetchRule host' place) := by
  unfold Catalog.fetchRule
  cases Text.Utf8.decode? place.name with
  | none => exact R.rel_pure _
  | some key =>
    have hshared : R.rel (Catalog.sharedMembers host place.shared)
        (Catalog.sharedMembers host' place.shared) := by
      refine R.rel_bind_result (readOptional hread place.shared) (fun e => R.rel_pure _)
        fun text => ?_
      cases text <;> exact R.rel_pure _
    have hrequired : R.rel (Catalog.readRequired host place.manifest)
        (Catalog.readRequired host' place.manifest) :=
      R.rel_bind_result (readText hread place.manifest) (fun cause => R.rel_pure _)
        fun text => R.rel_pure _
    have hown : R.rel (Catalog.ownMembers host place.manifest)
        (Catalog.ownMembers host' place.manifest) :=
      R.rel_bind_result hrequired (fun e => R.rel_pure _) fun text => R.rel_pure _
    have hdocumentation := readOptional hread place.documentation
    -- The three files of a rule are read one after the other.
    refine R.rel_bind_result hshared (fun e => R.rel_pure _) fun shared => ?_
    refine R.rel_bind_result hown (fun e => R.rel_pure _) fun own => ?_
    exact R.rel_bind_result hdocumentation (fun e => R.rel_pure _) fun text => R.rel_pure _

theorem directoriesAmong (rules : Path) (names : List (List UInt8)) :
    R.rel (Catalog.directoriesAmong host rules names)
      (Catalog.directoriesAmong host' rules names) := by
  induction names with
  | nil => exact R.rel_pure _
  | cons name rest ih =>
    refine R.rel_bind (hread.isDirectory _) fun isDirectory => ?_
    exact R.rel_bind ih fun others => R.rel_pure _

theorem ruleNames (rules : Path) :
    R.rel (Catalog.ruleNames host rules) (Catalog.ruleNames host' rules) := by
  refine R.rel_bind (hread.isDirectory rules) fun isDirectory => ?_
  cases isDirectory with
  | false => exact R.rel_pure _
  | true =>
    refine R.rel_bind_result (hread.list rules) (fun e => R.rel_pure _) fun names => ?_
    exact R.rel_bind (directoriesAmong hread rules _) fun names => R.rel_pure _

variable {write : Entry → m Unit} {write' : Entry → n Unit} (h : R.Reports write write')

include h

theorem fetchRules (around : List Log.Span) (language : String) (places : List RulePlace) :
    R.rel (Catalog.fetchRules host ⟨around, write⟩ language places)
      (Catalog.fetchRules host' ⟨around, write'⟩ language places) := by
  induction places with
  | nil => exact R.rel_pure _
  | cons place rest ih =>
    refine R.rel_bind (hread.isFile place.manifest) fun isFile => ?_
    cases isFile with
    | false => exact ih
    | true =>
      refine R.rel_bind_result (fetchRule hread place) (fun e => R.rel_pure _) fun raw => ?_
      refine R.rel_bind (reportAll h around fun event => area_of_mem_ruleEvents) fun u => ?_
      exact R.rel_bind_result ih (fun e => R.rel_pure _) fun raws => R.rel_pure _

theorem fetches_checkout (rules : Path) :
    R.Fetches write write' (Catalog.checkout host rules) (Catalog.checkout host' rules) := by
  intro around language
  refine R.rel_bind_result (ruleNames hread rules) (fun e => R.rel_pure _) fun names => ?_
  refine R.rel_bind_result (fetchRules hread h around language _) (fun e => R.rel_pure _)
    fun raws => ?_
  exact R.rel_bind (report h around nofun) fun u => R.rel_pure _

end Checkout

/-! ## Handing to sinks -/

section Sinks

variable {R} {host : Host m} {host' : Host n} {write : Entry → m Unit} {write' : Entry → n Unit}

theorem makeDirectories (h : R.Changes host host') (ps : List Path) :
    R.rel (host.makeDirectories ps) (host'.makeDirectories ps) := by
  have haccept (p : Path) (result : Except IoError Unit) :
      R.rel (Host.makeDirectories.accept host p result)
        (Host.makeDirectories.accept host' p result) := by
    cases result with
    | ok u => exact R.rel_pure _
    | error cause =>
      refine R.rel_bind (h.isDirectory p) fun isDirectory => ?_
      cases isDirectory <;> exact R.rel_pure _
  induction ps with
  | nil => exact R.rel_pure _
  | cons p parents ih =>
    refine R.rel_bind_result (h.makeDirectory p) (fun cause => ?_) fun u => R.rel_pure _
    cases cause with
    | notFound =>
      refine R.rel_bind_result ih (fun cause => R.rel_pure _) fun u => ?_
      exact R.rel_bind (h.makeDirectory p) fun result => haccept p result
    | _ => exact haccept p _

theorem makeParent (h : R.Changes host host') (path : Path) :
    R.rel (Sink.makeParent host path) (Sink.makeParent host' path) := by
  unfold Sink.makeParent
  cases path.parent? with
  | none => exact R.rel_pure _
  | some parent =>
    by_cases hempty : parent.isEmpty
    · simp only [hempty, if_true]
      exact R.rel_pure _
    · simp only [hempty]
      exact R.rel_bind_result (makeDirectories h parent.ancestors) (fun cause => R.rel_pure _)
        fun u => R.rel_pure _

theorem hands_disk (h : R.Changes host host')
    (hwrite : ∀ entry, R.rel (write entry) (write' entry)) :
    R.Hands write write' (Sink.disk host) (Sink.disk host') := by
  intro around path contents
  refine R.rel_bind_result (makeParent h path) (fun e => R.rel_pure _) fun u => ?_
  refine R.rel_bind_result (h.write path _) (fun cause => R.rel_pure _) fun u => ?_
  exact R.rel_bind (hwrite _) fun u => R.rel_pure _

theorem hands_dryRun (hwrite : ∀ entry, R.rel (write entry) (write' entry)) :
    R.Hands write write' Sink.dryRun Sink.dryRun := by
  intro around path contents
  exact R.rel_bind (hwrite _) fun u => R.rel_pure _

end Sinks

/-! ## Runs -/

section Runs

variable {R} {write : Entry → m Unit} {write' : Entry → n Unit} {source : Source m}
  {source' : Source n} {sink : Sink m} {sink' : Sink n}

theorem area_of_mem_normalizationReport {language : String} {raws : List RawRule} {event : Event}
    (h : event ∈ Run.normalizationReport language raws) : event.area ≠ .sink := by
  induction raws with
  | nil => exact absurd h List.not_mem_nil
  | cons raw rest ih =>
    have hraw (hevent : event ∈ Run.normalizationEvents language raw) : event.area ≠ .sink := by
      unfold Run.normalizationEvents at hevent
      rcases List.mem_append.1 hevent with hevent | hevent
      · split at hevent
        · rw [List.mem_singleton.1 hevent]
          exact nofun
        · exact absurd hevent List.not_mem_nil
      · split at hevent
        · rw [List.mem_singleton.1 hevent]
          exact nofun
        · exact absurd hevent List.not_mem_nil
    rw [Run.normalizationReport] at h
    rcases List.mem_append.1 h with hevent | hevent
    · exact hraw hevent
    · split at hevent
      · exact ih hevent
      · exact absurd hevent List.not_mem_nil

theorem writeAll (hsink : R.Hands write write' sink sink') (around : List Log.Span)
    (files : List (Path × String)) :
    R.rel (Run.writeAll sink ⟨around, write⟩ files)
      (Run.writeAll sink' ⟨around, write'⟩ files) := by
  induction files with
  | nil => exact R.rel_pure _
  | cons file rest ih =>
    exact R.rel_bind_result (hsink around file.1 file.2) (fun e => R.rel_pure _) fun u => ih

variable (h : R.Reports write write') (hsource : R.Fetches write write' source source')

include h hsource

theorem fetchRulesOf (around : List Log.Span) (language : String) :
    R.rel (Run.fetchRules source ⟨around, write⟩ language)
      (Run.fetchRules source' ⟨around, write'⟩ language) := by
  refine R.rel_bind_result (hsource around language) (fun e => R.rel_pure _) fun raws => ?_
  refine R.rel_bind (report h around nofun) fun u => ?_
  refine R.rel_bind (reportAll h around fun event => area_of_mem_normalizationReport) fun u => ?_
  cases RawRule.normalizeAll language raws with
  | error e => exact R.rel_pure _
  | ok rules => exact R.rel_bind (report h around nofun) fun u => R.rel_pure _

variable (hsink : R.Hands write write' sink sink')

include hsink

theorem runLanguage (request : Run.Request) (around : List Log.Span) (language : String) :
    R.rel (Run.runLanguage source sink request ⟨around, write⟩ language)
      (Run.runLanguage source' sink' request ⟨around, write'⟩ language) := by
  refine within h around (by exact nofun) ?_
  refine R.rel_bind (report h _ (by cases request.mode <;> exact nofun)) fun u => ?_
  refine R.rel_bind_result (fetchRulesOf h hsource _ language) (fun e => R.rel_pure _)
    fun rules => ?_
  refine R.rel_bind (report h _ (by cases request.mode <;> exact nofun)) fun u => ?_
  refine R.rel_bind_result (writeAll hsink _ _) (fun e => R.rel_pure _) fun u => ?_
  exact R.rel_bind (report h _ (by cases request.mode <;> exact nofun)) fun u => R.rel_pure _

theorem runLanguages (request : Run.Request) (around : List Log.Span) (languages : List String) :
    R.rel (Run.runLanguages source sink request ⟨around, write⟩ languages)
      (Run.runLanguages source' sink' request ⟨around, write'⟩ languages) := by
  induction languages with
  | nil => exact R.rel_pure _
  | cons language rest ih =>
    refine R.rel_bind_result (runLanguage h hsource hsink request around language)
      (fun e => R.rel_pure _) fun summary => ?_
    exact R.rel_bind_result ih (fun e => R.rel_pure _) fun summaries => R.rel_pure _

end Runs

end Correspondence

end Rulebook
