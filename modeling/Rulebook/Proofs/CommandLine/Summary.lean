import Rulebook.Proofs.CommandLine.Output
import Rulebook.Proofs.CommandLine.Table
import Rulebook.Proofs.CommandLine.Verbosity
import Rulebook.Proofs.Run.Account
import Rulebook.Proofs.Run.Spared

/-!
Summaries of runs on the command line. The summaries of a run account for all that it has done, and
the table that a command ends with, read back, has their numbers in its rows and the sums of its
columns in the last one.
-/

namespace Rulebook.CommandLine

open Rulebook.Catalog (Source checkout)
open Rulebook.Log (Logger)
open Rulebook.Run (Account AccountsFor Step Stretch Summary written)

/-! ## Totals -/

theorem totalActivations_of_forall_some {summaries : List Summary} {counts : List Nat}
    (h : summaries.map (·.activations) = counts.map some) (hne : summaries ≠ []) :
    totalActivations summaries = some (total counts) := by
  have hfound : summaries.filterMap (·.activations) = counts := by
    calc summaries.filterMap (·.activations)
        = (summaries.map (·.activations)).filterMap id := by
          rw [List.filterMap_map, Function.id_comp]
      _ = (counts.map some).filterMap id := by rw [h]
      _ = counts := by
        rw [List.filterMap_map]
        exact List.filterMap_some
  rw [totalActivations, hfound]
  cases counts with
  | nil => exact absurd (List.map_eq_nil_iff.1 h) hne
  | cons count rest => rfl

theorem totalActivations_of_forall_none {summaries : List Summary}
    (h : ∀ summary ∈ summaries, summary.activations = none) :
    totalActivations summaries = none := by
  rw [totalActivations, List.filterMap_eq_nil_iff.2 h]

/-- The last row of a table has the sums of the columns. Activations are summed up for registrars;
for rule data there are none. -/
structure CountRow.IsTotalOf (row : CountRow) (mode : Run.Mode) (rows : List CountRow) : Prop where
  fetched : row.fetched = total (rows.map (·.fetched))
  emitted : row.emitted = total (rows.map (·.emitted))
  registrars : ∀ settings, mode = .registrars settings → ∃ counts : List Nat,
    rows.map (·.activations) = counts.map some ∧ row.activations = some (total counts)
  ruleData : mode = .ruleData →
    (∀ other ∈ rows, other.activations = none) ∧ row.activations = none
  files : row.files = total (rows.map (·.files))

/-- The lines of a table have the numbers of some summaries, a row for each of them in their order,
and below these a row with the totals, which has as many files as have been written. -/
def Tabulates (mode : Run.Mode) (lines : List String) (summaries : List Summary)
    (steps : List Step) : Prop :=
  ∃ w₀ w₁ row, lines.filterMap CountRow.ofLine? = summaries.map (.ofSummary w₀ w₁) ++ [row] ∧
    row.start = rowStart w₀ w₁ "TOTAL" nothing ∧
    row.IsTotalOf mode (summaries.map (.ofSummary w₀ w₁)) ∧
    row.files = (written steps).length

section Accounts

variable {request : Run.Request} {summaries : List Summary} {steps : List Step}

/-- Registrars always have activations. -/
theorem exists_activations {settings : Run.RegistrarSettings}
    (hmode : request.mode = .registrars settings) {stretches : List Stretch}
    (h : List.Forall₂ (AccountsFor request) summaries stretches) :
    ∃ counts : List Nat, summaries.map (·.activations) = counts.map some := by
  induction h with
  | nil => exact ⟨[], rfl⟩
  | cons hfirst _ ih =>
    obtain ⟨-, -, activations, -, -, hactivations, -⟩ := hfirst.registrars settings hmode
    obtain ⟨counts, hcounts⟩ := ih
    exact ⟨activations :: counts, by rw [List.map_cons, List.map_cons, hactivations, hcounts]⟩

theorem activations_eq_none (hmode : request.mode = .ruleData) {stretches : List Stretch}
    (h : List.Forall₂ (AccountsFor request) summaries stretches) :
    ∀ summary ∈ summaries, summary.activations = none := by
  intro summary hsummary
  obtain ⟨stretch, -, hfor⟩ := exists_of_mem_of_forall₂ h hsummary
  exact (hfor.ruleData hmode).2.1

theorem isTotalOf_ofTotals (h : Account request summaries steps) (hne : request.languages ≠ [])
    (w₀ w₁ : Nat) : (CountRow.ofTotals w₀ w₁ summaries).IsTotalOf request.mode
      (summaries.map (.ofSummary w₀ w₁)) where
  fetched := by
    rw [List.map_map]
    rfl
  emitted := by
    rw [List.map_map]
    rfl
  registrars settings hmode := by
    obtain ⟨stretches, -, heach⟩ := h.each
    obtain ⟨counts, hcounts⟩ := exists_activations hmode heach
    refine ⟨counts, ?_, totalActivations_of_forall_some hcounts ?_⟩
    · rw [List.map_map]
      exact hcounts
    · -- There is a language, so there is a summary.
      rintro rfl
      exact hne h.languages.symm
  ruleData hmode := by
    obtain ⟨stretches, -, heach⟩ := h.each
    have hnone := activations_eq_none hmode heach
    exact ⟨List.forall_mem_map.2 hnone, totalActivations_of_forall_none hnone⟩
  files := by
    rw [List.map_map]
    rfl

theorem tabulates_of_account (h : Account request summaries steps)
    (hne : request.languages ≠ []) :
    Tabulates request.mode (summaryTable summaries).lines summaries steps := by
  obtain ⟨w₀, w₁, hlines⟩ := filterMap_lines summaries
  refine ⟨w₀, w₁, _, hlines, rfl, isTotalOf_ofTotals h hne w₀ w₁, ?_⟩
  -- The paths of all summaries together are those that were written.
  rw [← h.files, List.length_flatMap]
  rfl

end Accounts

/-! ## Commands -/

theorem languages_ne_nil {words : List String} {arguments : Arguments}
    (h : Arguments.ofWords words = .ok arguments) : arguments.request.languages ≠ [] := by
  obtain ⟨before, command, after, -, hgiven⟩ := ofWords_eq_ok_iff.1 h
  obtain ⟨-, hlanguages, mode, rules, target, -, -, -, rfl⟩ := ofGiven_eq_ok_iff.1 hgiven
  exact hlanguages

/-- Summaries account for every write. A run that succeeds, whatever its source, its sink and its
log are, has a summary for every language, in their order, and the paths in them are those that were
written; the numbers in each are those of the raw rules that the source answered, and of the
statements or the files that were written for them. A run does succeed if the source always answers
with sound raw rules and the sink has no failures. A command that succeeds ends with a table of
these numbers and their totals. -/
theorem summaries_account :
    (∀ (σ : Type) (source : Source (StateM σ)) (sink : Sink (StateM σ)) (log : Logger (StateM σ))
      (request : Run.Request),
      (∀ s s' summaries, (request.run source sink log).run s = (.ok summaries, s') →
        ∃ steps, (request.transcriptWith source sink log).run s = ((.ok summaries, steps), s') ∧
          Account request summaries steps) ∧
      (Run.AnswersSoundly source request.languages → Run.NeverFails sink →
        ∀ s, ∃ summaries s', (request.run source sink log).run s = (.ok summaries, s'))) ∧
    ∀ (machine : Machine) (environment : Option String) (words : List String)
      (arguments : Arguments), Arguments.ofWords words = .ok arguments →
      (machine.execute environment words).1 = .success →
      ∃ opened summaries steps lines,
        (openLog Machine.console arguments.log).run machine = (.ok (), opened) ∧
        ((arguments.request.transcriptWith (checkout Machine.console.host arguments.rules)
          (sink Machine.console arguments) (runLogger arguments environment)).run opened).1 =
            (.ok summaries, steps) ∧
        Account arguments.request summaries steps ∧
        (machine.execute environment words).2.out =
          machine.out ++ String.join ((headLines arguments ++ lines).map (· ++ "\n")) ∧
        Tabulates arguments.request.mode lines summaries steps := by
  refine ⟨fun σ source sink log request => ⟨fun s s' summaries h => Run.account_of_run h, ?_⟩, ?_⟩
  · exact fun hsource hsink => Run.succeeds_run hsource hsink log
  intro machine environment words arguments hwords hsuccess
  unfold Machine.execute runWords at hsuccess ⊢
  rw [hwords] at hsuccess ⊢
  -- A status of success says that the log was opened and the run behind it had summaries.
  obtain ⟨opened, summaries, hopen, hrun, hout⟩ := out_execute hsuccess
  obtain ⟨steps, htranscript, haccount⟩ := Run.account_of_run (Prod.ext hrun rfl)
  exact ⟨opened, summaries, steps, (summaryTable summaries).lines, hopen,
    congrArg Prod.fst htranscript, haccount, hout,
    tabulates_of_account haccount (languages_ne_nil hwords)⟩

/-- The raw rules that are left are sound, however many are. -/
theorem answersSoundly_dwindlingSource : Run.AnswersSoundly Run.dwindlingSource ["7", "7"] := by
  intro log language hlanguage n
  have hrules : RawRule.normalizeAll "7" Run.variedRaws = .ok _ := rfl
  obtain rfl : language = "7" := by
    simpa using hlanguage
  have hleft := RawRule.normalizeAll_eq_ok.2
    (List.forall₂_drop n (RawRule.normalizeAll_eq_ok.1 hrules))
  exact ⟨_, _, n + 4, rfl, hleft⟩

theorem neverFails_rewindingSink : Run.NeverFails Run.rewindingSink :=
  fun _ _ _ n => ⟨(), n - 1, rfl⟩

/-- A command line that asks for the registrars of a language twice. -/
def tabulatedWords : List String := [
  "registrars", "--rules-dir", "rules", "--language-key", "js", "--target-dir", "out",
  "--language-key", "js", "--package-name", "a.b"]

def tabulatedArguments : Arguments where
  log := { colors := false }
  rules := .ofText "rules"
  request := {
    mode := .registrars { packageName := "a.b" }
    languages := ["js", "js"]
    target := .ofText "out" }
  dryRun := false

theorem summaries_account_twice :
    (Run.AnswersSoundly Run.dwindlingSource ["7", "7"] ∧ Run.NeverFails Run.rewindingSink ∧
      ∀ n, ∃ summaries m, (Run.Request.run
        ⟨.registrars Run.variedSettings, ["7", "7"], .ofText "out"⟩ Run.dwindlingSource
        Run.rewindingSink Logger.silent).run n = (.ok summaries, m)) ∧
    (∃ summaries steps, ((Run.Request.transcriptWith
        ⟨.registrars Run.variedSettings, ["7", "7"], .ofText "out"⟩ Run.dwindlingSource
        Run.rewindingSink Logger.silent).run 0).1 = (.ok summaries, steps) ∧
      summaries.map (fun s => (s.fetched, s.emitted, s.activations)) =
        [(5, 3, some 1), (3, 1, some 0)] ∧
      summaries.flatMap (·.files) = written steps) ∧
    let machine : Machine := { files := Catalog.completeTree }
    Arguments.ofWords tabulatedWords = .ok tabulatedArguments ∧
      (machine.execute none tabulatedWords).1 = .success ∧
      ∃ summaries steps lines, summaries.map (·.language) = ["js", "js"] ∧
        (machine.execute none tabulatedWords).2.out =
          String.join ((headLines tabulatedArguments ++ lines).map (· ++ "\n")) ∧
        Tabulates tabulatedArguments.request.mode lines summaries steps := by
  obtain ⟨hruns, hcommands⟩ := summaries_account
  obtain ⟨haccount, hsucceeds⟩ := hruns Nat Run.dwindlingSource Run.rewindingSink Logger.silent
    ⟨.registrars Run.variedSettings, ["7", "7"], .ofText "out"⟩
  have hsource := answersSoundly_dwindlingSource
  have hsink := neverFails_rewindingSink
  refine ⟨⟨hsource, hsink, hsucceeds hsource hsink⟩, ?_, ?_⟩
  · have h : (Run.Request.run ⟨.registrars Run.variedSettings, ["7", "7"], .ofText "out"⟩
        Run.dwindlingSource Run.rewindingSink Logger.silent).run 0 = (.ok _, _) := rfl
    obtain ⟨steps, htranscript, hsummaries⟩ := haccount _ _ _ h
    exact ⟨_, steps, congrArg Prod.fst htranscript, rfl, hsummaries.files⟩
  · intro machine
    have hwords : Arguments.ofWords tabulatedWords = .ok tabulatedArguments := by rfl
    have hsuccess : (machine.execute none tabulatedWords).1 = .success := by decide +kernel
    obtain ⟨opened, summaries, steps, lines, -, -, hsummaries, hout, htable⟩ :=
      hcommands machine none tabulatedWords tabulatedArguments hwords hsuccess
    refine ⟨hwords, hsuccess, summaries, steps, lines, hsummaries.languages, ?_, htable⟩
    rw [hout]
    exact String.empty_append

end Rulebook.CommandLine
