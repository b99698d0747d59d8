import Rulebook.Proofs.Catalog.Frame
import Rulebook.Proofs.Run.Handed
import Rulebook.Proofs.Sink

/-!
Runs that spare the rules that they read. If no file that a run writes changes anything below the
directory of rules, then every language is answered as it would be before the run, and the run comes
to what these answers come to.
-/

namespace Rulebook

open Rulebook.Catalog (checkout answerIn answerIn_eq run_fetchLanguage_eq)
open Rulebook.FileTree (Changes SameBelow)
open Rulebook.Log (Logger)
open Rulebook.Sink (Taken)
open Rulebook.Text.Utf8 (encode)

/-! ## Changes by a file -/

namespace Sink

variable {t : FileTree} {sink : Sink (StateM FileTree)}

/-- Handing a file to the disk makes directories and writes that file. -/
theorem disk_stored_changes (t : FileTree) (file : Path × String) :
    Changes (fun _ => True) (· = t.location file.1) t ((disk FileTree.host).stored t file) := by
  obtain ⟨result, t', hrun, hwriting⟩ := run_write_disk Run.isQuiet_silent t file.1 file.2
  have hstored : (disk FileTree.host).stored t file = t' := congrArg Prod.snd hrun
  rw [hstored]
  exact hwriting.changes.mono (fun _ _ => trivial) fun _ hloc => hloc.2

/-- A sink does no more to a tree than to make directories and to write files. -/
def OnlyAdds (sink : Sink (StateM FileTree)) : Prop :=
  ∀ t file, Changes (fun _ => True) (fun _ => True) t (sink.stored t file)

theorem onlyAdds_disk : (disk FileTree.host).OnlyAdds := fun t file =>
  (disk_stored_changes t file).mono (fun _ => id) fun _ _ => trivial

@[simp] theorem stored_dryRun (t : FileTree) (file : Path × String) :
    (dryRun : Sink (StateM FileTree)).stored t file = t := rfl

theorem onlyAdds_dryRun : (dryRun : Sink (StateM FileTree)).OnlyAdds := fun t _ => .refl _ _ t

theorem OnlyAdds.storedAll (h : sink.OnlyAdds) (t : FileTree) (files : Taken) :
    Changes (fun _ => True) (fun _ => True) t (sink.storedAll t files) :=
  storedAll_induction _ (.refl _ _ t) fun s hs file _ => hs.trans (h s file)

@[simp] theorem storedAll_dryRun (t : FileTree) (files : Taken) :
    (dryRun : Sink (StateM FileTree)).storedAll t files = t :=
  storedAll_induction (· = t) rfl fun _ hs file _ => (stored_dryRun _ file).trans hs

end Sink

namespace Run

/-! ## Sparing the rules -/

/-- None of some files that are handed to a sink one by one changes anything below a directory of
rules. -/
def Spares (sink : Sink (StateM FileTree)) (rules : Path) (t : FileTree) (files : Taken) : Prop :=
  ∀ before, before <+: files → SameBelow (t.location rules) t (sink.storedAll t before)

instance (sink : Sink (StateM FileTree)) (rules : Path) (t : FileTree) (files : Taken) :
    Decidable (Spares sink rules t files) :=
  decidable_of_iff (∀ before ∈ files.inits,
    SameBelow (t.location rules) t (sink.storedAll t before)) (by
      simp only [Spares, List.mem_inits])

theorem spares_dryRun (rules : Path) (t : FileTree) (files : Taken) :
    Spares .dryRun rules t files := by
  intro before _
  rw [Sink.storedAll_dryRun]
  exact .refl _ t

section Runs

variable {sink : Sink (StateM FileTree)} {rules : Path} {t s : FileTree} {request : Request}
  {language : String} {log : Logger (StateT Taken (StateM FileTree))}

theorem answersIn_checkout (hrules : t.isDirectory rules = true)
    (hkey : Path.slash ∉ encode language) {made written : Location → Prop}
    (hchanges : Changes made written t s) (hsame : SameBelow (t.location rules) t s) :
    AnswersIn (checkout FileTree.host rules) s language (answerIn t rules language) := by
  obtain ⟨dir, hdir⟩ := FileTree.isDirectory_iff.1 hrules
  rw [← FileTree.location_of_find hdir] at hsame
  intro around
  rw [← answerIn_eq hdir hchanges hsame hkey]
  exact run_fetchLanguage_eq s rules language around

/-- Without a directory of rules nothing is planned. -/
theorem filesBeforeFailure_of_not_isDirectory (hrules : ¬ t.isDirectory rules = true) :
    filesBeforeFailure (request.plans (answerIn t rules)) = [] := by
  have hanswer (language : String) :
      answerIn t rules language = .error (.directoryNotFound rules) := if_neg hrules
  unfold Request.plans
  cases request.languages with
  | nil => rfl
  | cons language rest =>
    rw [List.map_cons, Request.plan, canonicalRules, hanswer]
    rfl

/-- Without a directory of rules a run stops at once. -/
theorem run_checkout_of_not_isDirectory (hsink : sink.IsSteady) (hlog : IsQuiet log)
    (hrules : ¬ t.isDirectory rules = true) :
    ((request.run (checkout FileTree.host rules).recorded sink.recorded log).run []).run t =
      outcome sink t (request.plans (answerIn t rules)) := by
  have hanswer (language : String) :
      answerIn t rules language = .error (.directoryNotFound rules) := if_neg hrules
  unfold Request.run Request.plans
  cases request.languages with
  | nil => rfl
  | cons language rest =>
    refine (run_recorded_of_error hsink hlog (hanswer language)
      (fun around => run_fetchLanguage_eq t rules language around) rest []).trans ?_
    rw [List.map_cons, Request.plan, canonicalRules, hanswer]
    rfl

variable (hkeys : ∀ language ∈ request.languages, Path.slash ∉ encode language)

include hkeys

/-- A run that spares its rules comes to what the answers before it come to. -/
theorem run_checkout (hsink : sink.IsSteady) (hlog : IsQuiet log) (hadds : sink.OnlyAdds)
    (h : Spares sink rules t (((request.run (checkout FileTree.host rules).recorded sink.recorded
      log).run []).run t).1.2) :
    ((request.run (checkout FileTree.host rules).recorded sink.recorded log).run []).run t =
      outcome sink t (request.plans (answerIn t rules)) := by
  by_cases hrules : t.isDirectory rules = true
  · refine run_recorded_eq_outcome (fun s =>
      Changes (fun _ => True) (fun _ => True) t s ∧ SameBelow (t.location rules) t s) hsink hlog
      ?_ ?_
    · rintro s ⟨hchanges, hsame⟩ language hlanguage
      exact answersIn_checkout hrules (hkeys language hlanguage) hchanges hsame
    · exact fun before hbefore => ⟨hadds.storedAll t before, h before hbefore⟩
  · exact run_checkout_of_not_isDirectory hsink hlog hrules

/-- A run in a tree that has come from another one with the same rules comes to what the answers in
that one come to, if the files that these answers make it write spare the rules. -/
theorem run_checkout_after (hsink : sink.IsSteady) (hlog : IsQuiet log) (hadds : sink.OnlyAdds)
    (hrules : t.isDirectory rules = true)
    (hchanges : Changes (fun _ => True) (fun _ => True) t s)
    (h : ∀ before, before <+: (outcome sink s (request.plans (answerIn t rules))).1.2 →
      SameBelow (t.location rules) t (sink.storedAll s before)) :
    ((request.run (checkout FileTree.host rules).recorded sink.recorded log).run []).run s =
      outcome sink s (request.plans (answerIn t rules)) := by
  refine run_recorded_eq_outcome_of_hand (fun s =>
    Changes (fun _ => True) (fun _ => True) t s ∧ SameBelow (t.location rules) t s) hsink hlog ?_ ?_
  · rintro s ⟨hchanges, hsame⟩ language hlanguage
    exact answersIn_checkout hrules (hkeys language hlanguage) hchanges hsame
  · exact fun before hbefore => ⟨hchanges.trans (hadds.storedAll s before), h before hbefore⟩

end Runs

end Run

/-! ## A rule for runs -/

namespace Catalog

def completeManifest : String :=
  "\x7b\"title\":\"T\",\"type\":\"BUG\",\"defaultSeverity\":\"Major\",\"scope\":\"All\"\x7d"

def completeTree : FileTree where
  entries := [
    ([rulesName], .directory),
    ([rulesName, ruleName], .directory),
    ([rulesName, ruleName, languageName], .directory),
    ([rulesName, ruleName, languageName, manifestFile], .file (encode completeManifest)),
    ([rulesName, ruleName, languageName, documentationFile], .file (encode "<p>"))]
  nodup := by decide
  closed := by decide
  home := []
  homed := by decide

/-- A rule for two languages, which share its manifest, and another one for the first of them. -/
def sharedTree : FileTree where
  entries := [
    ([rulesName], .directory),
    ([rulesName, ruleName], .directory),
    ([rulesName, ruleName, manifestFile], .file (encode completeManifest)),
    ([rulesName, ruleName, languageName], .directory),
    ([rulesName, ruleName, languageName, manifestFile], .file [0x7B, 0x7D]),
    ([rulesName, ruleName, languageName, documentationFile], .file [0x31]),
    ([rulesName, ruleName, otherLanguageName], .directory),
    ([rulesName, ruleName, otherLanguageName, manifestFile], .file [0x7B, 0x7D]),
    ([rulesName, ruleName, otherLanguageName, documentationFile], .file [0x32]),
    ([rulesName, otherRuleName], .directory),
    ([rulesName, otherRuleName, languageName], .directory),
    ([rulesName, otherRuleName, languageName, manifestFile], .file (encode completeManifest)),
    ([rulesName, otherRuleName, languageName, documentationFile], .file [0x33])]
  nodup := by decide
  closed := by decide
  home := []
  homed := by decide

end Catalog

end Rulebook
