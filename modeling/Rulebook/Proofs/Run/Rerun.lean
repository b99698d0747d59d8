import Rulebook.Proofs.FileTree.Rewriting
import Rulebook.Proofs.Run.Spared

/-!
Running again. A file that has been written can be written once more without anything being made for
it, and only its contents can change. A run that is started again after it succeeded writes the same
files, so that at its end every one holds what it held before.
-/

namespace Rulebook

open Rulebook.Catalog (checkout answerIn rulesName completeTree)
open Rulebook.FileTree (Changes SameBelow)
open Rulebook.Log (Logger)
open Rulebook.Sink (Taken)
open Rulebook.Text.Utf8 (encode)

/-! ## Writes -/

namespace Sink

variable {t : FileTree} {file : Path × String}

theorem write_of_rewritable (h : t.Rewritable file.1) :
    ((disk FileTree.host).write .silent file.1 file.2).run t =
        (.ok (), (disk FileTree.host).stored t file) ∧
      FileTree.Rewritten t (t.location file.1) (encode file.2)
        ((disk FileTree.host).stored t file) := by
  obtain ⟨held, hfind⟩ := h.held
  obtain ⟨t', hwrite, hrewritten⟩ := FileTree.write_of_find hfind (encode file.2)
  have hparent := FileTree.run_makeParent_of_hasParent h.parent
  have hrun : ((disk FileTree.host).write .silent file.1 file.2).run t = (.ok (), t') :=
    (run_bind_of_run hparent _).trans (run_bind_of_run (FileTree.run_write_ok hwrite) _)
  have hstored : (disk FileTree.host).stored t file = t' := congrArg Prod.snd hrun
  rw [hstored]
  exact ⟨hrun, hrewritten⟩

/-- What was written can be written again, and is found. -/
theorem rewritable_of_write
    (h : (((disk FileTree.host).write .silent file.1 file.2).run t).1 = .ok ()) :
    ((disk FileTree.host).stored t file).Rewritable file.1 ∧
      ((disk FileTree.host).stored t file).find file.1 =
        .ok (t.location file.1, .file (encode file.2)) := by
  obtain ⟨result, t', hrun, hwriting⟩ := run_write_disk Run.isQuiet_silent t file.1 file.2
  unfold stored
  rw [hrun] at h ⊢
  cases h
  exact ⟨hwriting.rewritable, hwriting.find⟩

end Sink

namespace Run

/-! ## Files one after the other -/

section Files

variable {t : FileTree} {files others : Taken} {file : Path × String} {loc : Location}

/-- What was written at a location by the last of some files whose path leads there. -/
def lastWritten? (t : FileTree) (files : Taken) (loc : Location) : Option (List UInt8) :=
  (files.reverse.find? fun file => t.location file.1 = loc).map fun file => encode file.2

theorem lastWritten?_concat (t : FileTree) (files : Taken) (file : Path × String) (loc : Location) :
    lastWritten? t (files ++ [file]) loc =
      if loc = t.location file.1 then some (encode file.2) else lastWritten? t files loc := by
  unfold lastWritten?
  rw [List.reverse_concat, List.find?_cons]
  by_cases h : loc = t.location file.1
  · rw [if_pos h, decide_eq_true h.symm]
    rfl
  · rw [if_neg h, decide_eq_false fun heq => h heq.symm]

theorem storedAll_concat (sink : Sink (StateM FileTree)) (t : FileTree) (files : Taken)
    (file : Path × String) :
    sink.storedAll t (files ++ [file]) = sink.stored (sink.storedAll t files) file :=
  sink.storedAll_append t files [file]

@[simp] theorem location_storedAll (t : FileTree) (files : Taken) (path : Path) :
    ((Sink.disk FileTree.host).storedAll t files).location path = t.location path :=
  (Sink.onlyAdds_disk.storedAll t files).location_eq path

/-- Of files that are all taken the last one of each location is there afterwards. -/
theorem node?_of_lastWritten? (h : ((Sink.disk FileTree.host).hand t files).refused = none)
    {contents : List UInt8} (hlast : lastWritten? t files loc = some contents) :
    ((Sink.disk FileTree.host).storedAll t files).node? loc = some (.file contents) := by
  -- From the end: the last file settles its own location and leaves what files the others hold.
  induction files using List.reverseRecOn with
  | nil => cases hlast
  | append_singleton files file ih =>
    have hwrite := Sink.taken_iff.1 h files file List.prefix_rfl
    have hbefore := Sink.taken_of_prefix h (List.prefix_append files [file])
    obtain ⟨-, hfind⟩ := Sink.rewritable_of_write hwrite
    have hchanges := Sink.disk_stored_changes ((Sink.disk FileTree.host).storedAll t files) file
    rw [location_storedAll] at hfind hchanges
    rw [storedAll_concat]
    rw [lastWritten?_concat] at hlast
    split_ifs at hlast with hloc
    · cases hlast
      obtain ⟨-, -, -, -, -, hnode⟩ := FileTree.find_eq_file.1 hfind
      rw [hloc]
      exact hnode
    · exact (hchanges.file_iff hloc contents).2 (ih hbefore hlast)

theorem rewritable_of_taken (h : ((Sink.disk FileTree.host).hand t files).refused = none)
    (hfile : file ∈ files) :
    ((Sink.disk FileTree.host).storedAll t files).Rewritable file.1 := by
  obtain ⟨before, after, hfiles⟩ := List.append_of_mem hfile
  have hsplit : files = before ++ [file] ++ after := by simp [hfiles]
  have hwrite := Sink.taken_iff.1 h before file ⟨after, hsplit.symm⟩
  obtain ⟨hrewritable, -⟩ := Sink.rewritable_of_write hwrite
  rw [hsplit, Sink.storedAll_append, storedAll_concat]
  exact (Sink.onlyAdds_disk.storedAll _ after).rewritable hrewritable

/-- Files that can all be written again are all taken. -/
theorem taken_of_rewritable (h : ∀ file ∈ files, t.Rewritable file.1) :
    ((Sink.disk FileTree.host).hand t files).refused = none := by
  refine Sink.taken_iff.2 fun before file hbefore => ?_
  have hmem : file ∈ files := hbefore.subset (List.mem_append_right _ (List.mem_singleton_self _))
  have hrewritable := (Sink.onlyAdds_disk.storedAll t before).rewritable (h file hmem)
  rw [(Sink.write_of_rewritable hrewritable).1]

/-- Writing files again changes only what they hold, to what the last one of each location has. -/
theorem rewritten_storedAll (h : ∀ file ∈ files, t.Rewritable file.1) :
    let t' := (Sink.disk FileTree.host).storedAll t files
    t'.home = t.home ∧ t'.entries.map (·.1) = t.entries.map (·.1) ∧
      ∀ loc, t'.node? loc = ((lastWritten? t files loc).map .file).or (t.node? loc) := by
  induction files using List.reverseRecOn with
  | nil => exact ⟨rfl, rfl, fun loc => rfl⟩
  | append_singleton files file ih =>
    obtain ⟨hhome, hkeys, hnodes⟩ := ih fun file hfile => h file (List.mem_append_left _ hfile)
    have hfile := h file (List.mem_append_right _ (List.mem_singleton_self _))
    have hrewritten := (Sink.write_of_rewritable
      ((Sink.onlyAdds_disk.storedAll t files).rewritable hfile)).2
    rw [location_storedAll] at hrewritten
    rw [storedAll_concat]
    refine ⟨hrewritten.home.trans hhome, hrewritten.keys.trans hkeys, fun loc => ?_⟩
    rw [hrewritten.nodes, hnodes, lastWritten?_concat]
    by_cases hloc : loc = t.location file.1
    · rw [if_pos hloc, if_pos hloc]
      rfl
    · rw [if_neg hloc, if_neg hloc]

@[simp] theorem lastWritten?_storedAll (t : FileTree) (before files : Taken) (loc : Location) :
    lastWritten? ((Sink.disk FileTree.host).storedAll t before) files loc =
      lastWritten? t files loc := by
  unfold lastWritten?
  simp only [location_storedAll]

section Again

variable (h : ((Sink.disk FileTree.host).hand t files).refused = none)

include h

/-- Files that were all taken leave the tree as it is when they are written again. -/
theorem storedAll_again :
    (Sink.disk FileTree.host).storedAll ((Sink.disk FileTree.host).storedAll t files) files =
      (Sink.disk FileTree.host).storedAll t files := by
  obtain ⟨hhome, hkeys, hnodes⟩ := rewritten_storedAll fun file => rewritable_of_taken h
  refine FileTree.eq_of_keys hkeys hhome fun loc => ?_
  rw [hnodes, lastWritten?_storedAll]
  cases hlast : lastWritten? t files loc with
  | none => rfl
  | some contents => exact (node?_of_lastWritten? h hlast).symm

/-- On the way there, too, whatever they spared the first time is spared. -/
theorem sameBelow_again
    (hsame : ∀ before, before <+: files →
      SameBelow loc t ((Sink.disk FileTree.host).storedAll t before))
    {before : Taken} (hbefore : before <+: files) :
    SameBelow loc t ((Sink.disk FileTree.host).storedAll
      ((Sink.disk FileTree.host).storedAll t files) before) := by
  intro below
  obtain ⟨-, -, hnodes⟩ := rewritten_storedAll fun file (hfile : file ∈ before) =>
    rewritable_of_taken h (hbefore.subset hfile)
  rw [hnodes, lastWritten?_storedAll]
  cases hlast : lastWritten? t before (loc ++ below) with
  | none => exact hsame files List.prefix_rfl below
  | some contents =>
    -- The first time these files had left the same there.
    rw [← hsame before hbefore below]
    exact (node?_of_lastWritten? (Sink.taken_of_prefix h hbefore) hlast).symm

end Again

end Files

/-! ## Whole runs -/

/-- If the disk takes all that is planned for a tree and this spares the rules, the run in the tree
that is left comes to the same plans and changes nothing. -/
theorem record_again {request : Request}
    (hkeys : ∀ language ∈ request.languages, Path.slash ∉ encode language) (rules : Path)
    (t : FileTree) :
    let disk := Sink.disk FileTree.host
    let plans := request.plans (answerIn t rules)
    let files := filesBeforeFailure plans
    (disk.hand t files).refused = none → Spares disk rules t files →
    (request.record (checkout FileTree.host rules) disk).run (disk.storedAll t files) =
      ((plannedSummaries plans, files), disk.storedAll t files) := by
  intro disk plans files htaken hspares
  -- What was taken once can be written again, and writing it again leaves the tree as it is.
  have htakenAgain := taken_of_rewritable fun file => rewritable_of_taken htaken
  have houtcome : outcome disk (disk.storedAll t files) plans =
      ((plannedSummaries plans, files), disk.storedAll t files) := by
    rw [outcome_of_taken htakenAgain, storedAll_again htaken]
  rw [← houtcome]
  by_cases hrules : t.isDirectory rules = true
  · refine run_checkout_after hkeys (Sink.isSteady_disk _) isQuiet_silent Sink.onlyAdds_disk hrules
      (Sink.onlyAdds_disk.storedAll t files) fun before hbefore => ?_
    rw [houtcome] at hbefore
    exact sameBelow_again htaken hspares hbefore
  · -- Nothing has been written, so the second run starts where the first one did.
    have hnothing : files = [] := filesBeforeFailure_of_not_isDirectory hrules
    rw [hnothing]
    exact run_checkout_of_not_isDirectory (Sink.isSteady_disk _) isQuiet_silent hrules

/-- A run that succeeds and spares its rules, started again in the tree that it has left, succeeds
with the same summaries and leaves that tree as it is. -/
theorem rerun_changes_nothing {request : Request}
    (hkeys : ∀ language ∈ request.languages, Path.slash ∉ encode language) (rules : Path)
    (t : FileTree) :
    let source := checkout FileTree.host rules
    let sink := Sink.disk FileTree.host
    let written := ((request.record source sink).run t).1.2
    Spares sink rules t written →
    ∀ summaries after, (request.run source sink Logger.silent).run t = (.ok summaries, after) →
      after = sink.storedAll t written ∧
      (request.run source sink Logger.silent).run after = (.ok summaries, after) := by
  intro source sink written hspares summaries after hrun
  let plans := request.plans (answerIn t rules)
  have hrecord : (request.record source sink).run t = outcome sink t plans :=
    run_checkout hkeys (Sink.isSteady_disk _) isQuiet_silent Sink.onlyAdds_disk hspares
  rw [run_eq_record, hrecord] at hrun
  obtain ⟨hresult, hafter⟩ := Prod.mk.inj hrun
  -- The run has a result, so that the disk took all that was planned.
  have htaken : (sink.hand t (filesBeforeFailure plans)).refused = none :=
    taken_of_outcome fun e he => by cases hresult.symm.trans he
  have houtcome := outcome_of_taken htaken
  have hwritten : written = filesBeforeFailure plans := by
    show ((request.record source sink).run t).1.2 = _
    rw [hrecord, houtcome]
  rw [houtcome] at hresult hafter
  rw [hwritten] at hspares ⊢
  refine ⟨hafter.symm, ?_⟩
  rw [← hafter, run_eq_record, record_again hkeys rules t htaken hspares, hresult]

def repeatedRequest : Request where
  mode := .ruleData
  languages := ["js", "js"]
  target := .ofText "out"

theorem rerun_changes_nothing_repeated :
    let source := checkout FileTree.host ⟨rulesName.bytes⟩
    let sink := Sink.disk FileTree.host
    let written := ((repeatedRequest.record source sink).run completeTree).1.2
    (∀ language ∈ repeatedRequest.languages, Path.slash ∉ encode language) ∧
    Spares sink ⟨rulesName.bytes⟩ completeTree written ∧
    ∃ summaries after,
      (repeatedRequest.run source sink Logger.silent).run completeTree = (.ok summaries, after) ∧
      (repeatedRequest.run source sink Logger.silent).run after = (.ok summaries, after) := by
  have hkeys : ∀ language ∈ repeatedRequest.languages, Path.slash ∉ encode language := by decide
  have hspares : Spares (Sink.disk FileTree.host) ⟨rulesName.bytes⟩ completeTree
      ((repeatedRequest.record (checkout FileTree.host ⟨rulesName.bytes⟩)
        (Sink.disk FileTree.host)).run completeTree).1.2 := by decide +kernel
  have hok : ((repeatedRequest.run (checkout FileTree.host ⟨rulesName.bytes⟩)
      (Sink.disk FileTree.host) Logger.silent).run completeTree).1.toOption.isSome = true := by
    decide +kernel
  have hagain := rerun_changes_nothing hkeys ⟨rulesName.bytes⟩ completeTree hspares
  dsimp only
  refine ⟨hkeys, hspares, ?_⟩
  rcases hrun : (repeatedRequest.run (checkout FileTree.host ⟨rulesName.bytes⟩)
    (Sink.disk FileTree.host) Logger.silent).run completeTree with ⟨result, after⟩
  rw [hrun] at hok
  obtain ⟨summaries, rfl⟩ := exists_eq_ok_of_isSome hok
  exact ⟨summaries, after, rfl, (hagain summaries after hrun).2⟩

end Run

end Rulebook
