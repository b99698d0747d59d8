import Rulebook.Proofs.FileTree.Creation
import Rulebook.Proofs.Run.Plan

/-!
Writing one file to disk. The directory that it lies in is made first, then the file is written, so
that a write can fail at either. Whichever it is, no file has changed then; what is left are
directories on the way.
-/

namespace Rulebook.Sink

open Rulebook.FileTree (Changes Creation)
open Rulebook.Log (Logger)
open Rulebook.Run (IsQuiet)
open Rulebook.Text.Utf8 (encode)

/-! ## How a write comes out -/

/-- The directory for a file is there: none is asked for, or it has been made. -/
inductive Prepared (t : FileTree) (path : Path) : FileTree → Prop
  | nothing (h : ∀ parent, path.parent? = some parent → parent.bytes = []) : Prepared t path t
  | made {parent : Path} {t' : FileTree} (hparent : path.parent? = some parent)
      (hne : parent.bytes ≠ []) (h : Creation t parent (.ok ()) t') : Prepared t path t'

inductive Writing (t : FileTree) (path : Path) (contents : String) :
    Except WriteError Unit → FileTree → Prop
  | noDirectory {parent : Path} {cause : IoError} {t' : FileTree}
      (hparent : path.parent? = some parent) (hne : parent.bytes ≠ [])
      (h : Creation t parent (.error cause) t') :
      Writing t path contents (.error (.directory parent cause)) t'
  | noFile {cause : IoError} {t' : FileTree} (hprepared : Prepared t path t')
      (h : t'.write path (encode contents) = .error cause) :
      Writing t path contents (.error (.file path cause)) t'
  | written {t' t'' : FileTree} (hprepared : Prepared t path t')
      (h : t'.write path (encode contents) = .ok t'') : Writing t path contents (.ok ()) t''

/-- A location on the way to a file: where a part of its path leads. -/
def OnTheWay (t : FileTree) (path : Path) (loc : Location) : Prop :=
  ∃ start : Path, start.bytes ≠ [] ∧ Path.IsStart start.bytes path.bytes ∧ start ≠ path ∧
    loc = t.location start

section Writes

variable {t t' : FileTree} {path : Path} {contents : String} {result : Except WriteError Unit}
  {log : Logger (StateM FileTree)}

theorem run_write_of_prepared (hlog : IsQuiet log) (contents : String)
    (h : (makeParent FileTree.host path).run t = (.ok (), t')) (hprepared : Prepared t path t') :
    ∃ result t'', ((disk FileTree.host).write log path contents).run t = (result, t'') ∧
      Writing t path contents result t'' := by
  cases hwrite : t'.write path (encode contents) with
  | error cause =>
    refine ⟨_, _, (run_bind_of_run h _).trans ?_, .noFile hprepared hwrite⟩
    exact run_bind_of_run (FileTree.run_write_error hwrite) _
  | ok t'' =>
    refine ⟨_, _, (run_bind_of_run h _).trans ?_, .written hprepared hwrite⟩
    refine (run_bind_of_run (FileTree.run_write_ok hwrite) _).trans ?_
    simp only [hlog.report, pure_bind]
    rfl

theorem run_write_disk (hlog : IsQuiet log) (t : FileTree) (path : Path) (contents : String) :
    ∃ result t', ((disk FileTree.host).write log path contents).run t = (result, t') ∧
      Writing t path contents result t' := by
  cases hparent : path.parent? with
  | none =>
    have hmake : (makeParent FileTree.host path).run t = (.ok (), t) := by
      rw [makeParent, hparent]
      rfl
    exact run_write_of_prepared hlog contents hmake
      (.nothing fun parent h => absurd (hparent.symm.trans h) nofun)
  | some parent =>
    -- A name alone lies in the directory that paths start from, and nothing is made for it.
    by_cases hne : parent.isEmpty = true
    · have hmake : (makeParent FileTree.host path).run t = (.ok (), t) := by
        rw [makeParent, hparent]
        dsimp only
        rw [if_pos hne]
        rfl
      refine run_write_of_prepared hlog contents hmake (.nothing fun other h => ?_)
      rw [hparent] at h
      cases h
      exact List.isEmpty_iff.1 hne
    · obtain ⟨result, t', hcreation⟩ := FileTree.exists_creation t parent
      have hmake : (makeParent FileTree.host path).run t =
          (result.mapError (.directory parent), t') := by
        rw [makeParent, hparent]
        dsimp only
        rw [if_neg hne, run_bind_of_run hcreation.run_eq]
        cases result <;> rfl
      have hbytes : parent.bytes ≠ [] := fun hnil => hne (List.isEmpty_iff.2 hnil)
      cases result with
      | ok u => exact run_write_of_prepared hlog contents hmake (.made hparent hbytes hcreation)
      | error cause =>
        exact ⟨_, t', run_bind_of_run hmake _, .noDirectory hparent hbytes hcreation⟩

/-! ## What a write changes -/

theorem changes_of_creation {parent : Path} {made : Except IoError Unit}
    (hparent : path.parent? = some parent) (hne : parent.bytes ≠ [])
    (h : Creation t parent made t') : Changes (OnTheWay t path) (fun _ => False) t t' := by
  refine h.changes.mono ?_ fun _ => id
  rintro loc ⟨start, hstart, hparts, rfl⟩
  refine ⟨start, hstart, hparts.trans (Path.isStart_of_parent? hparent hne), ?_, rfl⟩
  rintro rfl
  -- What the parent begins with is no longer than the parent.
  obtain ⟨rest, hrest, -⟩ := hparts
  have hshorter := Path.length_parent?_lt hparent
  rw [hrest, List.length_append] at hshorter
  omega

theorem Prepared.changes (h : Prepared t path t') :
    Changes (OnTheWay t path) (fun _ => False) t t' := by
  cases h with
  | nothing => exact .refl _ _ t
  | made hparent hne hcreation => exact changes_of_creation hparent hne hcreation

theorem Prepared.creation (h : Prepared t path t') {parent : Path}
    (hparent : path.parent? = some parent) (hne : parent.bytes ≠ []) :
    Creation t parent (.ok ()) t' := by
  cases h with
  | nothing hnone => exact absurd (hnone parent hparent) hne
  | made hother _ hcreation =>
    cases hparent.symm.trans hother
    exact hcreation

theorem Prepared.hasParent (h : Prepared t path t') : t'.HasParent path :=
  fun _ hparent hne => ((h.creation hparent hne).isDirectory_iff hne).2 rfl

theorem Writing.changes (h : Writing t path contents result t') :
    Changes (OnTheWay t path) (fun loc => result = .ok () ∧ loc = t.location path) t t' := by
  cases h with
  | noDirectory hparent hne hcreation =>
    exact (changes_of_creation hparent hne hcreation).mono (fun _ => id) fun _ => False.elim
  | noFile hprepared => exact hprepared.changes.mono (fun _ => id) fun _ => False.elim
  | written hprepared hwrite =>
    have hchanges := FileTree.write_changes hwrite
    rw [hprepared.changes.location_eq] at hchanges
    refine (hprepared.changes.mono (fun _ => id) fun _ => False.elim).trans
      (hchanges.mono (fun _ => False.elim) ?_)
    rintro loc rfl
    exact ⟨rfl, rfl⟩

theorem Writing.find (h : Writing t path contents (.ok ()) t') :
    t'.find path = .ok (t.location path, .file (encode contents)) := by
  cases h with
  | @written made _ hprepared hwrite =>
    rw [← hprepared.changes.location_eq]
    exact FileTree.find_of_write hwrite (FileTree.node?_start made path)

theorem Writing.read (h : Writing t path contents (.ok ()) t') :
    t'.read path = .ok (encode contents) := bind_eq_ok.2 ⟨_, h.find, rfl⟩

/-- What was written can be written again. -/
theorem Writing.rewritable (h : Writing t path contents (.ok ()) t') : t'.Rewritable path := by
  refine ⟨?_, encode contents, ?_⟩
  · cases h with
    | written hprepared hwrite =>
      exact (FileTree.write_changes hwrite).hasParent hprepared.hasParent
  · rw [h.changes.location_eq]
    exact h.find

/-- It is the directory that fails exactly if it is not there after it should have been made. -/
theorem Writing.directory_iff (h : Writing t path contents result t') (parent : Path) :
    (∃ cause, result = .error (.directory parent cause)) ↔
      path.parent? = some parent ∧ parent.bytes ≠ [] ∧
        ((FileTree.host.makeDirectoryWithParents parent).run t).2.isDirectory parent = false := by
  -- Whatever has been made, the directory is there afterwards exactly if making it did not fail.
  have hmade {made : Except IoError Unit} {left : FileTree} (hne : parent.bytes ≠ [])
      (hcreation : Creation t parent made left) :
      ((FileTree.host.makeDirectoryWithParents parent).run t).2.isDirectory parent = false ↔
        made ≠ .ok () := by
    rw [hcreation.run_eq, ← Bool.not_eq_true, hcreation.isDirectory_iff hne]
  cases h with
  | @noDirectory other cause _ hparent hne hcreation =>
    constructor
    · rintro ⟨_, heq⟩
      cases heq
      exact ⟨hparent, hne, (hmade hne hcreation).2 nofun⟩
    · rintro ⟨hother, -, -⟩
      cases hparent.symm.trans hother
      exact ⟨cause, rfl⟩
  | noFile hready =>
    refine iff_of_false (fun ⟨_, heq⟩ => by cases heq) ?_
    rintro ⟨hparent, hne, hnone⟩
    exact (hmade hne (hready.creation hparent hne)).1 hnone rfl
  | written hready =>
    refine iff_of_false (fun ⟨_, heq⟩ => by cases heq) ?_
    rintro ⟨hparent, hne, hnone⟩
    exact (hmade hne (hready.creation hparent hne)).1 hnone rfl

end Writes

/-- Writing a file is all or nothing as far as files go. If it succeeds, the file is read as what
was written and all others are as they were; if it fails, all files are as they were. Directories
are only added, and only on the way to the file. It is the directory for the file that fails, named
as a whole, exactly if the path asks for one and it is not there after it should have been made; and
making it comes to an end for every path, since it is what a finite derivation tells. -/
theorem disk_write_atomic (t : FileTree) (path : Path) (contents : String) :
    let write := ((disk FileTree.host).write Logger.silent path contents).run t
    (write.1 = .ok () → write.2.read path = .ok (encode contents)) ∧
    (∀ loc held, (write.1 = .ok () → loc ≠ t.location path) →
      (write.2.node? loc = some (.file held) ↔ t.node? loc = some (.file held))) ∧
    (∀ loc, t.node? loc = some .directory → write.2.node? loc = some .directory) ∧
    (∀ loc, write.2.node? loc = some .directory →
      t.node? loc = some .directory ∨ OnTheWay t path loc) ∧
    (∀ parent, (∃ cause, write.1 = .error (.directory parent cause)) ↔
      path.parent? = some parent ∧ parent.bytes ≠ [] ∧
        ((FileTree.host.makeDirectoryWithParents parent).run t).2.isDirectory parent = false) ∧
    (∀ named cause, write.1 = .error (.file named cause) → named = path) ∧
    ∀ p result left, Creation t p result left ↔
      (FileTree.host.makeDirectoryWithParents p).run t = (result, left) := by
  intro write
  obtain ⟨result, after, hrun, h⟩ := run_write_disk Run.isQuiet_silent t path contents
  have hwrite : write = (result, after) := hrun
  rw [hwrite]
  refine ⟨?_, ?_, fun loc => h.changes.directory, fun loc => h.changes.of_directory,
    h.directory_iff, ?_, fun p made left => FileTree.creation_iff⟩
  · rintro rfl
    exact h.read
  · intro loc held hloc
    exact h.changes.file_iff (fun ⟨hok, heq⟩ => hloc hok heq) held
  · rintro named cause heq
    cases heq
    cases h with
    | noFile => rfl

def homeName : FileName := ⟨[0x64], by decide⟩

def heldName : FileName := ⟨[0x66], by decide⟩

/-- Relative paths start from a directory `d` that has a file `f`. -/
def occupiedTree : FileTree where
  entries := [([homeName], .directory), ([homeName, heldName], .file [0x31])]
  nodup := by decide
  closed := by decide
  home := [homeName]
  homed := by decide

/-- A path through a directory that is missing and back leads to a file, where there should be a
directory. -/
def blockedPath : Path := .ofText "a/../f/x"

theorem disk_write_atomic_blocked :
    let write := ((disk FileTree.host).write Logger.silent blockedPath "x").run occupiedTree
    (∃ cause, write.1 = .error (.directory (.ofText "a/../f") cause)) ∧
    (write.2.entries.map fun entry => entry.1.map (·.bytes)) =
      [[[0x64]], [[0x64], [0x66]], [[0x64], [0x61]]] ∧
    ∀ loc held, write.2.node? loc = some (.file held) ↔
      occupiedTree.node? loc = some (.file held) := by
  obtain ⟨-, hfiles, -, -, hdirectory, -⟩ := disk_write_atomic occupiedTree blockedPath "x"
  have hfailed := (hdirectory (.ofText "a/../f")).2 ⟨by rfl, by decide, by rfl⟩
  refine ⟨hfailed, by rfl, fun loc held => hfiles loc held fun hok => ?_⟩
  obtain ⟨cause, herror⟩ := hfailed
  rw [herror] at hok
  cases hok

end Rulebook.Sink
