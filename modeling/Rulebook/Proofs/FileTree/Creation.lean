import Rulebook.Proofs.FileTree.Rewriting

/-!
Making a directory with those above it. If the directory above is missing it comes first, and the
directory above that before it. As a relation this has no bound, and yet it has an outcome for every
path, because a parent is always shorter than its path. It fails exactly if there is no directory in
the end.
-/

namespace Rulebook.FileTree

/-! ## Making directories -/

/-- One try to make a directory. If it cannot be made, it may be there. -/
inductive Attempt (t : FileTree) (p : Path) : Except IoError Unit → FileTree → Prop
  | made {t' : FileTree} (h : t.makeDirectory p = .ok t') : Attempt t p (.ok ()) t'
  | there {cause : IoError} (h : t.makeDirectory p = .error cause)
      (hdirectory : t.isDirectory p = true) : Attempt t p (.ok ()) t
  | refused {cause : IoError} (h : t.makeDirectory p = .error cause)
      (hdirectory : t.isDirectory p = false) : Attempt t p (.error cause) t

/-- Making a directory with those above it: what comes of it, and the tree that is left. Only if the
directory above is missing it comes first; then a second try counts. -/
inductive Creation (t : FileTree) : Path → Except IoError Unit → FileTree → Prop
  | nothing {p : Path} (hp : p.bytes = []) : Creation t p (.ok ()) t
  | tried {p : Path} {result : Except IoError Unit} {t' : FileTree} (hp : p.bytes ≠ [])
      (hfound : t.makeDirectory p ≠ .error .notFound) (hattempt : Attempt t p result t') :
      Creation t p result t'
  | stuck {p parent : Path} {cause : IoError} {t' : FileTree} (hp : p.bytes ≠ [])
      (hmissing : t.makeDirectory p = .error .notFound) (hparent : p.parent? = some parent)
      (hcreation : Creation t parent (.error cause) t') : Creation t p (.error cause) t'
  | triedAgain {p parent : Path} {result : Except IoError Unit} {t' t'' : FileTree}
      (hp : p.bytes ≠ []) (hmissing : t.makeDirectory p = .error .notFound)
      (hparent : p.parent? = some parent) (hcreation : Creation t parent (.ok ()) t')
      (hattempt : Attempt t' p result t'') : Creation t p result t''

variable {t t' : FileTree} {p parent : Path} {loc dir : Location} {segments : List Segment}
  {result : Except IoError Unit} {cause : IoError}

/-! ## Directories on the way -/

theorem walk_here (h : ∀ segment ∈ segments, segment = .here) :
    t.walk loc segments = .ok (.directory loc) := by
  induction segments with
  | nil => rfl
  | cons segment rest ih =>
    obtain rfl := h segment List.mem_cons_self
    cases rest with
    | nil => rfl
    | cons other rest =>
      rw [walk_cons (List.cons_ne_nil other rest)]
      exact ih fun segment hmem => h segment (List.mem_cons_of_mem _ hmem)

/-- The root is never missing. -/
theorem makeDirectory_ne_notFound (hp : p.bytes ≠ []) (h : p.parent? = none) :
    t.makeDirectory p ≠ .error .notFound := by
  obtain ⟨hsegments, habsolute⟩ := Path.of_parent?_eq_none hp h
  have hwalk : t.walk (t.start p) (p.segments.map Segment.ofBytes) =
      .ok (.directory (t.start p)) := by
    refine walk_here fun segment hsegment => ?_
    obtain ⟨name, hname, rfl⟩ := List.mem_map.1 hsegment
    rw [hsegments name hname]
    rfl
  unfold FileTree.makeDirectory place
  rw [hwalk]
  split_ifs <;> exact nofun

theorem find_of_into (hplace : t.place p = t.walk (t.start p) (steps p))
    (h : t.into (t.start p) (steps p) = .ok dir) : t.find p = .ok (dir, .directory) := by
  unfold FileTree.find
  rw [hplace]
  rcases List.eq_nil_or_concat (steps p) with hnil | ⟨segments, segment, hsteps⟩
  · rw [hnil] at h ⊢
    cases h
    rfl
  · rw [hsteps, List.concat_eq_append] at h ⊢
    rw [into, List.foldlM_append] at h
    obtain ⟨before, hbefore, hlast⟩ := bind_eq_ok.1 h
    obtain ⟨next, hnext, hnil⟩ := bind_eq_ok.1 hlast
    cases hnil
    refine bind_eq_ok.2 ?_
    rw [walk_concat]
    -- What the last step enters is what it names.
    cases segment with
    | here =>
      cases hnext
      exact ⟨_, bind_eq_ok.2 ⟨_, hbefore, rfl⟩, rfl⟩
    | up =>
      cases hnext
      exact ⟨_, bind_eq_ok.2 ⟨_, hbefore, rfl⟩, rfl⟩
    | name name =>
      rw [enter] at hnext
      split at hnext
      · cases hnext
      · next hnode =>
        cases hnext
        refine ⟨_, bind_eq_ok.2 ⟨before, hbefore, rfl⟩, ?_⟩
        simp only [hnode]
        rfl
      · cases hnext
    | overlong => cases hnext

/-- A directory lies in directories, also as far as its path tells. -/
theorem isDirectory_of_isStart (hp : t.isDirectory p = true) {q : Path}
    (h : Path.IsStart q.bytes p.bytes) (hq : q.bytes ≠ []) : t.isDirectory q = true := by
  obtain ⟨dir, hfind⟩ := isDirectory_iff.1 hp
  have hinto := into_of_find hfind
  obtain ⟨place, hplace, -⟩ := bind_eq_ok.1 hfind
  obtain ⟨tail, htail⟩ := h.segments_prefix
  have hsteps : steps p = steps q ++ tail.map Segment.ofBytes := by
    rw [steps, ← htail, List.map_append]
    rfl
  have hstart : t.start q = t.start p := by rw [start, start, h.isAbsolute_eq hq]
  rw [hsteps, into, List.foldlM_append] at hinto
  obtain ⟨before, hbefore, -⟩ := bind_eq_ok.1 hinto
  -- What may be wrong with a path as a whole is wrong with any that goes on from it.
  have hwalk : t.place q = t.walk (t.start q) (steps q) := by
    obtain ⟨rest, hrest, -⟩ := h
    unfold FileTree.place at hplace ⊢
    split_ifs at hplace with hnul hnil hlong
    rw [hrest] at hnul hlong
    have hnul' : ¬ q.bytes.contains 0 = true := fun hmem =>
      hnul (by simpa using Or.inl (by simpa using hmem))
    have hlong' : ¬ Path.lengthLimit < q.bytes.length := fun hlt =>
      hlong (by rw [List.length_append]; omega)
    rw [if_neg hnul', if_neg hq, if_neg hlong']
    rfl
  exact isDirectory_iff.2 ⟨before, find_of_into hwalk (hstart ▸ hbefore)⟩

/-! ## Tries -/

theorem exists_attempt (t : FileTree) (p : Path) : ∃ result t', Attempt t p result t' := by
  cases hmade : t.makeDirectory p with
  | ok t' => exact ⟨_, _, .made hmade⟩
  | error cause =>
    cases hdirectory : t.isDirectory p with
    | true => exact ⟨_, _, .there hmade hdirectory⟩
    | false => exact ⟨_, _, .refused hmade hdirectory⟩

theorem Attempt.run_eq (h : Attempt t p result t') :
    (FileTree.host.makeDirectory p >>= Host.makeDirectories.accept FileTree.host p).run t =
      (result, t') := by
  have hlook : (FileTree.host.isDirectory p).run t = (t.isDirectory p, t) := rfl
  cases h with
  | made hmade =>
    rw [run_bind_of_run (run_makeDirectory_ok hmade), Host.makeDirectories.accept]
    rfl
  | there hmade hdirectory =>
    rw [run_bind_of_run (run_makeDirectory_error hmade), Host.makeDirectories.accept,
      run_bind_of_run hlook, hdirectory]
    rfl
  | refused hmade hdirectory =>
    rw [run_bind_of_run (run_makeDirectory_error hmade), Host.makeDirectories.accept,
      run_bind_of_run hlook, hdirectory]
    rfl

theorem Attempt.isDirectory_iff (h : Attempt t p result t')
    (hstart : t.node? (t.start p) = some .directory) :
    t'.isDirectory p = true ↔ result = .ok () := by
  cases h with
  | made hmade => exact iff_of_true (isDirectory_of_makeDirectory hstart hmade) rfl
  | there _ hdirectory => exact iff_of_true hdirectory rfl
  | refused _ hdirectory => exact iff_of_false (by rw [hdirectory]; exact Bool.false_ne_true) nofun

theorem Attempt.changes (h : Attempt t p result t') :
    Changes (· = t.location p) (fun _ => False) t t' := by
  cases h with
  | made hmade => exact makeDirectory_changes hmade
  | there => exact .refl _ _ t
  | refused => exact .refl _ _ t

/-! ## With those above -/

/-- Unless the directory above is missing, one try decides. -/
theorem run_makeDirectories_of_found (h : t.makeDirectory p ≠ .error .notFound)
    (parents : List Path) :
    (FileTree.host.makeDirectories (p :: parents)).run t =
      (FileTree.host.makeDirectory p >>= Host.makeDirectories.accept FileTree.host p).run t := by
  rw [Host.makeDirectories]
  cases hmade : t.makeDirectory p with
  | ok t' =>
    rw [run_bind_of_run (run_makeDirectory_ok hmade),
      run_bind_of_run (run_makeDirectory_ok hmade)]
    rfl
  | error cause =>
    rw [run_bind_of_run (run_makeDirectory_error hmade),
      run_bind_of_run (run_makeDirectory_error hmade)]
    cases cause
    case notFound => exact absurd hmade h
    all_goals rfl

/-- Every path has an outcome: a parent is shorter than its path. -/
theorem exists_creation (t : FileTree) (p : Path) : ∃ result t', Creation t p result t' := by
  induction hlength : p.bytes.length using Nat.strongRecOn generalizing p with
  | ind n ih =>
    by_cases hp : p.bytes = []
    · exact ⟨_, _, .nothing hp⟩
    by_cases hfound : t.makeDirectory p = .error .notFound
    · cases hparent : p.parent? with
      | none => exact absurd hfound (makeDirectory_ne_notFound hp hparent)
      | some parent =>
        obtain ⟨result, t', hcreation⟩ :=
          ih parent.bytes.length (hlength ▸ Path.length_parent?_lt hparent) parent rfl
        cases result with
        | error cause => exact ⟨_, _, .stuck hp hfound hparent hcreation⟩
        | ok u =>
          obtain ⟨result, t'', hattempt⟩ := exists_attempt t' p
          exact ⟨_, _, .triedAgain hp hfound hparent hcreation hattempt⟩
    · obtain ⟨result, t', hattempt⟩ := exists_attempt t p
      exact ⟨_, _, .tried hp hfound hattempt⟩

theorem Creation.run_eq (h : Creation t p result t') :
    (FileTree.host.makeDirectoryWithParents p).run t = (result, t') := by
  unfold Host.makeDirectoryWithParents
  induction h with
  | nothing hp =>
    rw [Path.ancestors, hp]
    rfl
  | tried hp hfound hattempt =>
    obtain ⟨parents, hparents⟩ := Path.ancestors_eq_cons hp
    rw [hparents, run_makeDirectories_of_found hfound, hattempt.run_eq]
  | stuck hp hmissing hparent _ ih =>
    rw [Path.ancestors_of_parent?_eq_some hp hparent, Host.makeDirectories,
      run_bind_of_run (run_makeDirectory_error hmissing)]
    dsimp only
    rw [run_bind_of_run ih]
    rfl
  | triedAgain hp hmissing hparent _ hattempt ih =>
    rw [Path.ancestors_of_parent?_eq_some hp hparent, Host.makeDirectories,
      run_bind_of_run (run_makeDirectory_error hmissing)]
    dsimp only
    rw [run_bind_of_run ih]
    exact hattempt.run_eq

theorem creation_iff :
    Creation t p result t' ↔
      (FileTree.host.makeDirectoryWithParents p).run t = (result, t') := by
  refine ⟨Creation.run_eq, fun hrun => ?_⟩
  obtain ⟨found, left, hcreation⟩ := exists_creation t p
  rw [hcreation.run_eq] at hrun
  cases hrun
  exact hcreation

/-- Nothing is made but the directory and those above it, as far as its path tells of them. -/
theorem Creation.changes (h : Creation t p result t') :
    Changes (fun loc => ∃ q, q.bytes ≠ [] ∧ Path.IsStart q.bytes p.bytes ∧ loc = t.location q)
      (fun _ => False) t t' := by
  -- What a parent begins with, its path begins with too.
  have habove {p parent : Path} (hparent : p.parent? = some parent) (loc : Location) :
      (∃ q, q.bytes ≠ [] ∧ Path.IsStart q.bytes parent.bytes ∧ loc = t.location q) →
        ∃ q, q.bytes ≠ [] ∧ Path.IsStart q.bytes p.bytes ∧ loc = t.location q := by
    rintro ⟨q, hq, hstart, hloc⟩
    have hne : parent.bytes ≠ [] := hstart.ne_nil hq
    exact ⟨q, hq, hstart.trans (Path.isStart_of_parent? hparent hne), hloc⟩
  induction h with
  | nothing => exact .refl _ _ t
  | @tried p _ _ hp _ hattempt =>
    exact hattempt.changes.mono (fun _ hloc => ⟨p, hp, .refl _, hloc⟩) fun _ => id
  | stuck _ _ hparent _ ih => exact ih.mono (habove hparent) fun _ => id
  | @triedAgain p _ _ _ _ hp _ hparent _ hattempt ih =>
    have hagain := hattempt.changes
    rw [ih.location_eq] at hagain
    exact (ih.mono (habove hparent) fun _ => id).trans
      (hagain.mono (fun _ hloc => ⟨p, hp, .refl _, hloc⟩) fun _ => id)

/-- The directory is there in the end exactly if nothing has failed. -/
theorem Creation.isDirectory_iff (h : Creation t p result t') (hp : p.bytes ≠ []) :
    t'.isDirectory p = true ↔ result = .ok () := by
  induction h with
  | nothing hnil => exact absurd hnil hp
  | @tried p _ _ _ _ hattempt => exact hattempt.isDirectory_iff (node?_start _ p)
  | @stuck p parent cause t' _ _ hparent hcreation ih =>
    -- A directory would lie in its parent, which could not be made.
    have hne : parent.bytes ≠ [] := fun hnil => by
      cases hcreation with
      | tried hne | stuck hne | triedAgain hne => exact hne hnil
    refine iff_of_false (fun hdirectory => ?_) nofun
    have hthere := isDirectory_of_isStart hdirectory (Path.isStart_of_parent? hparent hne) hne
    exact absurd ((ih hne).1 hthere) nofun
  | @triedAgain p _ _ _ _ _ _ _ _ hattempt _ => exact hattempt.isDirectory_iff (node?_start _ p)

end Rulebook.FileTree
