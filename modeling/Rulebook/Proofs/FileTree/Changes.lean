import Rulebook.Proofs.FileTree.Places
import Rulebook.Sink

/-!
What operations change. Directories are only ever made where there was nothing, and stay; files are
only ever written where no directory is. What an operation leaves alone is as it was.
-/

namespace Rulebook.FileTree

variable {t t' : FileTree} {p : Path} {loc parent : Location} {name : FileName}

/-! ## Putting a node -/

theorem lookup_setEntry (loc other : Location) (node : Node) (entries : List (Location × Node)) :
    (setEntry loc node entries).lookup other =
      if other = loc then some node else entries.lookup other := by
  induction entries with
  | nil =>
    rw [setEntry, List.lookup_cons]
    by_cases h : other = loc
    · rw [if_pos h, beq_iff_eq.2 h]
    · rw [if_neg h, beq_eq_false_iff_ne.2 h]
  | cons entry rest ih =>
    rw [setEntry]
    by_cases hentry : entry.1 = loc
    · rw [if_pos hentry, List.lookup_cons, List.lookup_cons, hentry]
      by_cases h : other = loc
      · rw [if_pos h, beq_iff_eq.2 h]
      · rw [if_neg h, beq_eq_false_iff_ne.2 h]
    · rw [if_neg hentry, List.lookup_cons, List.lookup_cons, ih]
      by_cases h : other = loc
      · subst h
        rw [if_pos rfl, if_pos rfl, beq_eq_false_iff_ne.2 (Ne.symm hentry)]
      · rw [if_neg h, if_neg h]

theorem node?_put {node : Node} (hparent : t.node? parent = some .directory)
    (hnode : t.node? (parent ++ [name]) ≠ some .directory) (loc : Location) :
    (t.put parent name node).node? loc =
      if loc = parent ++ [name] then some node else t.node? loc := by
  rw [put, dif_pos ⟨hparent, hnode⟩]
  by_cases hloc : loc = []
  · subst hloc
    rw [if_neg (List.concat_ne_nil _ _).symm]
    rfl
  · rw [node?_of_ne_nil hloc, node?_of_ne_nil hloc, lookup_setEntry]

@[simp] theorem home_put (node : Node) : (t.put parent name node).home = t.home := by
  unfold put
  split_ifs <;> rfl

/-! ## Changes -/

/-- What may become of a location where a directory may be made or a file be written. -/
inductive Changed (made written : Prop) : Option Node → Option Node → Prop
  | same (node : Option Node) : Changed made written node node
  | made (h : made) : Changed made written none (some .directory)
  | written (h : written) {node : Option Node} (hnode : node ≠ some .directory)
      (contents : List UInt8) : Changed made written node (some (.file contents))

/-- Directories are made and files are written at some locations at most. -/
structure Changes (made written : Location → Prop) (t t' : FileTree) : Prop where
  home : t'.home = t.home
  nodes : ∀ loc, Changed (made loc) (written loc) (t.node? loc) (t'.node? loc)

namespace Changes

variable {made written made' written' : Location → Prop} {t'' : FileTree}

theorem refl (made written : Location → Prop) (t : FileTree) : Changes made written t t :=
  ⟨rfl, fun _ => .same _⟩

theorem mono (h : Changes made written t t') (hmade : ∀ loc, made loc → made' loc)
    (hwritten : ∀ loc, written loc → written' loc) : Changes made' written' t t' := by
  refine ⟨h.home, fun loc => ?_⟩
  have hnode := h.nodes loc
  generalize t.node? loc = node at hnode
  generalize t'.node? loc = node' at hnode
  cases hnode with
  | same => exact .same _
  | made hloc => exact .made (hmade loc hloc)
  | written hloc hnode contents => exact .written (hwritten loc hloc) hnode contents

theorem trans (h : Changes made written t t') (h' : Changes made written t' t'') :
    Changes made written t t'' := by
  refine ⟨h'.home.trans h.home, fun loc => ?_⟩
  -- A directory that the first change made is left alone by the second one; a file may be written
  -- again.
  have hfirst := h.nodes loc
  have hsecond := h'.nodes loc
  generalize t.node? loc = node at hfirst
  generalize t'.node? loc = node' at hfirst hsecond
  generalize t''.node? loc = node'' at hsecond
  cases hfirst with
  | same => exact hsecond
  | made hloc =>
    cases hsecond with
    | same => exact .made hloc
    | written _ hnode => exact absurd rfl hnode
  | written hloc hnode contents =>
    cases hsecond with
    | same => exact .written hloc hnode contents
    | written _ _ contents => exact .written hloc hnode contents

theorem directory (h : Changes made written t t') (hloc : t.node? loc = some .directory) :
    t'.node? loc = some .directory := by
  have hnode := h.nodes loc
  rw [hloc] at hnode
  generalize t'.node? loc = node' at hnode
  cases hnode with
  | same => rfl
  | written _ hnode => exact absurd rfl hnode

/-- A directory that is new was made. -/
theorem of_directory (h : Changes made written t t') (hloc : t'.node? loc = some .directory) :
    t.node? loc = some .directory ∨ made loc := by
  have hnode := h.nodes loc
  rw [hloc] at hnode
  generalize t.node? loc = node at hnode
  cases hnode with
  | same => exact Or.inl rfl
  | made hloc => exact Or.inr hloc

/-- Where no file was written, there are the same files. -/
theorem file_iff (h : Changes made written t t') (hloc : ¬ written loc) (contents : List UInt8) :
    t'.node? loc = some (.file contents) ↔ t.node? loc = some (.file contents) := by
  have hnode := h.nodes loc
  generalize t.node? loc = node at hnode
  generalize t'.node? loc = node' at hnode
  cases hnode with
  | same => exact Iff.rfl
  | made => simp only [reduceCtorEq, Option.some.injEq]
  | written hwritten => exact absurd hwritten hloc

theorem start_eq (h : Changes made written t t') (p : Path) : t'.start p = t.start p := by
  rw [start, start, h.home]

theorem location_eq (h : Changes made written t t') (p : Path) : t'.location p = t.location p := by
  rw [location, location, h.start_eq]

/-! ## Paths after changes -/

theorem enter_ok (h : Changes made written t t') {segment : Segment} {next : Location}
    (hnext : t.enter loc segment = .ok next) : t'.enter loc segment = .ok next := by
  cases segment with
  | here | up | overlong => exact hnext
  | name name =>
    rw [enter] at hnext ⊢
    split at hnext
    · cases hnext
    · next hnode =>
      rw [h.directory hnode]
      exact hnext
    · cases hnext

theorem into_ok (h : Changes made written t t') {segments : List Segment} {dir : Location}
    (hdir : t.into loc segments = .ok dir) : t'.into loc segments = .ok dir := by
  induction segments generalizing loc with
  | nil => exact hdir
  | cons segment segments ih =>
    rw [into, List.foldlM_cons] at hdir ⊢
    obtain ⟨next, hnext, hrest⟩ := bind_eq_ok.1 hdir
    exact bind_eq_ok.2 ⟨next, h.enter_ok hnext, ih hrest⟩

theorem place_ok (h : Changes made written t t') {place : Place} (hplace : t.place p = .ok place) :
    t'.place p = .ok place := by
  have hwalk := walk_of_place hplace
  have hwalk' : t'.walk (t'.start p) (steps p) = .ok place := by
    rw [h.start_eq]
    rcases List.eq_nil_or_concat (steps p) with hnil | ⟨segments, segment, hsteps⟩
    · rw [hnil] at hwalk ⊢
      exact hwalk
    · rw [hsteps, List.concat_eq_append, walk_concat] at hwalk ⊢
      obtain ⟨dir, hdir, hlast⟩ := bind_eq_ok.1 hwalk
      refine bind_eq_ok.2 ⟨dir, h.into_ok hdir, ?_⟩
      cases segment <;> exact hlast
  -- The tests before the walk look at the path alone.
  unfold FileTree.place at hplace ⊢
  split_ifs at hplace ⊢
  exact hwalk'

/-- A file is found where it was unless another one was written there. -/
theorem find_file (h : Changes made written t t') {contents : List UInt8}
    (hfind : t.find p = .ok (loc, .file contents)) (hloc : ¬ written loc) :
    t'.find p = .ok (loc, .file contents) := by
  obtain ⟨parent, name, hname, hplace, hslash, hnode⟩ := find_eq_file.1 hfind
  exact find_eq_file.2
    ⟨parent, name, hname, h.place_ok hplace, hslash, (h.file_iff hloc contents).2 hnode⟩

/-- A directory is found where it was. -/
theorem find_directory (h : Changes made written t t')
    (hfind : t.find p = .ok (loc, .directory)) : t'.find p = .ok (loc, .directory) := by
  obtain ⟨place, hplace, hfind⟩ := bind_eq_ok.1 hfind
  refine bind_eq_ok.2 ⟨place, h.place_ok hplace, ?_⟩
  split at hfind
  · exact hfind
  · cases hfind
  · split at hfind
    · cases hfind
    · split_ifs at hfind
      cases hfind
    · next hnode =>
      simp only [h.directory hnode]
      exact hfind

theorem isDirectory (h : Changes made written t t') (hp : t.isDirectory p = true) :
    t'.isDirectory p = true := by
  obtain ⟨dir, hdir⟩ := isDirectory_iff.1 hp
  exact isDirectory_iff.2 ⟨dir, h.find_directory hdir⟩

end Changes

/-! ## Operations -/

theorem put_changes {node : Node} {made written : Location → Prop}
    (h : Changed (made (parent ++ [name])) (written (parent ++ [name]))
      (t.node? (parent ++ [name])) (some node))
    (hnode : t.node? (parent ++ [name]) ≠ some .directory) :
    Changes made written t (t.put parent name node) := by
  refine ⟨home_put node, fun loc => ?_⟩
  by_cases hparent : t.node? parent = some .directory
  · rw [node?_put hparent hnode]
    by_cases hloc : loc = parent ++ [name]
    · rw [if_pos hloc, hloc]
      exact h
    · rw [if_neg hloc]
      exact .same _
  · -- Without its directory nothing is put.
    rw [put, dif_neg fun hput => hparent hput.1]
    exact .same _

theorem makeDirectory_changes (h : t.makeDirectory p = .ok t') :
    Changes (· = t.location p) (fun _ => False) t t' := by
  obtain ⟨place, hplace, h⟩ := bind_eq_ok.1 h
  split at h
  · cases h
  · cases h
  · next parent name =>
    split at h
    · cases h
    · next hnode =>
      cases h
      refine put_changes ?_ (by rw [hnode]; exact nofun)
      rw [hnode]
      exact .made (location_of_place hplace).symm

theorem write_ok {contents : List UInt8} (h : t.write p contents = .ok t') :
    ∃ parent name, t.place p = .ok (.entry parent (some name)) ∧
      t.node? (parent ++ [name]) ≠ some .directory ∧ p.endsInSlash = false ∧
      t' = t.put parent name (.file contents) := by
  obtain ⟨⟨parent, name, held⟩, hwritable, h⟩ := bind_eq_ok.1 h
  cases h
  obtain ⟨place, hplace, h⟩ := bind_eq_ok.1 hwritable
  split at h
  · cases h
  · next parent' name' =>
    split_ifs at h with hslash
    split at h
    · cases h
    split at h
    · cases h
    · next hnode =>
      cases h
      exact ⟨parent, name, hplace, by rw [hnode]; exact nofun, by simpa using hslash, rfl⟩
    · next hnode =>
      cases h
      exact ⟨parent, name, hplace, by rw [hnode]; exact nofun, by simpa using hslash, rfl⟩

theorem write_changes {contents : List UInt8} (h : t.write p contents = .ok t') :
    Changes (fun _ => False) (· = t.location p) t t' := by
  obtain ⟨parent, name, hplace, hnode, -, rfl⟩ := write_ok h
  exact put_changes (.written (location_of_place hplace).symm hnode contents) hnode

/-- What was written is found, unless the directory that paths start from is none. -/
theorem find_of_write {contents : List UInt8} (h : t.write p contents = .ok t')
    (hstart : t.node? (t.start p) = some .directory) :
    t'.find p = .ok (t.location p, .file contents) := by
  have hchanges := write_changes h
  obtain ⟨parent, name, hplace, hnode, hslash, rfl⟩ := write_ok h
  obtain ⟨segments, -, hdir⟩ := into_of_place_entry hplace
  have hparent := (into_ok hdir).2.2 hstart
  refine find_eq_file.2
    ⟨parent, name, location_of_place hplace, hchanges.place_ok hplace, hslash, ?_⟩
  rw [node?_put hparent hnode, location_of_place hplace, if_pos rfl]

/-! ## Computations -/

theorem run_tryChange_ok {change : FileTree → Except IoError FileTree} (h : change t = .ok t') :
    (tryChange change).run t = (.ok (), t') := by
  show tryChange change t = _
  rw [tryChange, h]

theorem run_tryChange_error {change : FileTree → Except IoError FileTree} {cause : IoError}
    (h : change t = .error cause) : (tryChange change).run t = (.error cause, t) := by
  show tryChange change t = _
  rw [tryChange, h]

theorem run_makeDirectory_ok {p : Path} (h : t.makeDirectory p = .ok t') :
    (FileTree.host.makeDirectory p).run t = (.ok (), t') := run_tryChange_ok h

theorem run_makeDirectory_error {p : Path} {cause : IoError}
    (h : t.makeDirectory p = .error cause) :
    (FileTree.host.makeDirectory p).run t = (.error cause, t) := run_tryChange_error h

theorem run_write_ok {p : Path} {contents : List UInt8} (h : t.write p contents = .ok t') :
    (FileTree.host.write p contents).run t = (.ok (), t') := run_tryChange_ok h

theorem run_write_error {p : Path} {contents : List UInt8} {cause : IoError}
    (h : t.write p contents = .error cause) :
    (FileTree.host.write p contents).run t = (.error cause, t) := run_tryChange_error h

end Rulebook.FileTree
