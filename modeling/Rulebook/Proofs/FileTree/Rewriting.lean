import Rulebook.Proofs.FileTree.Changes

/-!
Making and writing again. Directories that are there are not made once more, and a file that is
written again where it lies only gets other contents: no location is added, so that such trees are
equal as soon as they have the same at every location.
-/

namespace Rulebook.FileTree

variable {t t' : FileTree} {p path : Path} {loc parent : Location} {name : FileName}

/-! ## Equal trees -/

theorem keys_setEntry {entries : List (Location × Node)} {node : Node}
    (h : loc ∈ entries.map (·.1)) :
    (setEntry loc node entries).map (·.1) = entries.map (·.1) := by
  induction entries with
  | nil => exact absurd h List.not_mem_nil
  | cons entry rest ih =>
    rw [setEntry]
    by_cases hentry : entry.1 = loc
    · rw [if_pos hentry, List.map_cons, List.map_cons, hentry]
    · have hrest : loc ∈ rest.map (·.1) :=
        (List.mem_cons.1 h).resolve_left fun heq => hentry heq.symm
      rw [if_neg hentry, List.map_cons, List.map_cons, ih hrest]

/-- Trees that list the same locations in the same order and have the same at each. -/
theorem eq_of_keys (hkeys : t.entries.map (·.1) = t'.entries.map (·.1)) (hhome : t.home = t'.home)
    (hnodes : ∀ loc, t.node? loc = t'.node? loc) : t = t' := by
  have hentries : t.entries = t'.entries := by
    refine List.ext_getElem (by simpa using congrArg List.length hkeys) fun i hi hi' => ?_
    have hkey : t.entries[i].1 = t'.entries[i].1 := by
      have hget := List.getElem_of_eq hkeys (by simpa using hi)
      simpa using hget
    have hnode : t.node? t.entries[i].1 = some t.entries[i].2 :=
      node?_of_mem_entries (List.getElem_mem hi)
    have hnode' : t'.node? t'.entries[i].1 = some t'.entries[i].2 :=
      node?_of_mem_entries (List.getElem_mem hi')
    rw [hnodes, hkey, hnode'] at hnode
    exact Prod.ext hkey (Option.some.inj hnode).symm
  cases t
  cases t'
  cases hentries
  cases hhome
  rfl

/-! ## Directories that are there -/

theorem makeDirectory_of_isDirectory (h : t.isDirectory p = true) :
    t.makeDirectory p = .error .alreadyExists := by
  obtain ⟨dir, hfind⟩ := isDirectory_iff.1 h
  obtain ⟨place, hplace, hnode⟩ := bind_eq_ok.1 hfind
  unfold FileTree.makeDirectory
  rw [hplace]
  split at hnode
  · rfl
  · cases hnode
  · next parent name =>
    split at hnode
    · cases hnode
    · split_ifs at hnode
      cases hnode
    · next hdirectory =>
      dsimp only [bind, Except.bind]
      rw [hdirectory]
      rfl

/-- Nothing is made where the first of the directories is there. -/
theorem run_makeDirectories_of_isDirectory (h : t.isDirectory p = true) (parents : List Path) :
    (FileTree.host.makeDirectories (p :: parents)).run t = (.ok (), t) := by
  have hmake := run_makeDirectory_error (makeDirectory_of_isDirectory h)
  have hlook : (FileTree.host.isDirectory p).run t = (true, t) := by
    show (t.isDirectory p, t) = _
    rw [h]
  rw [Host.makeDirectories]
  exact (run_bind_of_run hmake _).trans (run_bind_of_run hlook _)

theorem isDirectory_of_makeDirectory (hstart : t.node? (t.start p) = some .directory)
    (h : t.makeDirectory p = .ok t') : t'.isDirectory p = true := by
  have hchanges := makeDirectory_changes h
  obtain ⟨place, hplace, h⟩ := bind_eq_ok.1 h
  split at h
  · cases h
  · cases h
  · next parent name =>
    split at h
    · cases h
    · next hnode =>
      cases h
      obtain ⟨segments, -, hdir⟩ := into_of_place_entry hplace
      have hparent := (into_ok hdir).2.2 hstart
      have hmade : (t.put parent name .directory).node? (parent ++ [name]) = some .directory := by
        rw [node?_put hparent (by rw [hnode]; exact nofun), if_pos rfl]
      refine isDirectory_iff.2 ⟨parent ++ [name], bind_eq_ok.2 ⟨_, hchanges.place_ok hplace, ?_⟩⟩
      simp only [hmade]
      rfl

/-! ## Parents that are there -/

/-- The directory that a file is to lie in, if the path names one. -/
def HasParent (t : FileTree) (path : Path) : Prop :=
  ∀ parent, path.parent? = some parent → parent.bytes ≠ [] → t.isDirectory parent = true

theorem Changes.hasParent {made written : Location → Prop} (h : Changes made written t t')
    (hpath : t.HasParent path) : t'.HasParent path := fun parent hparent hne =>
  h.isDirectory (hpath parent hparent hne)

theorem run_makeParent_of_hasParent (h : t.HasParent path) :
    (Sink.makeParent FileTree.host path).run t = (.ok (), t) := by
  unfold Sink.makeParent
  cases hparent : path.parent? with
  | none => rfl
  | some parent =>
    by_cases hempty : parent.isEmpty = true
    · simp only [hempty]
      rfl
    · have hne : parent.bytes ≠ [] := fun hnil => hempty (by rw [Path.isEmpty, hnil]; rfl)
      obtain ⟨parents, hparents⟩ := Path.ancestors_eq_cons hne
      have hmake := run_makeDirectories_of_isDirectory (h parent hparent hne) parents
      rw [← hparents] at hmake
      simp only [hempty]
      exact run_bind_of_run hmake _

/-! ## Files that can be written again -/

/-- A path leads to a file, in the directory that it is to lie in. -/
structure Rewritable (t : FileTree) (path : Path) : Prop where
  parent : t.HasParent path
  held : ∃ contents, t.find path = .ok (t.location path, .file contents)

theorem Changes.rewritable {made written : Location → Prop} (h : Changes made written t t')
    (hpath : t.Rewritable path) : t'.Rewritable path := by
  refine ⟨h.hasParent hpath.parent, ?_⟩
  obtain ⟨contents, hfind⟩ := hpath.held
  obtain ⟨dir, name, hname, hplace, hslash, hnode⟩ := find_eq_file.1 hfind
  have hnodes := h.nodes (t.location path)
  rw [hnode] at hnodes
  rw [h.location_eq]
  -- A file stays a file, whatever is written to it.
  generalize hnode' : t'.node? (t.location path) = node' at hnodes
  cases hnodes with
  | same => exact ⟨contents, find_eq_file.2 ⟨dir, name, hname, h.place_ok hplace, hslash, hnode'⟩⟩
  | written _ _ others =>
    exact ⟨others, find_eq_file.2 ⟨dir, name, hname, h.place_ok hplace, hslash, hnode'⟩⟩

/-- What writing a file again does to a tree: nothing but to give it other contents. -/
structure Rewritten (t : FileTree) (loc : Location) (contents : List UInt8) (t' : FileTree) :
    Prop where
  home : t'.home = t.home
  keys : t'.entries.map (·.1) = t.entries.map (·.1)
  nodes : ∀ other, t'.node? other = if other = loc then some (.file contents) else t.node? other

theorem write_of_find {held : List UInt8} (h : t.find path = .ok (loc, .file held))
    (contents : List UInt8) :
    ∃ t', t.write path contents = .ok t' ∧ Rewritten t loc contents t' := by
  obtain ⟨dir, name, rfl, hplace, hslash, hnode⟩ := find_eq_file.1 h
  have hwritable : t.writable path = .ok (dir, name, some held) := by
    refine bind_eq_ok.2 ⟨_, hplace, ?_⟩
    simp only [hslash, hnode]
    rfl
  have hdir : t.node? dir = some .directory := by
    rcases node?_dropLast hnode with hdir | hnil
    · rwa [List.dropLast_concat] at hdir
    · exact absurd hnil (List.concat_ne_nil _ _)
  have hnone : t.node? (dir ++ [name]) ≠ some .directory := by
    rw [hnode]
    exact nofun
  refine ⟨t.put dir name (.file contents), bind_eq_ok.2 ⟨_, hwritable, rfl⟩, home_put _, ?_,
    node?_put hdir hnone⟩
  rw [put, dif_pos ⟨hdir, hnone⟩]
  exact keys_setEntry
    (List.mem_map.2 ⟨_, mem_entries_of_node? (List.concat_ne_nil _ _) hnode, rfl⟩)

end Rulebook.FileTree
