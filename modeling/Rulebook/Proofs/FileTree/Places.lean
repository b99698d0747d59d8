import Rulebook.FileTree.Operations
import Rulebook.Proofs.Outcome
import Rulebook.Proofs.Path

/-!
Where paths lead. A path that can be followed leads to one location, whatever else the tree has;
a name that is joined to it leads to that name in the directory there.
-/

namespace Rulebook

theorem FileName.bytes_injective : Function.Injective FileName.bytes := by
  intro a b h
  cases a
  cases b
  cases h
  rfl

namespace FileTree

variable {t : FileTree} {p : Path} {loc : Location} {segments rest : List Segment}

/-! ## Listed locations -/

theorem node?_of_ne_nil (h : loc ≠ []) : t.node? loc = t.entries.lookup loc := if_neg h

theorem mem_entries_of_node? {node : Node} (hloc : loc ≠ []) (h : t.node? loc = some node) :
    (loc, node) ∈ t.entries := by
  rw [node?_of_ne_nil hloc] at h
  exact (lookup_eq_some_iff t.nodup).1 h

theorem node?_of_mem_entries {node : Node} (h : (loc, node) ∈ t.entries) :
    t.node? loc = some node := by
  rw [node?_of_ne_nil (t.closed _ h).1]
  exact (lookup_eq_some_iff t.nodup).2 h

/-- Whatever there is lies in a directory. -/
theorem node?_dropLast {node : Node} (h : t.node? loc = some node) :
    t.node? loc.dropLast = some .directory ∨ loc = [] := by
  by_cases hloc : loc = []
  · exact Or.inr hloc
  · rcases (t.closed _ (mem_entries_of_node? hloc h)).2 with hnil | hmem
    · exact Or.inl (by rw [hnil]; rfl)
    · exact Or.inl (node?_of_mem_entries hmem)

@[simp] theorem mem_namesIn {name : FileName} :
    name ∈ t.namesIn loc ↔ ∃ node, t.node? (loc ++ [name]) = some node := by
  unfold namesIn
  rw [List.mem_filterMap]
  constructor
  · rintro ⟨⟨l, node⟩, hmem, hname⟩
    split_ifs at hname with hloc
    obtain ⟨before, rfl⟩ := List.getLast?_eq_some_iff.1 hname
    rw [List.dropLast_concat] at hloc
    exact ⟨node, node?_of_mem_entries (hloc ▸ hmem)⟩
  · rintro ⟨node, hnode⟩
    refine ⟨(loc ++ [name], node), mem_entries_of_node? (List.concat_ne_nil _ _) hnode, ?_⟩
    rw [if_pos (List.dropLast_concat), List.getLast?_concat]

theorem nodup_namesIn (t : FileTree) (loc : Location) : (t.namesIn loc).Nodup := by
  refine List.pairwise_filterMap.2 ((List.pairwise_map.1 t.nodup).imp ?_)
  rintro ⟨l, node⟩ ⟨l', node'⟩ hne name hname name' hname' rfl
  split_ifs at hname hname' with hl hl'
  obtain ⟨before, rfl⟩ := List.getLast?_eq_some_iff.1 hname
  obtain ⟨before', rfl⟩ := List.getLast?_eq_some_iff.1 hname'
  rw [List.dropLast_concat] at hl hl'
  exact hne (by rw [hl, hl'])

/-! ## Where steps lead -/

/-- Where steps from a location lead, whether there are directories on the way or not. A name that
is too long leads nowhere, and nothing behind it counts. -/
def follow (loc : Location) : List Segment → Location
  | [] => loc
  | .here :: rest => follow loc rest
  | .up :: rest => follow loc.dropLast rest
  | .name name :: rest => follow (loc ++ [name]) rest
  | .overlong :: _ => loc

theorem follow_append (h : Segment.overlong ∉ segments) (loc : Location) (rest : List Segment) :
    follow loc (segments ++ rest) = follow (follow loc segments) rest := by
  induction segments generalizing loc with
  | nil => rfl
  | cons segment segments ih =>
    have htail := ih fun hmem => h (List.mem_cons_of_mem _ hmem)
    cases segment with
    | here => exact htail loc
    | up => exact htail loc.dropLast
    | name name => exact htail (loc ++ [name])
    | overlong => exact absurd List.mem_cons_self h

/-- Steps that never go up lead to what lies below. -/
theorem prefix_follow (h : Segment.up ∉ segments) (loc : Location) :
    loc <+: follow loc segments := by
  induction segments generalizing loc with
  | nil => exact List.prefix_rfl
  | cons segment segments ih =>
    have htail := ih fun hmem => h (List.mem_cons_of_mem _ hmem)
    cases segment with
    | here => exact htail loc
    | up => exact absurd List.mem_cons_self h
    | name name => exact (List.prefix_append loc [name]).trans (htail (loc ++ [name]))
    | overlong => exact List.prefix_rfl

theorem follow_prefix_follow_append (h : Segment.up ∉ rest) (loc : Location)
    (segments : List Segment) : follow loc segments <+: follow loc (segments ++ rest) := by
  induction segments generalizing loc with
  | nil => exact prefix_follow h loc
  | cons segment segments ih =>
    cases segment with
    | here => exact ih loc
    | up => exact ih loc.dropLast
    | name name => exact ih (loc ++ [name])
    | overlong => exact List.prefix_rfl

theorem follow_append_of_overlong (h : Segment.overlong ∈ segments) (loc : Location)
    (rest : List Segment) : follow loc (segments ++ rest) = follow loc segments := by
  induction segments generalizing loc with
  | nil => exact absurd h List.not_mem_nil
  | cons segment segments ih =>
    cases segment with
    | overlong => rfl
    | here => exact ih (List.mem_of_ne_of_mem Segment.noConfusion h) loc
    | up => exact ih (List.mem_of_ne_of_mem Segment.noConfusion h) loc.dropLast
    | name name => exact ih (List.mem_of_ne_of_mem Segment.noConfusion h) (loc ++ [name])

def steps (p : Path) : List Segment := p.segments.map Segment.ofBytes

def location (t : FileTree) (p : Path) : Location := follow (t.start p) (steps p)

/-- A path starts from a directory. -/
@[simp] theorem node?_start (t : FileTree) (p : Path) : t.node? (t.start p) = some .directory := by
  unfold start
  split_ifs
  · rfl
  · exact t.node?_home

/-! ## Following steps -/

def into (t : FileTree) (loc : Location) (segments : List Segment) : Except IoError Location :=
  segments.foldlM t.enter loc

theorem enter_ok {segment : Segment} {next : Location} (h : t.enter loc segment = .ok next) :
    segment ≠ .overlong ∧ (∀ rest, follow loc (segment :: rest) = follow next rest) ∧
      (t.node? loc = some .directory → t.node? next = some .directory) := by
  cases segment with
  | here =>
    cases h
    exact ⟨Segment.noConfusion, fun _ => rfl, id⟩
  | up =>
    cases h
    refine ⟨Segment.noConfusion, fun _ => rfl, fun hloc => ?_⟩
    rcases node?_dropLast hloc with h | rfl
    · exact h
    · rfl
  | name name =>
    rw [enter] at h
    split at h
    · cases h
    · next hnode =>
      cases h
      exact ⟨Segment.noConfusion, fun _ => rfl, fun _ => hnode⟩
    · cases h
  | overlong => cases h

theorem into_ok {dir : Location} (h : t.into loc segments = .ok dir) :
    .overlong ∉ segments ∧ dir = follow loc segments ∧
      (t.node? loc = some .directory → t.node? dir = some .directory) := by
  induction segments generalizing loc with
  | nil =>
    cases h
    exact ⟨List.not_mem_nil, rfl, id⟩
  | cons segment segments ih =>
    rw [into, List.foldlM_cons] at h
    obtain ⟨next, hnext, hrest⟩ := bind_eq_ok.1 h
    obtain ⟨hlong, hfollow, hdir⟩ := enter_ok hnext
    obtain ⟨hlongs, rfl, hdirs⟩ := ih hrest
    refine ⟨?_, (hfollow segments).symm, hdirs ∘ hdir⟩
    exact fun hmem => (List.mem_cons.1 hmem).elim (fun heq => hlong heq.symm) hlongs

theorem walk_cons {segment : Segment} (h : rest ≠ []) :
    t.walk loc (segment :: rest) = t.enter loc segment >>= fun next => t.walk next rest := by
  cases rest with
  | nil => exact absurd rfl h
  | cons other rest => cases segment <;> rfl

theorem walk_append (segments : List Segment) (h : rest ≠ []) :
    t.walk loc (segments ++ rest) = t.into loc segments >>= fun dir => t.walk dir rest := by
  induction segments generalizing loc with
  | nil => rfl
  | cons first segments ih =>
    rw [List.cons_append, walk_cons (List.append_ne_nil_of_right_ne_nil _ h), into,
      List.foldlM_cons, bind_assoc]
    congr 1
    funext next
    exact ih

theorem walk_concat (segments : List Segment) (segment : Segment) :
    t.walk loc (segments ++ [segment]) =
      t.into loc segments >>= fun dir => t.walk dir [segment] :=
  walk_append segments (List.cons_ne_nil _ _)

/-! ## Following paths -/

theorem walk_of_place {place : Place} (h : t.place p = .ok place) :
    t.walk (t.start p) (steps p) = .ok place := by
  unfold FileTree.place at h
  split_ifs at h
  exact h

/-- A path to an entry leads into a directory first, and then to a name in it. -/
theorem into_of_place_entry {name : FileName} (h : t.place p = .ok (.entry loc (some name))) :
    ∃ segments, steps p = segments ++ [.name name] ∧ t.into (t.start p) segments = .ok loc := by
  have hwalk := walk_of_place h
  -- Only a last step that is a name ends at an entry.
  rcases List.eq_nil_or_concat (steps p) with hnil | ⟨segments, segment, hsteps⟩
  · rw [hnil] at hwalk
    cases hwalk
  · rw [hsteps, List.concat_eq_append, walk_concat] at hwalk
    obtain ⟨dir, hdir, hlast⟩ := bind_eq_ok.1 hwalk
    cases segment <;> cases hlast
    exact ⟨segments, by rw [hsteps, List.concat_eq_append], hdir⟩

theorem into_of_place_directory (h : t.place p = .ok (.directory loc)) :
    t.into (t.start p) (steps p) = .ok loc := by
  have hwalk := walk_of_place h
  rcases List.eq_nil_or_concat (steps p) with hnil | ⟨segments, segment, hsteps⟩
  · rw [hnil] at hwalk ⊢
    cases hwalk
    rfl
  · rw [hsteps, List.concat_eq_append, walk_concat] at hwalk
    obtain ⟨dir, hdir, hlast⟩ := bind_eq_ok.1 hwalk
    rw [hsteps, List.concat_eq_append, into, List.foldlM_append]
    refine bind_eq_ok.2 ⟨dir, hdir, ?_⟩
    cases segment <;> cases hlast <;> rfl

theorem into_of_find (h : t.find p = .ok (loc, .directory)) :
    t.into (t.start p) (steps p) = .ok loc := by
  obtain ⟨place, hplace, h⟩ := bind_eq_ok.1 h
  split at h
  · cases h
    exact into_of_place_directory hplace
  · cases h
  · next parent name =>
    obtain ⟨segments, hsteps, hdir⟩ := into_of_place_entry hplace
    split at h
    · cases h
    · split_ifs at h
      all_goals cases h
    · next hnode =>
      cases h
      rw [hsteps, into, List.foldlM_append]
      refine bind_eq_ok.2 ⟨parent, hdir, ?_⟩
      rw [List.foldlM_cons, enter, hnode]
      rfl

/-- A path to a file leads to a name in a directory. -/
theorem find_eq_file {contents : List UInt8} :
    t.find p = .ok (loc, .file contents) ↔ ∃ parent name, loc = parent ++ [name] ∧
      t.place p = .ok (.entry parent (some name)) ∧ p.endsInSlash = false ∧
      t.node? loc = some (.file contents) := by
  constructor
  · intro h
    obtain ⟨place, hplace, h⟩ := bind_eq_ok.1 h
    split at h
    · cases h
    · cases h
    · next parent name =>
      split at h
      · cases h
      · next held hnode =>
        split_ifs at h with hslash
        cases h
        exact ⟨parent, name, rfl, hplace, by simpa using hslash, hnode⟩
      · cases h
  · rintro ⟨parent, name, rfl, hplace, hslash, hnode⟩
    refine bind_eq_ok.2 ⟨_, hplace, ?_⟩
    simp only [hnode, hslash]
    rfl

theorem isDirectory_iff : t.isDirectory p = true ↔ ∃ dir, t.find p = .ok (dir, .directory) := by
  unfold isDirectory
  split
  · next dir hfind => exact ⟨fun _ => ⟨dir, hfind⟩, fun _ => rfl⟩
  · next hfind => exact ⟨fun h => absurd h Bool.false_ne_true, fun ⟨dir, h⟩ => absurd h (hfind dir)⟩

theorem list_of_find (h : t.find p = .ok (loc, .directory)) :
    t.list p = .ok ((t.namesIn loc).map (·.bytes)) := by
  rw [list, h]
  rfl

theorem location_of_place {name : FileName} (h : t.place p = .ok (.entry loc (some name))) :
    t.location p = loc ++ [name] := by
  obtain ⟨segments, hsteps, hdir⟩ := into_of_place_entry h
  obtain ⟨hlong, rfl, -⟩ := into_ok hdir
  rw [location, hsteps, follow_append hlong]
  rfl

/-- What a path leads to in a tree is at its location, which depends on nothing in the tree. -/
theorem location_of_find {node : Node} (h : t.find p = .ok (loc, node)) : loc = t.location p := by
  cases node with
  | directory => exact (into_ok (into_of_find h)).2.1
  | file contents =>
    obtain ⟨parent, name, rfl, hplace, -⟩ := find_eq_file.1 h
    exact (location_of_place hplace).symm

/-! ## Names in directories -/

section Join

variable {bytes : List UInt8}

theorem ofBytes_of_isPlain (h : Path.IsPlain bytes) :
    Segment.ofBytes bytes = .overlong ∨ ∃ name : FileName, name.bytes = bytes ∧
      Segment.ofBytes bytes = .name name := by
  rw [Segment.ofBytes, if_neg h.ne_here, if_neg h.ne_up, FileName.ofBytes?]
  split_ifs with hvalid
  · exact Or.inr ⟨_, rfl, rfl⟩
  · exact Or.inl rfl

theorem isPlain_bytes (name : FileName) : Path.IsPlain name.bytes := by
  have hvalid := name.valid
  simp only [isFileName, Bool.and_eq_true, Bool.not_eq_true', bne_iff_ne, ne_eq,
    List.isEmpty_eq_false_iff] at hvalid
  obtain ⟨⟨⟨⟨⟨hnil, -⟩, hslash⟩, -⟩, hhere⟩, hup⟩ := hvalid
  exact ⟨hnil, fun hmem => by simp [hmem] at hslash, hhere, hup⟩

theorem steps_join (h : Path.IsPlain bytes) (p : Path) :
    steps (p.join ⟨bytes⟩) = steps p ++ [Segment.ofBytes bytes] := by
  rw [steps, h.segments_join, List.map_append]
  rfl

theorem start_join (h : Path.IsPlain bytes) (p : Path) :
    t.start (p.join ⟨bytes⟩) = t.start p := by
  rw [start, start, Path.isAbsolute_join h.slash_not_mem]

theorem into_of_place_join {place : Place} (h : Path.IsPlain bytes)
    (hplace : t.place (p.join ⟨bytes⟩) = .ok place) :
    ∃ dir, t.into (t.start p) (steps p) = .ok dir ∧ (place = .entry dir none ∨
      ∃ name : FileName, name.bytes = bytes ∧ place = .entry dir (some name)) := by
  have hwalk := walk_of_place hplace
  rw [start_join h, steps_join h, walk_concat] at hwalk
  obtain ⟨dir, hdir, hlast⟩ := bind_eq_ok.1 hwalk
  refine ⟨dir, hdir, ?_⟩
  rcases ofBytes_of_isPlain h with hlong | ⟨name, hname, hsegment⟩
  · rw [hlong] at hlast
    cases hlast
    exact Or.inl rfl
  · rw [hsegment] at hlast
    cases hlast
    exact Or.inr ⟨name, hname, rfl⟩

/-- A path to a name in a directory that is a directory itself. -/
theorem node?_of_find_join {name : FileName} {dir : Location}
    (h : t.find p = .ok (dir, .directory))
    (hjoin : t.isDirectory (p.join ⟨name.bytes⟩) = true) :
    t.node? (dir ++ [name]) = some .directory := by
  obtain ⟨loc, hfind⟩ := isDirectory_iff.1 hjoin
  obtain ⟨place, hplace, hnode⟩ := bind_eq_ok.1 hfind
  obtain ⟨dir', hdir, rfl | ⟨name', hname, rfl⟩⟩ := into_of_place_join (isPlain_bytes name) hplace
  · cases hnode
  · rw [into_of_find h] at hdir
    cases hdir
    obtain rfl := FileName.bytes_injective hname
    simp only at hnode
    split at hnode
    · cases hnode
    · split_ifs at hnode
      cases hnode
    · next hdirectory => exact hdirectory

/-- What a joined name adds to the location of a path: nothing, if the name is too long. -/
theorem location_join (h : Path.IsPlain bytes) (p : Path) :
    t.location (p.join ⟨bytes⟩) = t.location p ∨ ∃ name : FileName, name.bytes = bytes ∧
      t.location (p.join ⟨bytes⟩) = t.location p ++ [name] := by
  unfold location
  rw [start_join h, steps_join h]
  -- Behind a name that is too long nothing counts, and it leads nowhere itself.
  by_cases hlong : Segment.overlong ∈ steps p
  · exact Or.inl (follow_append_of_overlong hlong _ _)
  · rw [follow_append hlong]
    rcases ofBytes_of_isPlain h with hsegment | ⟨name, hname, hsegment⟩
    · rw [hsegment]
      exact Or.inl rfl
    · rw [hsegment]
      exact Or.inr ⟨name, hname, rfl⟩

/-- A file by its path in a directory of a directory. -/
theorem location_of_find_join_join {file contents : List UInt8} (h : Path.IsPlain bytes)
    (hfile : Path.IsPlain file)
    (hfind : t.find ((p.join ⟨bytes⟩).join ⟨file⟩) = .ok (loc, .file contents)) :
    ∃ dir name : FileName, dir.bytes = bytes ∧ name.bytes = file ∧
      loc = t.location p ++ [dir, name] := by
  obtain ⟨parent, name, rfl, hplace, -⟩ := find_eq_file.1 hfind
  obtain ⟨dir, hdir, hentry | ⟨name', hname, hentry⟩⟩ := into_of_place_join hfile hplace
  · cases hentry
  cases hentry
  rw [start_join h, steps_join h, into, List.foldlM_append] at hdir
  -- Of the steps to the file only the last two are names that were joined.
  obtain ⟨before, hbefore, hlast⟩ := bind_eq_ok.1 hdir
  obtain ⟨-, rfl, -⟩ := into_ok hbefore
  rw [List.foldlM_cons] at hlast
  obtain ⟨next, hnext, hnil⟩ := bind_eq_ok.1 hlast
  cases hnil
  rcases ofBytes_of_isPlain h with hsegment | ⟨key, hkey, hsegment⟩
  · rw [hsegment] at hnext
    cases hnext
  · obtain ⟨-, hfollow, -⟩ := enter_ok hnext
    have hparent : parent = t.location p ++ [key] := by
      have hstep := hfollow []
      rw [hsegment] at hstep
      exact hstep.symm
    exact ⟨key, name, hkey, hname, by rw [hparent, List.append_assoc]; rfl⟩

end Join

/-! ## Starts of paths -/

theorem location_prefix {q : Path} (h : Path.IsStart q.bytes p.bytes) (hq : q.bytes ≠ [])
    (hup : Segment.up ∉ steps p) : t.location q <+: t.location p := by
  obtain ⟨rest, hrest⟩ := h.segments_prefix
  have hsteps : steps p = steps q ++ rest.map Segment.ofBytes := by
    rw [steps, ← hrest, List.map_append]
    rfl
  unfold location start
  rw [h.isAbsolute_eq hq, hsteps]
  refine follow_prefix_follow_append (fun hmem => hup ?_) _ _
  rw [hsteps]
  exact List.mem_append_right _ hmem

end FileTree

end Rulebook
