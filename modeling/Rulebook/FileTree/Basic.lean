import Rulebook.Path

/-!
Trees of directories and files, without links. A tree lists every directory and file below the root
by its location; the root is always there. No location is listed twice, and whatever is listed lies
in a directory that is listed too.
-/

namespace Rulebook

def isFileName (bytes : List UInt8) : Bool :=
  !bytes.isEmpty && bytes.length ≤ 255 && !bytes.contains Path.slash && !bytes.contains 0
    && bytes != [Path.dot] && bytes != [Path.dot, Path.dot]

structure FileName where
  bytes : List UInt8
  valid : isFileName bytes = true
deriving DecidableEq, Repr

namespace FileName

def ofBytes? (bytes : List UInt8) : Option FileName :=
  if h : isFileName bytes = true then some ⟨bytes, h⟩ else none

end FileName

/-- Where something is: the names on the way to it from the root. -/
abbrev Location := List FileName

inductive Node where
  | directory
  | file (contents : List UInt8)
deriving DecidableEq, Repr, Inhabited

def setEntry (loc : Location) (node : Node) : List (Location × Node) → List (Location × Node)
  | [] => [(loc, node)]
  | entry :: rest =>
    if entry.1 = loc then (loc, node) :: rest else entry :: setEntry loc node rest

theorem mem_of_mem_setEntry {loc : Location} {node : Node} {e : Location × Node}
    {entries : List (Location × Node)} (h : e ∈ setEntry loc node entries) :
    e = (loc, node) ∨ e ∈ entries := by
  induction entries with
  | nil => exact Or.inl (by simpa [setEntry] using h)
  | cons entry rest ih =>
    simp only [setEntry] at h
    split at h
    · rcases List.mem_cons.1 h with rfl | h
      · exact Or.inl rfl
      · exact Or.inr (List.mem_cons_of_mem _ h)
    · rcases List.mem_cons.1 h with rfl | h
      · exact Or.inr List.mem_cons_self
      · exact (ih h).imp_right (List.mem_cons_of_mem _)

theorem mem_setEntry_of_ne {loc : Location} {node : Node} {e : Location × Node}
    {entries : List (Location × Node)} (h : e ∈ entries) (hne : e.1 ≠ loc) :
    e ∈ setEntry loc node entries := by
  induction entries with
  | nil => exact absurd h List.not_mem_nil
  | cons entry rest ih =>
    simp only [setEntry]
    rcases List.mem_cons.1 h with rfl | h
    · rw [if_neg hne]; exact List.mem_cons_self
    · split
      · exact List.mem_cons_of_mem _ h
      · exact List.mem_cons_of_mem _ (ih h)

theorem nodup_setEntry {loc : Location} {node : Node} {entries : List (Location × Node)}
    (h : (entries.map (·.1)).Nodup) : ((setEntry loc node entries).map (·.1)).Nodup := by
  induction entries with
  | nil => simp [setEntry]
  | cons entry rest ih =>
    have hc := List.nodup_cons.1 (List.map_cons ▸ h)
    simp only [setEntry]
    split
    · next heq => exact List.nodup_cons.2 ⟨heq ▸ hc.1, hc.2⟩
    · next hne =>
      refine List.nodup_cons.2 ⟨fun hmem => ?_, ih hc.2⟩
      obtain ⟨e, he, hfst⟩ := List.mem_map.1 hmem
      rcases mem_of_mem_setEntry he with rfl | he
      · exact hne hfst.symm
      · exact hc.1 (List.mem_map.2 ⟨e, he, hfst⟩)

/-- Directories and files, and the directory that relative paths start from. -/
structure FileTree where
  entries : List (Location × Node)
  nodup : (entries.map (·.1)).Nodup
  closed : ∀ e ∈ entries,
    e.1 ≠ [] ∧ (e.1.dropLast = [] ∨ (e.1.dropLast, Node.directory) ∈ entries)
  home : Location
  homed : home = [] ∨ (home, Node.directory) ∈ entries

namespace FileTree

def empty : FileTree where
  entries := []
  nodup := List.nodup_nil
  closed := fun _ h => absurd h List.not_mem_nil
  home := []
  homed := Or.inl rfl

instance : Inhabited FileTree := ⟨empty⟩

def node? (t : FileTree) (loc : Location) : Option Node :=
  if loc = [] then some .directory else t.entries.lookup loc

theorem lookup_eq_some_iff {loc : Location} {node : Node} {entries : List (Location × Node)}
    (hn : (entries.map (·.1)).Nodup) :
    entries.lookup loc = some node ↔ (loc, node) ∈ entries := by
  rw [List.lookup_eq_some_iff]
  constructor
  · rintro ⟨before, after, rfl, -⟩
    exact List.mem_append_right _ List.mem_cons_self
  · intro h
    obtain ⟨before, after, rfl⟩ := List.append_of_mem h
    refine ⟨before, after, rfl, fun e he => bne_iff_ne.2 ?_⟩
    rintro rfl
    rw [List.map_append, List.nodup_append] at hn
    exact hn.2.2 _ (List.mem_map_of_mem he) _ List.mem_cons_self rfl

theorem node?_eq_directory_iff {t : FileTree} {loc : Location} :
    t.node? loc = some .directory ↔ loc = [] ∨ (loc, Node.directory) ∈ t.entries := by
  unfold node?
  split
  · next h => exact iff_of_true rfl (Or.inl h)
  · next h => rw [lookup_eq_some_iff t.nodup, or_iff_right h]

@[simp] theorem node?_home (t : FileTree) : t.node? t.home = some .directory :=
  node?_eq_directory_iff.2 t.homed

/-- The tree with a node in a directory, unless a directory is there already. -/
def put (t : FileTree) (parent : Location) (name : FileName) (node : Node) : FileTree :=
  if h : t.node? parent = some .directory ∧ t.node? (parent ++ [name]) ≠ some .directory then
    have keep {loc : Location} (hloc : loc = [] ∨ (loc, Node.directory) ∈ t.entries) :
        loc = [] ∨ (loc, Node.directory) ∈ setEntry (parent ++ [name]) node t.entries :=
      hloc.imp_right fun hmem => mem_setEntry_of_ne hmem fun heq =>
        h.2 (heq ▸ node?_eq_directory_iff.2 hloc)
    { t with
      entries := setEntry (parent ++ [name]) node t.entries
      nodup := nodup_setEntry t.nodup
      closed := by
        intro e he
        rcases mem_of_mem_setEntry he with rfl | he
        · refine ⟨List.concat_ne_nil _ _, ?_⟩
          rw [List.dropLast_concat]
          exact keep (node?_eq_directory_iff.1 h.1)
        · exact ⟨(t.closed e he).1, keep (t.closed e he).2⟩
      homed := keep t.homed }
  else t

/-- The tree without a location and whatever lies below it, unless relative paths start from
there. -/
def delete (t : FileTree) (loc : Location) : FileTree :=
  if h : loc <+: t.home then t else
    have keep {e : Location × Node} (hmem : e ∈ t.entries) (hout : ¬loc <+: e.1) :
        e ∈ t.entries.filter fun e => !decide (loc <+: e.1) :=
      List.mem_filter.2 ⟨hmem, by rw [decide_eq_false hout]; rfl⟩
    { t with
      entries := t.entries.filter fun e => !decide (loc <+: e.1)
      nodup := List.Nodup.sublist (List.Sublist.map _ List.filter_sublist) t.nodup
      closed := by
        intro e he
        obtain ⟨he, hout⟩ := List.mem_filter.1 he
        refine ⟨(t.closed e he).1, (t.closed e he).2.imp_right fun hmem => keep hmem fun hin => ?_⟩
        rw [decide_eq_true (hin.trans (List.dropLast_prefix e.1))] at hout
        cases hout
      homed := t.homed.imp_right fun hmem => keep hmem h }

def namesIn (t : FileTree) (loc : Location) : List FileName :=
  t.entries.filterMap fun e => if e.1.dropLast = loc then e.1.getLast? else none

end FileTree

end Rulebook
