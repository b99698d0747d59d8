import Rulebook.Proofs.FileTree.Changes

/-!
What can be seen below a location. Steps that never lead above a location see what lies below it and
nothing else, so two trees that agree there are the same to a path that goes on by such steps from a
directory, whatever else they have.
-/

namespace Rulebook

@[simp]
theorem Segment.ofBytes_bytes (name : FileName) : Segment.ofBytes name.bytes = .name name := by
  have h := FileTree.isPlain_bytes name
  rw [Segment.ofBytes, if_neg h.ne_here, if_neg h.ne_up, FileName.ofBytes?, dif_pos name.valid]

def Place.base : Place → Location
  | .directory loc => loc
  | .entry parent _ => parent

namespace FileTree

variable {t t' : FileTree} {loc dir below : Location} {p : Path} {segment : Segment}
  {segments rest : List Segment}

/-! ## Trees that agree -/

/-- Two trees have the same at a location and below it. -/
def SameBelow (loc : Location) (t t' : FileTree) : Prop :=
  ∀ below, t'.node? (loc ++ below) = t.node? (loc ++ below)

theorem SameBelow.refl (loc : Location) (t : FileTree) : SameBelow loc t t := fun _ => rfl

/-- Only what one of the trees lists can make a difference. -/
theorem sameBelow_iff :
    SameBelow loc t t' ↔
      ∀ e ∈ t.entries ++ t'.entries, loc <+: e.1 → t'.node? e.1 = t.node? e.1 := by
  constructor
  · rintro h e - ⟨below, hbelow⟩
    rw [← hbelow]
    exact h below
  · intro h below
    by_cases hnil : loc ++ below = []
    · rw [hnil]
      rfl
    have hlisted {node : Node} (hmem : (loc ++ below, node) ∈ t.entries ++ t'.entries) :=
      h _ hmem (List.prefix_append loc below)
    cases hnode : t.node? (loc ++ below) with
    | some node =>
      rw [← hnode]
      exact hlisted (List.mem_append_left _ (mem_entries_of_node? hnil hnode))
    | none =>
      cases hnode' : t'.node? (loc ++ below) with
      | none => rfl
      | some node =>
        rw [← hnode, ← hnode']
        exact hlisted (List.mem_append_right _ (mem_entries_of_node? hnil hnode'))

instance : Decidable (SameBelow loc t t') := decidable_of_iff' _ sameBelow_iff

/-! ## Steps that stay below -/

/-- Steps from some names below a location that never lead above that location. Nothing is reached
behind a name that is too long. -/
def StaysBelow : Nat → List Segment → Prop
  | _, [] => True
  | depth, .here :: rest => StaysBelow depth rest
  | 0, .up :: _ => False
  | depth + 1, .up :: rest => StaysBelow depth rest
  | depth, .name _ :: rest => StaysBelow (depth + 1) rest
  | _, .overlong :: _ => True

theorem enter_sameBelow (h : SameBelow dir t t')
    (hstays : StaysBelow below.length (segment :: rest)) :
    t'.enter (dir ++ below) segment = t.enter (dir ++ below) segment ∧
      ∀ next, t.enter (dir ++ below) segment = .ok next →
        ∃ below', next = dir ++ below' ∧ StaysBelow below'.length rest := by
  cases segment with
  | here =>
    refine ⟨rfl, fun next hnext => ?_⟩
    cases hnext
    exact ⟨below, rfl, hstays⟩
  | up =>
    refine ⟨rfl, fun next hnext => ?_⟩
    cases hnext
    -- There is a name to go up from.
    rcases List.eq_nil_or_concat below with rfl | ⟨before, name, rfl⟩
    · exact absurd hstays id
    · rw [List.concat_eq_append, List.length_append] at hstays
      refine ⟨before, ?_, hstays⟩
      rw [List.concat_eq_append, ← List.append_assoc, List.dropLast_concat]
  | name name =>
    have hnode : t'.node? (dir ++ below ++ [name]) = t.node? (dir ++ below ++ [name]) := by
      rw [List.append_assoc]
      exact h (below ++ [name])
    rw [enter, enter, hnode]
    refine ⟨rfl, fun next hnext => ⟨below ++ [name], ?_, ?_⟩⟩
    · rw [← List.append_assoc]
      split at hnext <;> cases hnext
      rfl
    · rw [List.length_append]
      exact hstays
  | overlong => exact ⟨rfl, fun next hnext => by cases hnext⟩

/-- The last step looks at nothing in the tree. -/
theorem walk_last (hstays : StaysBelow below.length [segment]) :
    t'.walk (dir ++ below) [segment] = t.walk (dir ++ below) [segment] ∧
      ∀ place, t.walk (dir ++ below) [segment] = .ok place → dir <+: place.base := by
  cases segment with
  | here =>
    refine ⟨rfl, fun place hplace => ?_⟩
    cases hplace
    exact List.prefix_append _ _
  | up =>
    refine ⟨rfl, fun place hplace => ?_⟩
    cases hplace
    rcases List.eq_nil_or_concat below with rfl | ⟨before, name, rfl⟩
    · exact absurd hstays id
    · -- Going up takes the last name away, and what is left is still at the location or below it.
      rw [List.concat_eq_append, ← List.append_assoc]
      show dir <+: (dir ++ before ++ [name]).dropLast
      rw [List.dropLast_concat]
      exact List.prefix_append _ _
  | name name =>
    refine ⟨rfl, fun place hplace => ?_⟩
    cases hplace
    exact List.prefix_append _ _
  | overlong =>
    refine ⟨rfl, fun place hplace => ?_⟩
    cases hplace
    exact List.prefix_append _ _

theorem walk_sameBelow (h : SameBelow dir t t') (hstays : StaysBelow below.length segments) :
    t'.walk (dir ++ below) segments = t.walk (dir ++ below) segments ∧
      ∀ place, t.walk (dir ++ below) segments = .ok place → dir <+: place.base := by
  -- Where the steps have led so far is kept as the location with names below it.
  induction segments generalizing below with
  | nil =>
    refine ⟨rfl, fun place hplace => ?_⟩
    cases hplace
    exact List.prefix_append _ _
  | cons segment rest ih =>
    by_cases hrest : rest = []
    · subst hrest
      exact walk_last hstays
    obtain ⟨henter, hnext⟩ := enter_sameBelow h hstays
    rw [walk_cons hrest, walk_cons hrest, henter]
    cases hentered : t.enter (dir ++ below) segment with
    | error cause => exact ⟨rfl, fun place hplace => by cases hplace⟩
    | ok next =>
      obtain ⟨below', rfl, hstays'⟩ := hnext next hentered
      exact ih hstays'

/-! ## Paths that stay below -/

/-- A path goes on from another one by steps that never lead above where that one leads. -/
structure GoesBelow (rules p : Path) : Prop where
  isAbsolute_eq : p.isAbsolute = rules.isAbsolute
  steps_eq : ∃ rest, steps p = steps rules ++ rest ∧ rest ≠ [] ∧ StaysBelow 0 rest

theorem StaysBelow.concat_name {depth : Nat} (h : StaysBelow depth segments) (name : FileName) :
    StaysBelow depth (segments ++ [.name name]) := by
  induction segments generalizing depth with
  | nil => trivial
  | cons segment segments ih =>
    cases segment with
    | here => exact ih h
    | up =>
      cases depth with
      | zero => exact h
      | succ depth => exact ih h
    | name name => exact ih h
    | overlong => trivial

@[simp] theorem isAbsolute_join_bytes (p : Path) (name : FileName) :
    (p.join ⟨name.bytes⟩).isAbsolute = p.isAbsolute :=
  Path.isAbsolute_join (isPlain_bytes name).slash_not_mem p

@[simp] theorem steps_join_bytes (p : Path) (name : FileName) :
    steps (p.join ⟨name.bytes⟩) = steps p ++ [.name name] := by
  simp [steps_join (isPlain_bytes name)]

theorem goesBelow_join (rules : Path) (name : FileName) :
    GoesBelow rules (rules.join ⟨name.bytes⟩) where
  isAbsolute_eq := by simp
  steps_eq := ⟨[.name name], by simp, by simp, trivial⟩

theorem GoesBelow.join_name {rules : Path} (h : GoesBelow rules p) (name : FileName) :
    GoesBelow rules (p.join ⟨name.bytes⟩) where
  isAbsolute_eq := by simp [h.isAbsolute_eq]
  steps_eq := by
    obtain ⟨rest, hsteps, -, hstays⟩ := h.steps_eq
    exact ⟨rest ++ [.name name], by simp [hsteps], by simp, hstays.concat_name name⟩

/-- Bytes without a slash are one step at most, so they lead no higher than a name leads down. -/
theorem goesBelow_join_join (rules : Path) (name : FileName) {bytes : List UInt8}
    (h : Path.slash ∉ bytes) : GoesBelow rules ((rules.join ⟨name.bytes⟩).join ⟨bytes⟩) where
  isAbsolute_eq := by simp [h]
  steps_eq := by
    refine ⟨.name name :: steps ⟨bytes⟩, ?_, List.cons_ne_nil _ _, ?_⟩
    · rw [steps, Path.segments_join h, List.map_append]
      show steps (rules.join ⟨name.bytes⟩) ++ steps ⟨bytes⟩ = _
      simp
    · show StaysBelow 1 (steps ⟨bytes⟩)
      by_cases hbytes : bytes = []
      · rw [hbytes]
        trivial
      · rw [steps, Path.segments_of_slash_not_mem hbytes h]
        show StaysBelow 1 [Segment.ofBytes bytes]
        cases Segment.ofBytes bytes <;> trivial

section Paths

variable {rules : Path} {made written : Location → Prop}

/-- What a path names that stays below a directory. -/
theorem place_sameBelow (hp : GoesBelow rules p) (hdir : t.find rules = .ok (dir, .directory))
    (hchanges : Changes made written t t') (hsame : SameBelow dir t t') :
    t'.place p = t.place p ∧ ∀ place, t.place p = .ok place → dir <+: place.base := by
  obtain ⟨rest, hsteps, hrest, hstays⟩ := hp.steps_eq
  have hstart (s : FileTree) : s.start p = s.start rules := by
    rw [start, start, hp.isAbsolute_eq]
  -- The steps up to the directory lead to it in both trees.
  have hinto := into_of_find hdir
  have hinto' : t'.into (t'.start rules) (steps rules) = .ok dir := by
    rw [hchanges.start_eq]
    exact hchanges.into_ok hinto
  have hwalk (s : FileTree) (hs : s.into (s.start rules) (steps rules) = .ok dir) :
      s.walk (s.start p) (steps p) = s.walk (dir ++ []) rest := by
    rw [hstart, hsteps, walk_append _ hrest, hs, List.append_nil]
    rfl
  have hstays' : StaysBelow ([] : Location).length rest := hstays
  obtain ⟨heq, hbase⟩ := walk_sameBelow hsame hstays'
  rw [← hwalk t hinto, ← hwalk t' hinto'] at heq
  rw [← hwalk t hinto] at hbase
  unfold FileTree.place
  refine ⟨?_, fun place hplace => ?_⟩
  · show (if _ then _ else if _ then _ else if _ then _ else t'.walk (t'.start p) (steps p)) = _
    rw [heq]
    rfl
  · exact hbase place (walk_of_place hplace)

theorem find_sameBelow (hp : GoesBelow rules p) (hdir : t.find rules = .ok (dir, .directory))
    (hchanges : Changes made written t t') (hsame : SameBelow dir t t') :
    t'.find p = t.find p := by
  obtain ⟨hplace, hbase⟩ := place_sameBelow hp hdir hchanges hsame
  unfold FileTree.find
  rw [hplace]
  cases hfound : t.place p with
  | error cause => rfl
  | ok place =>
    cases place with
    | directory loc => rfl
    | entry parent name =>
      cases name with
      | none => rfl
      | some name =>
        obtain ⟨below, hparent⟩ := hbase _ hfound
        have hnode : t'.node? (parent ++ [name]) = t.node? (parent ++ [name]) := by
          have hsees := hsame (below ++ [name])
          rw [← List.append_assoc, hparent] at hsees
          exact hsees
        dsimp only [bind, Except.bind]
        rw [hnode]

end Paths

end FileTree

end Rulebook
