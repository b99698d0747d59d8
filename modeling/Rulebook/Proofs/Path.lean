import Mathlib.Data.List.Basic
import Rulebook.Path

/-!
Names along a path. A name that is joined to a path comes behind the names of the path; its parent
and all above it begin as the path does, and end where a name ends.
-/

namespace Rulebook.Path

variable {p q : Path} {name bytes rest : List UInt8}

/-! ## Names between slashes -/

@[simp] theorem segmentsFrom_append_slash (name bytes rest : List UInt8) :
    segmentsFrom name (bytes ++ slash :: rest) =
      segmentsFrom name bytes ++ segmentsFrom [] rest := by
  induction bytes generalizing name with
  | nil =>
    rw [List.nil_append, segmentsFrom, segmentsFrom, if_pos rfl]
    by_cases h : name = []
    · rw [if_pos h, if_pos h, List.nil_append]
    · rw [if_neg h, if_neg h, List.singleton_append]
  | cons b bytes ih =>
    rw [List.cons_append, segmentsFrom, segmentsFrom, ih, ih]
    by_cases hb : b = slash
    · rw [if_pos hb, if_pos hb]
      by_cases h : name = []
      · rw [if_pos h, if_pos h]
      · rw [if_neg h, if_neg h, List.cons_append]
    · rw [if_neg hb, if_neg hb]

theorem segmentsFrom_of_slash_not_mem {read : List UInt8} (hread : read ≠ []) (h : slash ∉ bytes) :
    segmentsFrom read bytes = [read.reverse ++ bytes] := by
  induction bytes generalizing read with
  | nil => rw [segmentsFrom, if_neg hread, List.append_nil]
  | cons b bytes ih =>
    have hb : b ≠ slash := fun hb => h (hb ▸ List.mem_cons_self)
    have hrest := fun hmem => h (List.mem_cons_of_mem _ hmem)
    rw [segmentsFrom, if_neg hb, ih (List.cons_ne_nil _ _) hrest]
    simp

theorem segments_of_slash_not_mem (hbytes : bytes ≠ []) (h : slash ∉ bytes) :
    (Path.mk bytes).segments = [bytes] := by
  obtain ⟨b, rest, rfl⟩ := List.exists_cons_of_ne_nil hbytes
  have hb : b ≠ slash := fun hb => h (hb ▸ List.mem_cons_self)
  have hrest : slash ∉ rest := fun hmem => h (List.mem_cons_of_mem _ hmem)
  rw [segments, segmentsFrom, if_neg hb, segmentsFrom_of_slash_not_mem (List.cons_ne_nil _ _) hrest]
  rfl

/-! ## Joining bytes without a slash -/

theorem isAbsolute_of_slash_not_mem (h : slash ∉ bytes) : (Path.mk bytes).isAbsolute = false := by
  rw [isAbsolute, beq_eq_false_iff_ne]
  intro hhead
  exact h (List.mem_of_mem_head? hhead)

/-- What is joined to a path comes behind a slash, or behind nothing. -/
theorem bytes_join (h : slash ∉ bytes) (p : Path) :
    p.join ⟨bytes⟩ = ⟨p.bytes ++ slash :: bytes⟩ ∧ p.bytes ≠ [] ∨
      p.join ⟨bytes⟩ = ⟨p.bytes ++ bytes⟩ ∧
        (p.bytes = [] ∨ ∃ before, p.bytes = before ++ [slash]) := by
  rw [join, if_neg (by rw [isAbsolute_of_slash_not_mem h]; exact Bool.false_ne_true)]
  by_cases hp : p.bytes = [] ∨ p.bytes.getLast? = some slash
  · rw [if_pos hp]
    exact Or.inr ⟨rfl, hp.imp_right List.getLast?_eq_some_iff.1⟩
  · rw [if_neg hp]
    exact Or.inl ⟨rfl, fun hnil => hp (Or.inl hnil)⟩

@[simp] theorem segments_join (h : slash ∉ bytes) (p : Path) :
    (p.join ⟨bytes⟩).segments = p.segments ++ (Path.mk bytes).segments := by
  unfold segments
  rcases bytes_join h p with ⟨hjoin, -⟩ | ⟨hjoin, hp | ⟨before, hp⟩⟩
  · rw [hjoin, segmentsFrom_append_slash]
  · rw [hjoin, hp, List.nil_append]
    rfl
  · rw [hjoin, hp, List.append_assoc, List.singleton_append, segmentsFrom_append_slash,
      segmentsFrom_append_slash]
    simp [segmentsFrom]

@[simp] theorem isAbsolute_join (h : slash ∉ bytes) (p : Path) :
    (p.join ⟨bytes⟩).isAbsolute = p.isAbsolute := by
  rcases bytes_join h p with ⟨hjoin, hp⟩ | ⟨hjoin, hp | ⟨before, hp⟩⟩
  · rw [hjoin, isAbsolute, isAbsolute, List.head?_append_of_ne_nil _ hp]
  · rw [hjoin, hp, List.nil_append, isAbsolute_of_slash_not_mem h, isAbsolute, hp]
    rfl
  · rw [hjoin, isAbsolute, isAbsolute, List.head?_append_of_ne_nil]
    rw [hp]
    exact List.append_ne_nil_of_right_ne_nil _ (List.cons_ne_nil _ _)

/-! ## Names -/

/-- One name that is no dots. -/
structure IsPlain (name : List UInt8) : Prop where
  ne_nil : name ≠ []
  slash_not_mem : slash ∉ name
  ne_here : name ≠ [dot]
  ne_up : name ≠ [dot, dot]

namespace IsPlain

theorem segments_join (h : IsPlain name) (p : Path) :
    (p.join ⟨name⟩).segments = p.segments ++ [name] := by
  simp [h.slash_not_mem, segments_of_slash_not_mem h.ne_nil h.slash_not_mem]

/-- Joining different names to paths, or names to different paths. -/
theorem join_inj {other : List UInt8} (h : IsPlain name) (hother : IsPlain other)
    (hjoin : p.join ⟨name⟩ = q.join ⟨other⟩) : p.segments = q.segments ∧ name = other := by
  have hsegments := congrArg segments hjoin
  rw [h.segments_join, hother.segments_join] at hsegments
  obtain ⟨hp, hname⟩ := List.append_inj' hsegments rfl
  exact ⟨hp, List.singleton_inj.1 hname⟩

end IsPlain

/-! ## Parents -/

/-- The first bytes of a path, up to the end of one of its names. -/
def IsStart (start bytes : List UInt8) : Prop :=
  ∃ rest, bytes = start ++ rest ∧
    (rest = [] ∨ rest.head? = some slash ∨ start.getLast? = some slash)

namespace IsStart

variable {start : List UInt8}

theorem refl (bytes : List UInt8) : IsStart bytes bytes :=
  ⟨[], (List.append_nil bytes).symm, Or.inl rfl⟩

theorem trans {middle : List UInt8} (h : IsStart start middle) (h' : IsStart middle bytes) :
    IsStart start bytes := by
  obtain ⟨rest, rfl, hends⟩ := h
  obtain ⟨rest', rfl, hends'⟩ := h'
  refine ⟨rest ++ rest', List.append_assoc _ _ _, ?_⟩
  rcases hends with rfl | hhead | hlast
  · rw [List.append_nil] at hends'
    exact hends'
  · rw [List.head?_append, hhead]
    exact Or.inr (Or.inl rfl)
  · exact Or.inr (Or.inr hlast)

theorem ne_nil (h : IsStart start bytes) (hstart : start ≠ []) : bytes ≠ [] := by
  obtain ⟨rest, rfl, -⟩ := h
  exact List.append_ne_nil_of_left_ne_nil hstart rest

theorem segments_prefix (h : IsStart q.bytes p.bytes) : q.segments <+: p.segments := by
  obtain ⟨rest, hp, hends⟩ := h
  unfold segments
  rw [hp]
  rcases hends with rfl | hhead | hlast
  · simp only [List.append_nil, List.prefix_rfl]
  · obtain ⟨tail, rfl⟩ := List.head?_eq_some_iff.1 hhead
    rw [segmentsFrom_append_slash]
    exact List.prefix_append _ _
  · obtain ⟨before, hq⟩ := List.getLast?_eq_some_iff.1 hlast
    rw [hq, List.append_assoc, List.singleton_append, segmentsFrom_append_slash,
      segmentsFrom_append_slash]
    exact List.prefix_append_right_inj _ |>.2 List.nil_prefix

theorem isAbsolute_eq (h : IsStart q.bytes p.bytes) (hq : q.bytes ≠ []) :
    q.isAbsolute = p.isAbsolute := by
  obtain ⟨rest, hp, -⟩ := h
  rw [isAbsolute, isAbsolute, hp, List.head?_append_of_ne_nil _ hq]

/-- Of what is left out the last byte is a slash or a dot behind a slash. -/
theorem trimmed (backwards : List UInt8) :
    IsStart (Path.trimmed backwards).reverse backwards.reverse := by
  induction backwards using Path.trimmed.induct with
  | case1 b rest ih =>
    rw [Path.trimmed, if_pos rfl, List.reverse_cons]
    exact ih.trans ⟨[slash], rfl, Or.inr (Or.inl rfl)⟩
  | case2 a b rest ha hab ih =>
    rw [Path.trimmed, if_neg ha, if_pos hab, List.reverse_cons]
    refine ih.trans ⟨[a], rfl, Or.inr (Or.inr ?_)⟩
    rw [hab.2, List.reverse_cons, List.getLast?_concat]
  | case3 a b rest ha hab =>
    rw [Path.trimmed, if_neg ha, if_neg hab]
    exact refl _
  | case4 short hshort =>
    rw [Path.trimmed.eq_2 short hshort]
    exact refl _

/-- Before a name there is a slash, or nothing. -/
theorem dropWhile (backwards : List UInt8) (h : backwards.dropWhile (· ≠ slash) ≠ []) :
    IsStart (backwards.dropWhile (· ≠ slash)).reverse backwards.reverse := by
  refine ⟨(backwards.takeWhile (· ≠ slash)).reverse, ?_, Or.inr (Or.inr ?_)⟩
  · rw [← List.reverse_append, List.takeWhile_append_dropWhile]
  · have hhead := List.head?_dropWhile_not (· ≠ slash) backwards
    obtain ⟨b, rest, hdrop⟩ := List.exists_cons_of_ne_nil h
    rw [hdrop] at hhead ⊢
    have hb : b = slash := by simpa using hhead
    rw [List.getLast?_reverse, hb]
    rfl

end IsStart

theorem isStart_of_parent? {parent : Path} (h : p.parent? = some parent)
    (hparent : parent.bytes ≠ []) : IsStart parent.bytes p.bytes := by
  have hp := IsStart.trimmed p.bytes.reverse
  rw [List.reverse_reverse] at hp
  unfold parent? at h
  split at h
  · cases h
  · split at h
    · cases h
    · cases h
      exact absurd rfl hparent
  · cases h
    refine ((IsStart.trimmed _).trans (IsStart.dropWhile _ ?_)).trans hp
    intro hnil
    rw [hnil] at hparent
    exact hparent rfl

theorem ancestors_eq_cons (h : p.bytes ≠ []) : ∃ parents, p.ancestors = p :: parents := by
  obtain ⟨b, rest, hp⟩ := List.exists_cons_of_ne_nil h
  unfold ancestors
  rw [hp, List.length_cons, ancestorsWithin, if_neg h]
  exact ⟨_, rfl⟩

theorem parent?_of_trimmed {a : UInt8} {rest : List UInt8} (h : trimmed p.bytes.reverse = a :: rest)
    (ha : a ≠ slash) :
    p.parent? = some ⟨(trimmed ((a :: rest).dropWhile (· ≠ slash))).reverse⟩ := by
  unfold parent?
  rw [h]
  cases rest with
  | nil =>
    simp only [if_neg ha]
    rw [List.dropWhile_cons_of_pos (by simpa using ha)]
    rfl
  | cons b rest => rfl

namespace IsPlain

theorem reverse_eq_cons (h : IsPlain name) : ∃ a rest, name.reverse = a :: rest ∧ a ≠ slash := by
  obtain ⟨a, rest, hname⟩ := List.exists_cons_of_ne_nil (List.reverse_ne_nil_iff.2 h.ne_nil)
  refine ⟨a, rest, hname, fun ha => h.slash_not_mem ?_⟩
  rw [← List.mem_reverse, hname, ha]
  exact List.mem_cons_self

/-- Neither slashes nor dots stand at the end of a path behind a name. -/
theorem trimmed_append (h : IsPlain name) (before : List UInt8) :
    trimmed (name.reverse ++ before) = name.reverse ++ before := by
  obtain ⟨a, rest, hname, ha⟩ := h.reverse_eq_cons
  rw [hname]
  cases rest with
  | nil =>
    have hdot : a ≠ dot := by
      rintro rfl
      exact h.ne_here (by rw [← List.reverse_reverse name, hname]; rfl)
    cases before with
    | nil => rfl
    | cons b before =>
      rw [List.singleton_append, trimmed, if_neg ha, if_neg fun hab => hdot hab.1]
  | cons c rest =>
    have hc : c ≠ slash := by
      rintro rfl
      refine h.slash_not_mem ?_
      rw [← List.mem_reverse, hname]
      exact List.mem_cons_of_mem _ List.mem_cons_self
    rw [List.cons_append, List.cons_append, trimmed, if_neg ha, if_neg fun hab => hc hab.2]

theorem dropWhile_append (h : IsPlain name) (before : List UInt8) :
    (name.reverse ++ before).dropWhile (· ≠ slash) = before.dropWhile (· ≠ slash) := by
  rw [List.dropWhile_append_of_pos]
  intro b hb
  have hne : b ≠ slash := fun hslash => h.slash_not_mem (List.mem_reverse.1 (hslash ▸ hb))
  simpa using hne

/-- The parent of a name that was joined to a path is that path, less slashes and dots at its
end. -/
theorem parent?_join (h : IsPlain name) (p : Path) :
    (p.join ⟨name⟩).parent? = some ⟨(trimmed p.bytes.reverse).reverse⟩ := by
  obtain ⟨a, rest, hname, ha⟩ := h.reverse_eq_cons
  have hparent (before : List UInt8) (hjoin : p.join ⟨name⟩ = ⟨before.reverse ++ name⟩) :
      (p.join ⟨name⟩).parent? = some ⟨(trimmed (before.dropWhile (· ≠ slash))).reverse⟩ := by
    have htrimmed : trimmed (p.join ⟨name⟩).bytes.reverse = a :: (rest ++ before) := by
      rw [hjoin, List.reverse_append, List.reverse_reverse, h.trimmed_append, hname]
      rfl
    rw [parent?_of_trimmed htrimmed ha, ← List.cons_append, ← hname, h.dropWhile_append]
  -- Before the name there is a slash that was put there, nothing, or a slash of the path.
  rcases bytes_join h.slash_not_mem p with ⟨hjoin, hp⟩ | ⟨hjoin, hp | ⟨bytes, hp⟩⟩
  · rw [hparent (slash :: p.bytes.reverse) (by simp [hjoin])]
    rw [List.dropWhile_cons_of_neg (by simp)]
    obtain ⟨b, rest, hrev⟩ := List.exists_cons_of_ne_nil (List.reverse_ne_nil_iff.2 hp)
    rw [hrev, trimmed, if_pos rfl]
  · rw [hparent [] (by simp [hjoin, hp]), hp]
    rfl
  · rw [hparent p.bytes.reverse (by simp [hjoin])]
    rw [hp, List.reverse_concat, List.dropWhile_cons_of_neg (by simp)]

theorem isStart_of_parent?_join {parent : Path} (h : IsPlain name)
    (hparent : (p.join ⟨name⟩).parent? = some parent) : IsStart parent.bytes p.bytes := by
  rw [h.parent?_join] at hparent
  cases hparent
  have htrimmed := IsStart.trimmed p.bytes.reverse
  rw [List.reverse_reverse] at htrimmed
  exact htrimmed

end IsPlain

/-! ## Going up -/

section Up

variable {parent : Path}

/-- A slash stays at the end only if there is nothing else. -/
theorem ne_slash_of_trimmed {a b : UInt8} {rest backwards : List UInt8}
    (h : trimmed backwards = a :: b :: rest) : a ≠ slash := by
  induction backwards using trimmed.induct with
  | case1 b rest ih =>
    rw [trimmed, if_pos rfl] at h
    exact ih h
  | case2 a b rest ha hab ih =>
    rw [trimmed, if_neg ha, if_pos hab] at h
    exact ih h
  | case3 a b rest ha hab =>
    rw [trimmed, if_neg ha, if_neg hab] at h
    cases h
    exact ha
  | case4 short hshort =>
    rw [trimmed.eq_2 short hshort] at h
    exact absurd h (hshort a b rest)

theorem length_trimmed_le (backwards : List UInt8) :
    (trimmed backwards).length ≤ backwards.length := by
  obtain ⟨rest, hrest, -⟩ := IsStart.trimmed backwards
  have hlength := congrArg List.length hrest
  simp only [List.length_append, List.length_reverse] at hlength
  omega

/-- A parent is shorter than its path. -/
theorem length_parent?_lt (h : p.parent? = some parent) :
    parent.bytes.length < p.bytes.length := by
  have hlength := length_trimmed_le p.bytes.reverse
  rw [List.length_reverse] at hlength
  unfold parent? at h
  split at h
  · cases h
  · next a htrimmed =>
    split_ifs at h
    cases h
    rw [htrimmed] at hlength
    exact hlength
  · next hne hone =>
    cases h
    cases htrimmed : trimmed p.bytes.reverse with
    | nil => exact absurd htrimmed hne
    | cons a backwards =>
      cases backwards with
      | nil => exact absurd htrimmed (hone a)
      | cons b rest =>
        -- The last name goes, and it has one byte at least.
        have ha := ne_slash_of_trimmed htrimmed
        have hdrop := (List.dropWhile_sublist (· ≠ slash) (l := b :: rest)).length_le
        have hshorter := length_trimmed_le ((b :: rest).dropWhile (· ≠ slash))
        rw [htrimmed, List.length_cons] at hlength
        rw [List.length_reverse, List.dropWhile_cons_of_pos (by simpa using ha)]
        omega

theorem ancestorsWithin_eq {fuel fuel' : Nat} (h : p.bytes.length ≤ fuel)
    (h' : p.bytes.length ≤ fuel') : ancestorsWithin fuel p = ancestorsWithin fuel' p := by
  induction fuel generalizing fuel' p with
  | zero =>
    have hp : p.bytes = [] := List.length_eq_zero_iff.1 (Nat.le_zero.1 h)
    cases fuel' with
    | zero => rfl
    | succ fuel' => exact (if_pos hp).symm
  | succ fuel ih =>
    by_cases hp : p.bytes = []
    · cases fuel' with
      | zero => exact if_pos hp
      | succ fuel' => rw [ancestorsWithin, ancestorsWithin, if_pos hp, if_pos hp]
    · have hpos := List.length_pos_iff.2 hp
      obtain ⟨fuel', rfl⟩ : ∃ n, fuel' = n + 1 := ⟨fuel' - 1, by omega⟩
      rw [ancestorsWithin, ancestorsWithin, if_neg hp, if_neg hp]
      cases hparent : p.parent? with
      | none => rfl
      | some parent =>
        have hlt := length_parent?_lt hparent
        exact congrArg (p :: ·) (ih (by omega) (by omega))

theorem ancestors_of_parent?_eq_some (hp : p.bytes ≠ []) (h : p.parent? = some parent) :
    p.ancestors = p :: parent.ancestors := by
  have hlt := length_parent?_lt h
  obtain ⟨n, hn⟩ : ∃ n, p.bytes.length = n + 1 := ⟨p.bytes.length - 1, by omega⟩
  rw [ancestors, hn, ancestorsWithin, if_neg hp, h]
  exact congrArg (p :: ·) (ancestorsWithin_eq (by omega) (Nat.le_refl _))

/-- Without a parent a path is made of slashes and single dots, and begins with a slash. -/
theorem of_trimmed_eq_slash {backwards : List UInt8} (h : trimmed backwards = [slash]) :
    (∀ name ∈ (Path.mk backwards.reverse).segments, name = [dot]) ∧
      (Path.mk backwards.reverse).isAbsolute = true := by
  induction backwards using trimmed.induct with
  | case1 b rest ih =>
    rw [trimmed, if_pos rfl] at h
    obtain ⟨hsegments, habsolute⟩ := ih h
    rw [List.reverse_cons]
    have hne : (b :: rest).reverse ≠ [] := List.reverse_ne_nil_iff.2 (List.cons_ne_nil _ _)
    refine ⟨?_, ?_⟩
    · rw [segments, segmentsFrom_append_slash]
      intro name hname
      rcases List.mem_append.1 hname with hname | hname
      · exact hsegments name hname
      · exact absurd hname List.not_mem_nil
    · rw [isAbsolute, List.head?_append_of_ne_nil _ hne]
      exact habsolute
  | case2 a b rest ha hab ih =>
    rw [trimmed, if_neg ha, if_pos hab] at h
    obtain ⟨hsegments, habsolute⟩ := ih h
    obtain ⟨rfl, rfl⟩ := hab
    rw [List.reverse_cons]
    have hne : (slash :: rest).reverse ≠ [] := List.reverse_ne_nil_iff.2 (List.cons_ne_nil _ _)
    refine ⟨?_, ?_⟩
    · rw [List.reverse_cons] at hsegments ⊢
      rw [segments, segmentsFrom_append_slash] at hsegments
      rw [List.append_assoc, segments, List.singleton_append, segmentsFrom_append_slash]
      intro name hname
      rcases List.mem_append.1 hname with hname | hname
      · exact hsegments name (List.mem_append_left _ hname)
      · exact List.mem_singleton.1 hname
    · rw [isAbsolute, List.head?_append_of_ne_nil _ hne]
      exact habsolute
  | case3 a b rest ha hab =>
    rw [trimmed, if_neg ha, if_neg hab] at h
    cases h
  | case4 short hshort =>
    rw [trimmed.eq_2 short hshort] at h
    subst h
    exact ⟨by decide, by decide⟩

theorem trimmed_ne_nil {backwards : List UInt8} (h : backwards ≠ []) : trimmed backwards ≠ [] := by
  induction backwards using trimmed.induct with
  | case1 b rest ih =>
    rw [trimmed, if_pos rfl]
    exact ih (List.cons_ne_nil b rest)
  | case2 a b rest ha hab ih =>
    rw [trimmed, if_neg ha, if_pos hab]
    exact ih (List.cons_ne_nil b rest)
  | case3 a b rest ha hab =>
    rw [trimmed, if_neg ha, if_neg hab]
    exact List.cons_ne_nil a (b :: rest)
  | case4 short hshort =>
    rw [trimmed.eq_2 short hshort]
    exact h

theorem of_parent?_eq_none (hp : p.bytes ≠ []) (h : p.parent? = none) :
    (∀ name ∈ p.segments, name = [dot]) ∧ p.isAbsolute = true := by
  unfold parent? at h
  split at h
  · next hnil => exact absurd hnil (trimmed_ne_nil (List.reverse_ne_nil_iff.2 hp))
  · next a htrimmed =>
    split_ifs at h with ha
    have hroot := of_trimmed_eq_slash (ha ▸ htrimmed)
    rwa [List.reverse_reverse] at hroot
  · cases h

end Up

end Rulebook.Path
