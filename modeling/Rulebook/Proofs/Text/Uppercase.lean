import Rulebook.Text.Uppercase

/-!
Upper case and ASCII. No text in upper case holds a small ASCII letter, whatever it was made from,
and ASCII texts without small letters are in upper case already.
-/

set_option maxRecDepth 4000

namespace Rulebook.Text

def isSmallLetter (c : Char) : Bool := 'a' ≤ c && c ≤ 'z'

theorem isSmallLetter_iff {c : Char} : isSmallLetter c ↔ 0x61 ≤ c.toNat ∧ c.toNat ≤ 0x7A := by
  rw [isSmallLetter, Bool.and_eq_true, decide_eq_true_eq, decide_eq_true_eq, Char.le_def,
    Char.le_def, UInt32.le_iff_toNat_le, UInt32.le_iff_toNat_le]
  exact Iff.rfl

namespace Uppercase

/-! ## The tables -/

/-- The characters of runs are small letters of ASCII or come behind them, and no image of a run is
a small letter of ASCII. -/
theorem runs_miss_small : ∀ run ∈ runs, 0x61 ≤ run.first ∧
    (0x7A < run.image ∨ run.image + (run.last - run.first) < 0x61) := by decide

theorem expansions_miss_small : ∀ expansion ∈ expansions, 0x7A < expansion.1 ∧
    ∀ n ∈ expansion.2, 0x7A < n ∨ n < 0x61 := by decide

theorem bounds_of_contains {run : Run} {n : Nat} (h : run.contains n) :
    run.first ≤ n ∧ n ≤ run.last := by
  rw [Run.contains, Bool.and_eq_true, Bool.and_eq_true] at h
  exact ⟨of_decide_eq_true h.1.1, of_decide_eq_true h.1.2⟩

theorem mem_of_lookup_expansions {n : Nat} {images : List Nat}
    (h : expansions.lookup n = some images) : (n, images) ∈ expansions := by
  obtain ⟨before, after, heq, -⟩ := List.lookup_eq_some_iff.1 h
  rw [heq]
  exact List.mem_append_right _ List.mem_cons_self

/-! ## Characters -/

theorem not_isSmallLetter_ofNat {n : Nat} (h : 0x7A < n ∨ n < 0x61) :
    ¬ isSmallLetter (Char.ofNat n) := by
  rw [isSmallLetter_iff]
  by_cases hn : n.isValidChar
  · have htoNat : (Char.ofNat n).toNat = n := by
      rw [Char.ofNat, dif_pos hn]
      rfl
    omega
  · -- What is no character becomes the character zero.
    rw [Char.ofNat, dif_neg hn]
    decide

theorem not_isSmallLetter_of_mem_ofChar {c d : Char} (h : d ∈ ofChar c) : ¬ isSmallLetter d := by
  unfold ofChar at h
  split at h
  · next run hrun =>
    have hcontains := List.find?_some hrun
    obtain ⟨hfirst, hlast⟩ := bounds_of_contains hcontains
    obtain ⟨-, himage⟩ := runs_miss_small run (List.mem_of_find?_eq_some hrun)
    rw [List.mem_singleton.1 h, Run.map]
    exact not_isSmallLetter_ofNat (by omega)
  · next hnone =>
    split at h
    · next images himages =>
      obtain ⟨n, hn, rfl⟩ := List.mem_map.1 h
      obtain ⟨-, hmiss⟩ := expansions_miss_small _ (mem_of_lookup_expansions himages)
      exact not_isSmallLetter_ofNat (hmiss n hn)
    · -- A small letter would be in the first run.
      rw [List.mem_singleton.1 h, isSmallLetter_iff]
      intro hsmall
      have hletters := List.find?_eq_none.1 hnone ⟨0x61, 0x7A, 1, 0x41⟩ List.mem_cons_self
      refine hletters ?_
      simp only [Run.contains, Bool.and_eq_true, decide_eq_true_eq, Nat.mod_one, beq_self_eq_true]
      exact ⟨hsmall, trivial⟩

theorem ofChar_of_lt {c : Char} (h : c.toNat < 0x61) : ofChar c = [c] := by
  have hruns : runs.find? (·.contains c.toNat) = none := by
    refine List.find?_eq_none.2 fun run hrun hcontains => ?_
    have hfirst := (runs_miss_small run hrun).1
    have hbounds := bounds_of_contains hcontains
    omega
  have hexpansions : expansions.lookup c.toNat = none := by
    refine List.lookup_eq_none_iff.2 fun expansion hexpansion => ?_
    have hlarge := (expansions_miss_small expansion hexpansion).1
    rw [bne_iff_ne]
    omega
  rw [ofChar, hruns, hexpansions]

end Uppercase

/-! ## Texts -/

theorem not_isSmallLetter_of_mem_upper {s : String} {c : Char} (h : c ∈ (upper s).toList) :
    ¬ isSmallLetter c := by
  rw [upper, String.toList_ofList, List.mem_flatMap] at h
  obtain ⟨d, -, hc⟩ := h
  exact Uppercase.not_isSmallLetter_of_mem_ofChar hc

theorem upper_eq_self {s : String} (h : ∀ c ∈ s.toList, c.toNat < 0x61) : upper s = s := by
  have hchars (cs : List Char) (hcs : ∀ c ∈ cs, c.toNat < 0x61) :
      cs.flatMap Uppercase.ofChar = cs := by
    induction cs with
    | nil => rfl
    | cons c rest ih =>
      rw [List.flatMap_cons, Uppercase.ofChar_of_lt (hcs c List.mem_cons_self),
        ih fun d hd => hcs d (List.mem_cons_of_mem c hd), List.singleton_append]
  rw [upper, hchars _ h, String.ofList_toList]

end Rulebook.Text
