import Mathlib.Data.List.Nodup
import Mathlib.Data.List.Perm.Subperm
import Rulebook.Manifest.Fields
import Rulebook.Registrar.Routine

/-! Names of routines are distinct names of constants, whatever the rules are called. -/

namespace Rulebook.Registrar

open Rulebook.Manifest

theorem isConstantName_append {s t : String} (hs : isConstantName s)
    (ht : ∀ c ∈ t.toList, continuesName c) : isConstantName (s ++ t) := by
  unfold isConstantName at hs ⊢
  rw [String.toList_append]
  cases hchars : s.toList with
  | nil =>
    rw [hchars] at hs
    cases hs
  | cons c rest =>
    rw [hchars] at hs
    simp only [List.cons_append, Bool.and_eq_true, List.all_append, List.all_eq_true] at hs ⊢
    exact ⟨hs.1, hs.2, ht⟩

theorem continuesName_identifierPart (ruleName : String) :
    ∀ c ∈ (identifierPart ruleName).toList, continuesName c := by
  intro c hc
  rw [identifierPart, String.toList_ofList, List.mem_map] at hc
  obtain ⟨d, -, rfl⟩ := hc
  by_cases hd : isIdentifierChar d
  · rw [if_pos hd]
    simp only [isIdentifierChar, continuesName, startsName, isLetter, isDigit, Bool.or_eq_true,
      Bool.and_eq_true, decide_eq_true_eq, beq_iff_eq] at hd ⊢
    rcases hd with ((h | h) | h) | h
    · exact .inl (.inl (.inl h))
    · exact .inl (.inl (.inr h))
    · exact .inr h
    · exact .inl (.inr h)
  · rw [if_neg hd]
    decide

theorem continuesName_toString (n : Nat) : ∀ c ∈ (toString n).toList, continuesName c := by
  intro c hc
  rw [Nat.toString_eq_repr, Nat.toList_repr] at hc
  have hdigit := Nat.isDigit_of_mem_toDigits (by decide) (by decide) hc
  simp only [Char.isDigit, Bool.and_eq_true, decide_eq_true_eq] at hdigit
  rw [continuesName, isDigit, Bool.or_eq_true, Bool.and_eq_true, decide_eq_true_eq,
    decide_eq_true_eq]
  exact .inr hdigit

theorem isConstantName_baseName (ruleName : String) : isConstantName (baseName ruleName) :=
  isConstantName_append (by decide) (continuesName_identifierPart ruleName)

theorem isConstantName_numberedName {base : String} (h : isConstantName base) (n : Nat) :
    isConstantName (numberedName base n) := by
  have hcontinues : "_".toList.all continuesName := rfl
  have hunderscore := isConstantName_append h (List.all_eq_true.1 hcontinues)
  exact isConstantName_append hunderscore (continuesName_toString n)

theorem isConstantName_firstFree {base : String} (h : isConstantName base) (taken : List String)
    (n tries : Nat) : isConstantName (firstFree taken base n tries) := by
  induction tries generalizing n with
  | zero => exact isConstantName_numberedName h n
  | succ tries ih =>
    rw [firstFree]
    split
    · exact ih (n + 1)
    · exact isConstantName_numberedName h n

theorem isConstantName_freeName {base : String} (h : isConstantName base) (taken : List String) :
    isConstantName (freeName taken base) := by
  rw [freeName]
  split
  · exact isConstantName_firstFree h taken 2 taken.length
  · exact h

theorem isConstantName_of_mem_namesFrom {taken ruleNames : List String} {name : String}
    (h : name ∈ namesFrom taken ruleNames) : isConstantName name := by
  induction ruleNames generalizing taken with
  | nil => exact absurd h List.not_mem_nil
  | cons ruleName rest ih =>
    rw [namesFrom, List.mem_cons] at h
    rcases h with rfl | h
    · exact isConstantName_freeName (isConstantName_baseName ruleName) taken
    · exact ih h

theorem isConstantName_of_mem_routineNames {ruleNames : List String} {name : String}
    (h : name ∈ routineNames ruleNames) : isConstantName name :=
  isConstantName_of_mem_namesFrom h

@[simp] theorem length_namesFrom (taken ruleNames : List String) :
    (namesFrom taken ruleNames).length = ruleNames.length := by
  induction ruleNames generalizing taken with
  | nil => rfl
  | cons ruleName rest ih => rw [namesFrom, List.length_cons, List.length_cons, ih]

/-! ## Distinct names -/

theorem numberedName_injective (base : String) : Function.Injective (numberedName base) := by
  intro m n h
  have hchars : (base ++ "_").toList ++ (toString m).toList =
      (base ++ "_").toList ++ (toString n).toList := by
    rw [← String.toList_append, ← String.toList_append]
    exact congrArg String.toList h
  rw [List.append_cancel_left_eq, Nat.toString_eq_repr, Nat.toString_eq_repr, Nat.toList_repr,
    Nat.toList_repr] at hchars
  -- The digits of a number can be read again.
  have hread := congrArg (Nat.ofDigitChars 10 · 0) hchars
  simpa using hread

theorem mem_of_firstFree_mem {taken : List String} {base : String} {n tries : Nat}
    (h : firstFree taken base n tries ∈ taken) :
    ∀ m ≤ tries, numberedName base (n + m) ∈ taken := by
  induction tries generalizing n with
  | zero =>
    intro m hm
    rw [Nat.le_zero.1 hm]
    exact h
  | succ tries ih =>
    rw [firstFree] at h
    split at h
    · next hn =>
      intro m hm
      cases m with
      | zero => exact List.contains_iff_mem.1 hn
      | succ m =>
        rw [← Nat.succ_add_eq_add_succ]
        exact ih h m (Nat.le_of_succ_le_succ hm)
    · next hn => exact absurd (List.contains_iff_mem.2 h) hn

/-- Of distinct names no more are taken than there are taken names. -/
theorem le_length_of_forall_mem {taken : List String} (nameOf : Nat → String) {k : Nat}
    (hdistinct : Function.Injective nameOf) (h : ∀ m < k, nameOf m ∈ taken) : k ≤ taken.length := by
  have hnodup : ((List.range k).map nameOf).Nodup := List.nodup_range.map hdistinct
  have hsubset : (List.range k).map nameOf ⊆ taken := by
    intro name hname
    obtain ⟨m, hm, rfl⟩ := List.mem_map.1 hname
    exact h m (List.mem_range.1 hm)
  have hlength := (List.subperm_of_subset hnodup hsubset).length_le
  rw [List.length_map, List.length_range] at hlength
  exact hlength

theorem freeName_not_mem (taken : List String) (base : String) : freeName taken base ∉ taken := by
  rw [freeName]
  split
  · intro h
    -- There would be more numbered names among the taken ones than there are taken names.
    have hall := mem_of_firstFree_mem h
    have hlength : taken.length + 1 ≤ taken.length := by
      apply le_length_of_forall_mem fun m => numberedName base (2 + m)
      · exact fun m n heq => Nat.add_left_cancel (numberedName_injective base heq)
      · exact fun m hm => hall m (Nat.le_of_lt_succ hm)
    exact Nat.not_succ_le_self taken.length hlength
  · next h => exact fun hmem => h (List.contains_iff_mem.2 hmem)

theorem not_mem_of_mem_namesFrom {taken ruleNames : List String} {name : String}
    (h : name ∈ namesFrom taken ruleNames) : name ∉ taken := by
  induction ruleNames generalizing taken with
  | nil => exact absurd h List.not_mem_nil
  | cons ruleName rest ih =>
    rw [namesFrom, List.mem_cons] at h
    rcases h with rfl | h
    · exact freeName_not_mem taken (baseName ruleName)
    · exact fun hmem => ih h (List.mem_cons_of_mem _ hmem)

theorem nodup_namesFrom (taken ruleNames : List String) : (namesFrom taken ruleNames).Nodup := by
  induction ruleNames generalizing taken with
  | nil => exact List.nodup_nil
  | cons ruleName rest ih =>
    rw [namesFrom, List.nodup_cons]
    exact ⟨fun h => not_mem_of_mem_namesFrom h List.mem_cons_self, ih _⟩

theorem nodup_routineNames (ruleNames : List String) : (routineNames ruleNames).Nodup :=
  nodup_namesFrom [] ruleNames

end Rulebook.Registrar
