import Rulebook.Proofs.Registrar.RoutineName

/-!
The search for the name of a routine. Candidates are tried in order, the plain base first, and the
search ends with the first one that no earlier routine has. The rules behind a rule have no part in
it, so they never change its name.
-/

namespace Rulebook.Registrar

open Rulebook.Manifest (isConstantName)

/-! ## Searches -/

def candidate (base : String) : Nat → String
  | 0 => base
  | n + 1 => numberedName base (n + 2)

/-- A search that starts at a candidate ends, after so many rejected ones, with a name. There is no
bound on the number of tries: a search that never ends has no derivation. -/
inductive Search (taken : List String) (base : String) : Nat → Nat → String → Prop where
  | found {n : Nat} (free : candidate base n ∉ taken) : Search taken base n 0 (candidate base n)
  | rejected {n rejected : Nat} {name : String} (used : candidate base n ∈ taken)
    (rest : Search taken base (n + 1) rejected name) : Search taken base n (rejected + 1) name

theorem candidate_injective (base : String) : Function.Injective (candidate base) := by
  -- A number makes a name longer than the base.
  have hlonger (n : Nat) : numberedName base n ≠ base := by
    intro h
    have hlength := congrArg String.length h
    have hmark : "_".length = 1 := rfl
    rw [numberedName, String.length_append, String.length_append, hmark] at hlength
    omega
  intro m n h
  cases m with
  | zero =>
    cases n with
    | zero => rfl
    | succ n => exact absurd h.symm (hlonger (n + 2))
  | succ m =>
    cases n with
    | zero => exact absurd h (hlonger (m + 2))
    | succ n =>
      have hnumber := numberedName_injective base h
      omega

namespace Search

variable {taken others : List String} {base name : String} {n rejected : Nat}

theorem eq_candidate (h : Search taken base n rejected name) :
    name = candidate base (n + rejected) := by
  induction h with
  | found => rfl
  | rejected _ _ ih =>
    rw [ih]
    congr 1
    omega

theorem not_mem (h : Search taken base n rejected name) : name ∉ taken := by
  induction h with
  | found free => exact free
  | rejected _ _ ih => exact ih

theorem mem_of_lt (h : Search taken base n rejected name) :
    ∀ m, n ≤ m → m < n + rejected → candidate base m ∈ taken := by
  induction h with
  | found =>
    intro m hle hlt
    omega
  | @rejected n _ _ used _ ih =>
    intro m hle hlt
    by_cases hm : m = n
    · rw [hm]
      exact used
    · exact ih m (by omega) (by omega)

/-- Every rejected candidate is one of the taken names, and no two candidates are the same. -/
theorem rejected_le (h : Search taken base n rejected name) : rejected ≤ taken.length := by
  apply le_length_of_forall_mem fun m => candidate base (n + m)
  · exact fun _ _ heq => Nat.add_left_cancel (candidate_injective base heq)
  · exact fun m hm => h.mem_of_lt (n + m) (by omega) (by omega)

theorem congr (h : Search taken base n rejected name) (hsame : ∀ s, s ∈ taken ↔ s ∈ others) :
    Search others base n rejected name := by
  induction h with
  | found free => exact .found fun hmem => free ((hsame _).2 hmem)
  | rejected used _ ih => exact .rejected ((hsame _).1 used) ih

end Search

/-! ## The search of a routine -/

/-- The bounded search is the unbounded one if the name that it ends with is free. -/
theorem search_firstFree {taken : List String} {base : String} {n tries : Nat}
    (h : firstFree taken base (n + 2) tries ∉ taken) :
    ∃ rejected, Search taken base (n + 1) rejected (firstFree taken base (n + 2) tries) := by
  induction tries generalizing n with
  | zero =>
    -- Without a try left the candidate is not looked up, but it is free by assumption.
    exact ⟨0, .found h⟩
  | succ tries ih =>
    rw [firstFree] at h ⊢
    by_cases hused : taken.contains (numberedName base (n + 2))
    · -- The candidate is rejected, and the search goes on with the next number.
      rw [if_pos hused] at h ⊢
      obtain ⟨rejected, hrest⟩ := ih h
      exact ⟨rejected + 1, .rejected (List.contains_iff_mem.1 hused) hrest⟩
    · rw [if_neg hused] at h ⊢
      exact ⟨0, .found h⟩

theorem search_freeName (taken : List String) (base : String) :
    ∃ rejected, Search taken base 0 rejected (freeName taken base) := by
  have hfree := freeName_not_mem taken base
  unfold freeName at hfree ⊢
  by_cases hused : taken.contains base
  · rw [if_pos hused] at hfree ⊢
    obtain ⟨rejected, hrest⟩ := search_firstFree hfree
    exact ⟨rejected + 1, .rejected (List.contains_iff_mem.1 hused) hrest⟩
  · rw [if_neg hused] at hfree ⊢
    exact ⟨0, .found hfree⟩

/-! ## Names of a list -/

/-- The names of the rules in front are what the others find taken. -/
theorem namesFrom_append (taken ruleNames others : List String) :
    namesFrom taken (ruleNames ++ others) =
      namesFrom taken ruleNames ++ namesFrom ((namesFrom taken ruleNames).reverse ++ taken)
        others := by
  induction ruleNames generalizing taken with
  | nil => rfl
  | cons ruleName rest ih =>
    simp [namesFrom, ih]

theorem routineNames_append (ruleNames others : List String) :
    routineNames (ruleNames ++ others) =
      routineNames ruleNames ++ namesFrom (routineNames ruleNames).reverse others := by
  have happend := namesFrom_append [] ruleNames others
  rw [List.append_nil] at happend
  exact happend

@[simp] theorem length_routineNames (ruleNames : List String) :
    (routineNames ruleNames).length = ruleNames.length := length_namesFrom [] ruleNames

/-- A rule's name is searched next to the names of the rules in front of it. -/
theorem exists_search {ruleNames : List String} {i : Nat} {ruleName : String}
    (h : ruleNames[i]? = some ruleName) :
    ∃ name rejected, (routineNames ruleNames)[i]? = some name ∧
      Search ((routineNames ruleNames).take i) (baseName ruleName) 0 rejected name := by
  obtain ⟨hi, rfl⟩ := List.getElem?_eq_some_iff.1 h
  -- The list is cut in front of the rule, and its names are cut at the same place.
  have hcut : ruleNames = ruleNames.take i ++ ruleNames[i] :: ruleNames.drop (i + 1) := by
    rw [List.getElem_cons_drop, List.take_append_drop]
  have hlength : (routineNames (ruleNames.take i)).length = i := by
    simp [Nat.le_of_lt hi]
  have hnames : routineNames ruleNames = routineNames (ruleNames.take i) ++
      namesFrom (routineNames (ruleNames.take i)).reverse
        (ruleNames[i] :: ruleNames.drop (i + 1)) := by
    conv_lhs => rw [hcut]
    exact routineNames_append _ _
  have htaken : (routineNames ruleNames).take i = routineNames (ruleNames.take i) := by
    rw [hnames]
    exact List.take_left' hlength
  obtain ⟨rejected, hsearch⟩ :=
    search_freeName (routineNames (ruleNames.take i)).reverse (baseName ruleNames[i])
  refine ⟨_, rejected, ?_, hsearch.congr fun name => ?_⟩
  · rw [hnames, List.getElem?_append_right (Nat.le_of_eq hlength), hlength, Nat.sub_self,
      namesFrom]
    rfl
  · rw [htaken, List.mem_reverse]

/-! ## The names of routines -/

/-- The base of a rule's name, all characters but ASCII letters, digits and underscores replaced. -/
theorem baseName_eq (ruleName : String) : baseName ruleName = "register" ++
    String.ofList (ruleName.toList.map fun c => if c.isAlphanum || c == '_' then c else '_') := by
  have hchar (c : Char) : isIdentifierChar c = (c.isAlphanum || c == '_') := by
    -- Both sides are the same ranges of characters, in another order.
    unfold isIdentifierChar Char.isAlphanum Char.isAlpha Char.isUpper Char.isLower Char.isDigit
    rw [Bool.eq_iff_iff]
    simp only [Bool.or_eq_true, Bool.and_eq_true, decide_eq_true_eq, ge_iff_le, Char.le_def]
    tauto
  unfold baseName identifierPart
  simp only [hchar]

/-- Every rule gets a name of its own, which is the name of a constant: the base made from the name
of the rule if no earlier rule has it, and otherwise the base with the least number from two on that
makes it free. The search for it ends after at most as many rejected candidates as there are earlier
rules, and rules that are added behind leave all names as they are. -/
theorem routineNames_least (ruleNames : List String) :
    let names := routineNames ruleNames
    names.length = ruleNames.length ∧ names.Nodup ∧ (∀ name ∈ names, isConstantName name) ∧
    (∀ (i : Nat) (ruleName : String), ruleNames[i]? = some ruleName →
      let earlier := names.take i
      let base := "register" ++
        String.ofList (ruleName.toList.map fun c => if c.isAlphanum || c == '_' then c else '_')
      ∃ name rejected, names[i]? = some name ∧ Search earlier base 0 rejected name ∧
        rejected ≤ i ∧ (base ∉ earlier → name = base) ∧
        (base ∈ earlier → ∃ k, 2 ≤ k ∧ name = base ++ "_" ++ toString k ∧ name ∉ earlier ∧
          ∀ j, 2 ≤ j → j < k → base ++ "_" ++ toString j ∈ earlier)) ∧
    ∀ others, names <+: routineNames (ruleNames ++ others) := by
  intro names
  refine ⟨length_routineNames ruleNames, nodup_routineNames ruleNames,
    fun name => isConstantName_of_mem_routineNames, fun i ruleName hi => ?_, fun others => ?_⟩
  · intro earlier base
    obtain ⟨name, rejected, hname, hsearch⟩ := exists_search hi
    rw [baseName_eq] at hsearch
    have hle : rejected ≤ i :=
      Nat.le_trans hsearch.rejected_le (List.length_take_le i names)
    refine ⟨name, rejected, hname, hsearch, hle, fun hfree => ?_, fun hused => ?_⟩
    · -- Nothing is rejected if the first candidate is free.
      cases hsearch with
      | found => rfl
      | rejected used => exact absurd used hfree
    · cases hsearch with
      | found free => exact absurd hused free
      | @rejected _ rejected _ _ rest =>
        -- The candidates behind the base have the numbers from two on.
        refine ⟨rejected + 2, by omega, ?_, rest.not_mem, fun j hj hlt => ?_⟩
        · rw [rest.eq_candidate, Nat.add_comm 1 rejected]
          rfl
        · obtain ⟨m, rfl⟩ := Nat.exists_eq_add_of_le hj
          have hmem := rest.mem_of_lt (m + 1) (by omega) (by omega)
          rw [Nat.add_comm 2 m]
          exact hmem
  · rw [routineNames_append]
    exact List.prefix_append _ _

/-- A base that is taken by another base with a number, names that make the same base, no name at
all, and names outside ASCII. -/
def collidingNames : List String := ["a", "a", "a_2", "a.2", "", "é", "a"]

theorem routineNames_least_colliding :
    collidingNames[3]? = some "a.2" ∧
    routineNames collidingNames = ["registera", "registera_2", "registera_2_2", "registera_2_3",
      "register", "register_", "registera_3"] ∧
    (∃ name rejected, (routineNames collidingNames)[3]? = some name ∧ rejected ≤ 3 ∧
      Search ["registera", "registera_2", "registera_2_2"] "registera_2" 0 rejected name) ∧
    routineNames collidingNames <+: routineNames (collidingNames ++ ["register"]) := by
  obtain ⟨-, -, -, hsearch, hprefix⟩ := routineNames_least collidingNames
  have hthird : collidingNames[3]? = some "a.2" := rfl
  obtain ⟨name, rejected, hname, hfound, hle, -, -⟩ := hsearch 3 "a.2" hthird
  exact ⟨hthird, rfl, ⟨name, rejected, hname, hle, hfound⟩, hprefix ["register"]⟩

end Rulebook.Registrar
