import Mathlib.Data.List.Sort
import Rulebook.Json.Value

/-!
Members of objects by their names: what a name has after another value was put in, or after two
objects were merged. Objects that were read name every member once, in ascending order.
-/

namespace Rulebook.Json

namespace Members

variable {members overrides : Members} {name : String} {value : Value}

theorem get?_cons (entry : String × Value) (rest : Members) :
    get? (entry :: rest) name = if name = entry.1 then some entry.2 else get? rest name := by
  unfold get?
  rw [List.lookup_cons]
  by_cases h : name = entry.1
  · rw [if_pos h, beq_iff_eq.2 h]
  · rw [if_neg h, beq_eq_false_iff_ne.2 h]

@[simp] theorem get?_insert (other : String) :
    get? (insert name value members) other =
      if other = name then some value else get? members other := by
  induction members with
  | nil => rw [insert, get?_cons]
  | cons entry rest ih =>
    obtain ⟨first, held⟩ := entry
    rw [insert]
    by_cases hlt : name < first
    · rw [if_pos hlt, get?_cons]
    by_cases heq : name = first
    · -- The new value takes the place of the old one.
      subst heq
      rw [if_neg hlt, if_pos rfl, get?_cons, get?_cons]
      by_cases h : other = name
      · rw [if_pos h, if_pos h]
      · rw [if_neg h, if_neg h, if_neg h]
    · rw [if_neg hlt, if_neg heq, get?_cons, get?_cons, ih]
      by_cases h : other = name
      · subst h
        rw [if_neg heq, if_pos rfl, if_pos rfl]
      · rw [if_neg h, if_neg h]

/-! ## Ascending names -/

/-- Every name is listed once, in ascending order. -/
def Ascending (members : Members) : Prop := members.Pairwise fun a b => a.1 < b.1

theorem mem_of_mem_insert {entry : String × Value} (h : entry ∈ insert name value members) :
    entry = (name, value) ∨ entry ∈ members := by
  induction members with
  | nil => exact Or.inl (List.mem_singleton.1 h)
  | cons first rest ih =>
    rw [insert] at h
    split_ifs at h
    · exact (List.mem_cons.1 h)
    · exact (List.mem_cons.1 h).imp_right (List.mem_cons_of_mem _)
    · rcases List.mem_cons.1 h with rfl | h
      · exact Or.inr List.mem_cons_self
      · exact (ih h).imp_right (List.mem_cons_of_mem _)

theorem Ascending.insert (h : Ascending members) (name : String) (value : Value) :
    Ascending (insert name value members) := by
  induction members with
  | nil => exact List.pairwise_singleton _ _
  | cons first rest ih =>
    obtain ⟨hfirst, hrest⟩ := List.pairwise_cons.1 h
    rw [Members.insert]
    split_ifs with hlt heq
    · refine List.pairwise_cons.2 ⟨fun entry hentry => ?_, h⟩
      rcases List.mem_cons.1 hentry with rfl | hentry
      · exact hlt
      · exact String.lt_trans hlt (hfirst entry hentry)
    · exact List.pairwise_cons.2 ⟨fun entry hentry => heq ▸ hfirst entry hentry, hrest⟩
    · refine List.pairwise_cons.2 ⟨fun entry hentry => ?_, ih hrest⟩
      rcases mem_of_mem_insert hentry with rfl | hentry
      · exact Std.lt_of_le_of_ne (String.not_lt.1 hlt) (Ne.symm heq)
      · exact hfirst entry hentry

theorem Ascending.merge (h : Ascending members) (overrides : Members) :
    Ascending (merge members overrides) := by
  unfold Members.merge
  induction overrides generalizing members with
  | nil => exact h
  | cons entry rest ih => exact ih (h.insert entry.1 entry.2)

theorem ascending_ofList (entries : List (String × Value)) : Ascending (ofList entries) :=
  Ascending.merge List.Pairwise.nil entries

/-! ## Merging -/

theorem get?_eq_none (h : ∀ entry ∈ members, name < entry.1) : get? members name = none := by
  induction members with
  | nil => rfl
  | cons entry rest ih =>
    have hne : name ≠ entry.1 := String.ne_of_lt (h entry List.mem_cons_self)
    rw [get?_cons, if_neg hne, ih fun e he => h e (List.mem_cons_of_mem _ he)]

/-- A name has the value that the second list gives it, whatever it is, and otherwise the value that
the first list gives it. -/
theorem get?_merge (h : Ascending overrides) (members : Members) (name : String) :
    get? (merge members overrides) name = (get? overrides name).or (get? members name) := by
  unfold merge
  induction overrides generalizing members with
  | nil => rfl
  | cons entry rest ih =>
    obtain ⟨hfirst, hrest⟩ := List.pairwise_cons.1 h
    rw [List.foldl_cons, ih hrest, get?_insert, get?_cons]
    by_cases hname : name = entry.1
    · -- The name stands nowhere behind, so the value that was put in stays.
      subst hname
      rw [if_pos rfl, if_pos rfl, get?_eq_none hfirst]
      rfl
    · rw [if_neg hname, if_neg hname]

end Members

theorem ascending_of_ofTree? {depth : Nat} {tree : Tree} {members : Members}
    (h : Value.ofTree? depth tree = some (.object members)) : members.Ascending := by
  cases tree with
  | null | bool => cases h
  | number n =>
    rw [Value.ofTree?] at h
    obtain ⟨_, -, hvalue⟩ := Option.map_eq_some_iff.1 h
    cases hvalue
  | string pieces =>
    rw [Value.ofTree?] at h
    obtain ⟨_, -, hvalue⟩ := Option.map_eq_some_iff.1 h
    cases hvalue
  | array items =>
    cases depth with
    | zero => cases h
    | succ depth =>
      obtain ⟨_, -, hvalue⟩ := Option.map_eq_some_iff.1 h
      cases hvalue
  | object entries =>
    cases depth with
    | zero => cases h
    | succ depth =>
      obtain ⟨read, -, hvalue⟩ := Option.map_eq_some_iff.1 h
      cases hvalue
      exact Members.ascending_ofList read

theorem ascending_of_ofText? {text : String} {members : Members}
    (h : Value.ofText? text = some (.object members)) : members.Ascending := by
  obtain ⟨tree, -, htree⟩ := Option.bind_eq_some_iff.1 h
  exact ascending_of_ofTree? htree

end Rulebook.Json
