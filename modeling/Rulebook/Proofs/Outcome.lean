import Mathlib.Data.List.Forall2

/-!
Outcomes of steps that may fail, one after the other: the first error is the error of the whole, and
without one every step has its value.
-/

namespace Rulebook

variable {ε α β : Type}

theorem bind_eq_ok {x : Except ε α} {f : α → Except ε β} {b : β} :
    x >>= f = .ok b ↔ ∃ a, x = .ok a ∧ f a = .ok b := by
  cases x with
  | error e =>
    constructor
    · intro h
      cases h
    · rintro ⟨a, h, -⟩
      cases h
  | ok a =>
    constructor
    · intro h
      exact ⟨a, rfl, h⟩
    · rintro ⟨a', h, hf⟩
      cases h
      exact hf

theorem map_eq_ok {x : Except ε α} {f : α → β} {b : β} :
    x.map f = .ok b ↔ ∃ a, x = .ok a ∧ f a = b := by
  cases x with
  | error e =>
    constructor
    · intro h
      cases h
    · rintro ⟨a, h, -⟩
      cases h
  | ok a =>
    constructor
    · intro h
      cases h
      exact ⟨a, rfl, rfl⟩
    · rintro ⟨a', h, rfl⟩
      cases h
      rfl

theorem exists_eq_ok_of_isSome {x : Except ε α} (h : x.toOption.isSome = true) :
    ∃ a, x = .ok a := by
  cases x with
  | error e => cases h
  | ok a => exact ⟨a, rfl⟩

theorem mapM_eq_ok {f : α → Except ε β} {as : List α} {bs : List β} :
    as.mapM f = .ok bs ↔ List.Forall₂ (fun a b => f a = .ok b) as bs := by
  induction as generalizing bs with
  | nil =>
    rw [List.forall₂_nil_left_iff]
    exact ⟨fun h => by cases h; rfl, fun h => by rw [h]; rfl⟩
  | cons a as ih =>
    rw [List.mapM_cons, List.forall₂_cons_left_iff, bind_eq_ok]
    constructor
    · rintro ⟨b, hb, h⟩
      obtain ⟨rest, hrest, hbs⟩ := bind_eq_ok.1 h
      cases hbs
      exact ⟨b, rest, hb, ih.1 hrest, rfl⟩
    · rintro ⟨b, rest, hb, hrest, rfl⟩
      exact ⟨b, hb, bind_eq_ok.2 ⟨rest, ih.2 hrest, rfl⟩⟩

theorem mapM_eq_some_iff {f : α → Option β} {as : List α} {bs : List β} :
    as.mapM f = some bs ↔ List.Forall₂ (fun a b => f a = some b) as bs := by
  induction as generalizing bs with
  | nil =>
    rw [List.forall₂_nil_left_iff]
    exact ⟨fun h => by cases h; rfl, fun h => by rw [h]; rfl⟩
  | cons a as ih =>
    rw [List.mapM_cons, List.forall₂_cons_left_iff]
    constructor
    · intro h
      obtain ⟨b, hb, h⟩ := Option.bind_eq_some_iff.1 h
      obtain ⟨rest, hrest, hbs⟩ := Option.bind_eq_some_iff.1 h
      cases hbs
      exact ⟨b, rest, hb, ih.1 hrest, rfl⟩
    · rintro ⟨b, rest, hb, hrest, rfl⟩
      exact Option.bind_eq_some_iff.2 ⟨b, hb, Option.bind_eq_some_iff.2 ⟨rest, ih.2 hrest, rfl⟩⟩

theorem mapM_congr {f g : α → Except ε β} {as : List α} (h : ∀ a ∈ as, f a = g a) :
    as.mapM f = as.mapM g := by
  induction as with
  | nil => rfl
  | cons a as ih =>
    rw [List.mapM_cons, List.mapM_cons, h a List.mem_cons_self,
      ih fun b hb => h b (List.mem_cons_of_mem a hb)]

/-- A computation with a state goes on from where its first step has ended. -/
theorem run_bind_of_run {σ : Type} {x : StateM σ α} {s s' : σ} {a : α} (h : x.run s = (a, s'))
    (f : α → StateM σ β) : (x >>= f).run s = (f a).run s' := by
  rw [StateT.run_bind, h]
  rfl

/-! ## Lists side by side -/

section Pairs

variable {γ δ : Type} {R : α → β → Prop} {xs : List α} {ys : List β}

theorem map_eq_of_forall₂ {f : α → γ} {g : β → γ} (h : List.Forall₂ R xs ys)
    (hfg : ∀ x y, R x y → f x = g y) : xs.map f = ys.map g := by
  induction h with
  | nil => rfl
  | cons hxy _ ih => rw [List.map_cons, List.map_cons, hfg _ _ hxy, ih]

theorem exists_of_mem_of_forall₂ (h : List.Forall₂ R xs ys) {x : α} (hx : x ∈ xs) :
    ∃ y ∈ ys, R x y := by
  induction h with
  | nil => exact absurd hx List.not_mem_nil
  | cons hxy _ ih =>
    rcases List.mem_cons.1 hx with rfl | hx
    · exact ⟨_, List.mem_cons_self, hxy⟩
    · obtain ⟨y, hy, hR⟩ := ih hx
      exact ⟨y, List.mem_cons_of_mem _ hy, hR⟩

theorem forall₂_filter {p : α → Bool} {q : β → Bool} (h : List.Forall₂ R xs ys)
    (hpq : ∀ x y, R x y → p x = q y) : List.Forall₂ R (xs.filter p) (ys.filter q) := by
  induction h with
  | nil => exact .nil
  | @cons x y _ _ hxy _ ih =>
    rw [List.filter_cons, List.filter_cons, ← hpq x y hxy]
    by_cases hx : p x
    · rw [if_pos hx, if_pos hx]
      exact .cons hxy ih
    · rw [if_neg hx, if_neg hx]
      exact ih

theorem flatMap_zip_eq_of_forall₂ {f : α × γ → List δ} {g : β × γ → List δ}
    (h : List.Forall₂ R xs ys) (hfg : ∀ x y, R x y → ∀ z, f (x, z) = g (y, z)) (zs : List γ) :
    (xs.zip zs).flatMap f = (ys.zip zs).flatMap g := by
  induction h generalizing zs with
  | nil => rfl
  | cons hxy _ ih =>
    cases zs with
    | nil => rfl
    | cons z zs =>
      rw [List.zip_cons_cons, List.zip_cons_cons, List.flatMap_cons, List.flatMap_cons,
        hfg _ _ hxy z, ih zs]

end Pairs

/-! ## The first of all errors -/

def error? : Except ε α → Option ε
  | .error e => some e
  | .ok _ => none

/-- The outcome has the first of all errors that a search which goes on behind an error would find,
and a value if there is none. -/
def Reports (x : Except ε α) (errors : List ε) : Prop := error? x = errors.head?

namespace Reports

variable {x : Except ε α} {f : α → Except ε β} {errors others : List ε} {e : ε}

theorem ok (a : α) : Reports (.ok a : Except ε α) [] := rfl

theorem error (e : ε) : Reports (.error e : Except ε α) [e] := rfl

theorem eq_error_iff (h : Reports x errors) : x = .error e ↔ errors.head? = some e := by
  rw [← h]
  cases x with
  | error d => rw [error?, Except.error.injEq, Option.some.injEq]
  | ok a =>
    constructor
    · intro h
      cases h
    · intro h
      cases h

theorem exists_eq_ok_iff (h : Reports x errors) : (∃ a, x = .ok a) ↔ errors = [] := by
  rw [← List.head?_eq_none_iff, ← h]
  cases x with
  | error d =>
    constructor
    · rintro ⟨a, h⟩
      cases h
    · intro h
      cases h
  | ok a =>
    constructor
    · intro _
      rfl
    · intro _
      exact ⟨a, rfl⟩

theorem bind (h : Reports x errors) (hf : ∀ a, x = .ok a → Reports (f a) others) :
    Reports (x >>= f) (errors ++ others) := by
  cases x with
  | error d =>
    -- The second step is not taken, and its errors are behind the first one.
    cases errors with
    | nil => cases h
    | cons first rest => exact h
  | ok a =>
    rw [h.exists_eq_ok_iff.1 ⟨a, rfl⟩, List.nil_append]
    exact hf a rfl

theorem map (h : Reports x errors) (g : α → β) : Reports (x >>= fun a => .ok (g a)) errors := by
  have hbind := h.bind (f := fun a => .ok (g a)) (fun a _ => .ok (g a))
  rw [List.append_nil] at hbind
  exact hbind

theorem bind_flatten {groups : List (List ε)} (h : Reports x errors)
    (hf : ∀ a, Reports (f a) groups.flatten) : Reports (x >>= f) (errors :: groups).flatten := by
  rw [List.flatten_cons]
  exact h.bind fun a _ => hf a

theorem mapM {f : α → Except ε β} {errorsOf : α → List ε} (h : ∀ a, Reports (f a) (errorsOf a))
    (as : List α) : Reports (as.mapM f) (as.flatMap errorsOf) := by
  induction as with
  | nil => exact .ok []
  | cons a as ih =>
    rw [List.mapM_cons, List.flatMap_cons]
    exact (h a).bind fun b _ => ih.map (b :: ·)

end Reports

end Rulebook
