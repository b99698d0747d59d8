/-!
Sets of tags: lists in ascending order by code point, without repetitions. Two sets are equal when
they have the same members.
-/

namespace Rulebook

structure TagSet where
  toList : List String
  ascending : toList.Pairwise (· < ·) := by simp
deriving DecidableEq, Repr

namespace TagSet

/-- Puts a tag where it belongs in an ascending list, unless it is there. -/
def place (tag : String) : List String → List String
  | [] => [tag]
  | other :: rest =>
    if tag < other then tag :: other :: rest
    else if tag = other then other :: rest
    else other :: place tag rest

theorem mem_place {tag t : String} {tags : List String} :
    t ∈ place tag tags ↔ t = tag ∨ t ∈ tags := by
  induction tags with
  | nil => simp [place]
  | cons other rest ih =>
    simp only [place]
    split
    · simp
    · split
      · next h => subst h; simp
      · simp only [List.mem_cons, ih]
        exact or_left_comm

theorem lt_of_not_lt_of_ne {s t : String} (h : ¬ s < t) (hne : s ≠ t) : t < s := by
  have hle : t ≤ s := String.not_lt.1 h
  by_cases hts : t < s
  · exact hts
  · exact absurd (String.le_antisymm (String.not_lt.1 hts) hle) hne

theorem pairwise_place {tag : String} {tags : List String} (h : tags.Pairwise (· < ·)) :
    (place tag tags).Pairwise (· < ·) := by
  induction tags with
  | nil => simp [place]
  | cons other rest ih =>
    have hrest := List.pairwise_cons.1 h
    simp only [place]
    split
    · next hlt =>
      refine List.pairwise_cons.2 ⟨fun t ht => ?_, h⟩
      rcases List.mem_cons.1 ht with rfl | ht
      · exact hlt
      · exact String.lt_trans hlt (hrest.1 t ht)
    · next hlt =>
      split
      · exact h
      · next hne =>
        refine List.pairwise_cons.2 ⟨fun t ht => ?_, ih hrest.2⟩
        rcases mem_place.1 ht with rfl | ht
        · exact lt_of_not_lt_of_ne hlt hne
        · exact hrest.1 t ht

def empty : TagSet := ⟨[], List.Pairwise.nil⟩

instance : Inhabited TagSet := ⟨empty⟩

def insert (tag : String) (tags : TagSet) : TagSet :=
  ⟨place tag tags.toList, pairwise_place tags.ascending⟩

def ofList (tags : List String) : TagSet := tags.foldr insert empty

instance : Membership String TagSet := ⟨fun tags tag => tag ∈ tags.toList⟩

@[simp]
theorem mem_toList {tag : String} {tags : TagSet} : tag ∈ tags.toList ↔ tag ∈ tags := Iff.rfl

@[simp]
theorem mem_insert {tag t : String} {tags : TagSet} : t ∈ insert tag tags ↔ t = tag ∨ t ∈ tags :=
  mem_place

@[simp]
theorem mem_ofList {tag : String} {tags : List String} : tag ∈ ofList tags ↔ tag ∈ tags := by
  induction tags with
  | nil => exact ⟨fun h => absurd h List.not_mem_nil, fun h => absurd h List.not_mem_nil⟩
  | cons t rest ih =>
    show tag ∈ insert t (ofList rest) ↔ _
    rw [mem_insert, ih, List.mem_cons]

end TagSet

end Rulebook
