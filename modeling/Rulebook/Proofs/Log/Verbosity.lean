import Rulebook.Proofs.Log.Records

/-!
Logs of different verbosity. The filter of a verbosity looks at the level of an entry and at nothing
else, and no event is more important than the spans around it. So what a quieter log shows is what a
louder one shows of the same entries, less the records whose level is beyond it.
-/

namespace Rulebook.Log

open Rulebook.Json (Value Members)

/-! ## The filter of a verbosity -/

section Filters

variable (v : Verbosity)

@[simp] theorem reach_ofVerbosity : (Filter.ofVerbosity v).reach = v := by
  cases v <;> rfl

@[simp]
theorem choosing_ofVerbosity (span : Span) : (Filter.ofVerbosity v).choosing span = [] := rfl

@[simp] theorem insideShows_ofVerbosity (around : List Span) (level : Level) :
    (Filter.ofVerbosity v).insideShows around level = false := by
  rw [Filter.insideShows, List.any_eq_false]
  intro span _
  rw [Filter.insideVerbosity, choosing_ofVerbosity]
  cases level <;> exact Bool.false_ne_true

@[simp] theorem shows_ofVerbosity (around : List Span) (event : Event) :
    (Filter.ofVerbosity v).shows around event = v.shows event.level := by
  simp [Filter.shows]

@[simp] theorem showsSpan_ofVerbosity (around : List Span) (span : Span) :
    (Filter.ofVerbosity v).showsSpan around span = v.shows Filter.spanLevel := by
  have hspan : (Filter.ofVerbosity v).spanVerbosity span = v := decided_ofVerbosity v span.area
  simp [Filter.showsSpan, hspan]

/-- All spans are shown or none. -/
@[simp] theorem shownSpans_ofVerbosity (spans : List Span) :
    (Filter.ofVerbosity v).shownSpans spans = if v.shows Filter.spanLevel then spans else [] := by
  unfold Filter.shownSpans
  simp only [showsSpan_ofVerbosity]
  cases v.shows Filter.spanLevel with
  | true =>
    simp only [if_true, List.foldl_append_eq_append, List.nil_append, ← List.flatMap_def,
      List.flatMap_singleton']
  | false =>
    simp only [Bool.false_eq_true, if_false]
    exact List.foldl_fixed spans

end Filters

/-! ## Records by their level -/

def Entry.level (entry : Entry) : Level :=
  match entry.occurrence with
  | .event event => event.level
  | .closed _ => Filter.spanLevel

/-- The record of an entry that is shown with all the spans around it. The end of a span may have
none. -/
def Settings.fullRecord? (settings : Settings) (entry : Entry) : Option Value :=
  match entry.occurrence with
  | .event event => some (Format.eventRecord settings.areas entry.around event)
  | .closed span =>
    if settings.spanEnds then some (Format.closeRecord settings.areas entry.around span) else none

/-- Events are no more important than spans. -/
theorem spanLevel_rank_le (entry : Entry) : Filter.spanLevel.rank ≤ entry.level.rank := by
  unfold Entry.level
  cases entry.occurrence with
  | event event => cases event <;> exact Nat.le_of_ble_eq_true rfl
  | closed => exact Nat.le_refl _

theorem Verbosity.shows_of_le {v : Verbosity} {level other : Level} (h : level.rank ≤ other.rank)
    (hshows : v.shows other = true) : v.shows level = true :=
  decide_eq_true (Nat.le_trans h (of_decide_eq_true hshows))

/-- Where an entry is shown, all the spans around it are. -/
theorem Settings.record?_ofVerbosity (settings : Settings) (v : Verbosity) (entry : Entry) :
    settings.record? (Filter.ofVerbosity v) entry =
      if v.shows entry.level then settings.fullRecord? entry else none := by
  have haround (h : v.shows entry.level = true) :
      (Filter.ofVerbosity v).shownSpans entry.around = entry.around := by
    rw [shownSpans_ofVerbosity, if_pos (Verbosity.shows_of_le (spanLevel_rank_le entry) h)]
  unfold record? fullRecord?
  unfold Entry.level at haround ⊢
  dsimp only
  cases hoccurrence : entry.occurrence with
  | event event =>
    rw [hoccurrence] at haround
    dsimp only at haround ⊢
    rw [shows_ofVerbosity]
    by_cases hshows : v.shows event.level = true
    · rw [if_pos hshows, if_pos hshows, haround hshows]
    · rw [if_neg hshows, if_neg hshows]
  | closed span =>
    rw [hoccurrence] at haround
    dsimp only at haround ⊢
    rw [showsSpan_ofVerbosity]
    by_cases hshows : v.shows Filter.spanLevel = true
    · rw [if_pos hshows, haround hshows, hshows, Bool.and_true]
    · rw [if_neg hshows, if_neg]
      rw [Bool.and_eq_true, not_and]
      exact fun _ => hshows

/-! ## Quieter logs -/

def Level.ofName? (name : String) : Option Level :=
  [Level.error, .warn, .info, .debug, .trace].find? (·.name == name)

@[simp] theorem Level.ofName?_name (level : Level) : Level.ofName? level.name = some level := by
  cases level <;> rfl

/-- Whether the level that a record names is within a verbosity. -/
def isWithin (v : Verbosity) (record : Value) : Bool :=
  (((member? record "level").bind text?).bind Level.ofName?).any v.shows

theorem isWithin_fullRecord {settings : Settings} {entry : Entry} {record : Value}
    (h : settings.fullRecord? entry = some record) (v : Verbosity) :
    isWithin v record = v.shows entry.level := by
  have hlevel (level : Level) (fields others : Members) :
      isWithin v (Format.record level fields others) = v.shows level := by
    show (Level.ofName? level.name).any v.shows = _
    rw [Level.ofName?_name, Option.any_some]
  unfold Settings.fullRecord? at h
  unfold Entry.level
  split at h
  · cases h
    exact hlevel _ _ _
  · split_ifs at h
    cases h
    exact hlevel _ _ _

def Settings.recordsOf (settings : Settings) (v : Verbosity) (entries : List Entry) : List Value :=
  entries.filterMap (settings.record? (Filter.ofVerbosity v))

@[simp] theorem Settings.recordsOf_nil (settings : Settings) (v : Verbosity) :
    settings.recordsOf v [] = [] := rfl

@[simp] theorem Settings.recordsOf_singleton (settings : Settings) (v : Verbosity) (entry : Entry) :
    settings.recordsOf v [entry] = (settings.record? (Filter.ofVerbosity v) entry).toList := by
  unfold recordsOf
  rw [List.filterMap_cons, List.filterMap_nil]
  cases settings.record? (Filter.ofVerbosity v) entry <;> rfl

@[simp] theorem Settings.recordsOf_append (settings : Settings) (v : Verbosity)
    (entries others : List Entry) :
    settings.recordsOf v (entries ++ others) =
      settings.recordsOf v entries ++ settings.recordsOf v others :=
  List.filterMap_append

/-- The records of a quieter log are those of a louder one that are within it. -/
theorem Settings.recordsOf_quieter (settings : Settings) {v w : Verbosity} (h : v.rank ≤ w.rank)
    (entries : List Entry) :
    settings.recordsOf v entries = (settings.recordsOf w entries).filter (isWithin v) := by
  unfold recordsOf
  rw [List.filter_filterMap]
  congr 1
  funext entry
  rw [record?_ofVerbosity, record?_ofVerbosity]
  -- An entry that the quieter log shows is shown by the louder one, and its record tells its level.
  cases hfull : settings.fullRecord? entry with
  | none => simp only [ite_self, Option.filter_none]
  | some record =>
    by_cases hv : v.shows entry.level = true
    · have hw : w.shows entry.level = true :=
        decide_eq_true (Nat.le_trans (of_decide_eq_true hv) h)
      rw [if_pos hv, if_pos hw, Option.filter_some, isWithin_fullRecord hfull, if_pos hv]
    · rw [if_neg hv]
      split_ifs
      · rw [Option.filter_some, isWithin_fullRecord hfull, if_neg hv]
      · rfl

/-- Nothing is reported that counts as a warning. -/
theorem Settings.recordsOf_eq_nil (settings : Settings) {v : Verbosity}
    (h : v.rank ≤ Verbosity.warn.rank) (entries : List Entry) :
    settings.recordsOf v entries = [] := by
  refine List.filterMap_eq_nil_iff.2 fun entry _ => ?_
  rw [record?_ofVerbosity, if_neg]
  intro hshows
  -- An entry is no more important than spans, which are beyond warnings.
  have hspan : Filter.spanLevel.rank ≤ Verbosity.warn.rank :=
    Nat.le_trans (spanLevel_rank_le entry) (Nat.le_trans (of_decide_eq_true hshows) h)
  exact absurd hspan (by decide)

end Rulebook.Log
