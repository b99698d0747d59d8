import Mathlib.Data.List.Basic
import Rulebook.Log.Settings

/-!
Logs of records, read back. A log in the format for programs has a record on a line for every entry
that is shown. The records that tell what would be written can be told from all others.
-/

namespace Rulebook.Log

open Rulebook.Json (Value Members)

/-! ## Records -/

def linesOf (records : List Value) : String := String.join (records.map fun r => r.compact ++ "\n")

@[simp] theorem linesOf_nil : linesOf [] = "" := rfl

@[simp] theorem linesOf_singleton (record : Value) : linesOf [record] = record.compact ++ "\n" := by
  rw [linesOf, List.map_singleton, String.join_cons, String.join_nil, String.append_empty]

@[simp] theorem linesOf_append (records others : List Value) :
    linesOf (records ++ others) = linesOf records ++ linesOf others := by
  rw [linesOf, List.map_append, String.join_append]
  rfl

def Settings.record? (settings : Settings) (filter : Filter) (entry : Entry) : Option Value :=
  let around := filter.shownSpans entry.around
  match entry.occurrence with
  | .event event =>
    if filter.shows around event then some (Format.eventRecord settings.areas around event)
    else none
  | .closed span =>
    if settings.spanEnds && filter.showsSpan around span then
      some (Format.closeRecord settings.areas around span)
    else none

theorem Settings.line?_eq {settings : Settings} (h : settings.format = .json) (filter : Filter)
    (entry : Entry) :
    settings.line? filter entry = (settings.record? filter entry).map Value.compact := by
  unfold line? record?
  rw [h]
  cases entry.occurrence with
  | event event =>
    simp only
    split <;> rfl
  | closed span =>
    simp only
    split <;> rfl

/-! ## What would be written -/

def member? (value : Value) (name : String) : Option Value :=
  match value with
  | .object members => Members.get? members name
  | _ => none

def text? : Value → Option String
  | .string s => some s
  | _ => none

def integer? : Value → Option Int
  | .number (.integer n) => some n
  | _ => none

/-- The path and the number of bytes in a record that tells what would be written; nothing for any
other record. -/
def wouldWrite? (record : Value) : Option (Option String × Option Int) := do
  let fields ← member? record "fields"
  let message ← (member? fields "message").bind text?
  if message = "dry run: would write" then
    some ((member? fields "path").bind text?, (member? fields "bytes").bind integer?)
  else none

theorem wouldWrite?_eventRecord_wouldWriteArtifact (areas : Bool) (around : List Span) (path : Path)
    (bytes : Nat) :
    wouldWrite? (Format.eventRecord areas around (.wouldWriteArtifact path bytes)) =
      some (some path.display, some (bytes : Int)) := by
  rfl

/-- A text has another first character if it begins with one that has. -/
theorem append_ne_of_head {start rest text : String} (hstart : start.toList ≠ [])
    (h : start.toList.head? ≠ text.toList.head?) : start ++ rest ≠ text := by
  rintro rfl
  rw [String.toList_append, List.head?_append_of_ne_nil _ hstart] at h
  exact h rfl

/-- Nothing else that is reported has that message. -/
theorem message_ne {event : Event} (h : event.area ≠ .sink) :
    event.message ≠ "dry run: would write" := by
  cases event with
  | generatingRegistrars language directory =>
    show "Generating " ++ language ++ " rule classes into " ++ directory.display ≠ _
    rw [String.append_assoc, String.append_assoc]
    exact append_ne_of_head (by decide) (by decide)
  | generatingRuleData language directory =>
    show "Generating " ++ language ++ " rule data into " ++ directory.display ≠ _
    rw [String.append_assoc, String.append_assoc]
    exact append_ne_of_head (by decide) (by decide)
  | wroteArtifact | wouldWriteArtifact => exact absurd rfl h
  | _ => exact ne_of_beq_false rfl

theorem wouldWrite?_eventRecord {event : Event} (h : event.area ≠ .sink) (areas : Bool)
    (around : List Span) : wouldWrite? (Format.eventRecord areas around event) = none := by
  show (if event.message = "dry run: would write" then _ else none) = none
  rw [if_neg (message_ne h)]

@[simp] theorem wouldWrite?_closeRecord (areas : Bool) (around : List Span) (span : Span) :
    wouldWrite? (Format.closeRecord areas around span) = none := by
  rfl

/-- Whatever does not come from a sink tells of no write. -/
theorem Settings.wouldWrite?_record? {settings : Settings} {filter : Filter} {entry : Entry}
    {record : Value} (h : settings.record? filter entry = some record)
    (hentry : ∀ event, entry.occurrence = .event event → event.area ≠ .sink) :
    wouldWrite? record = none := by
  unfold record? at h
  dsimp only at h
  split at h
  · next event hoccurrence =>
    split at h <;> cases h
    exact wouldWrite?_eventRecord (hentry event hoccurrence) _ _
  · split at h <;> cases h
    exact wouldWrite?_closeRecord _ _ _

/-! ## What is shown -/

theorem Verbosity.mem_all (v : Verbosity) : v ∈ all := by
  cases v <;> decide

def Area.all : List Area :=
  [.command, .run, .checkout, .normalization, .registrars, .ruleData, .sink]

theorem Area.mem_all (area : Area) : area ∈ all := by
  cases area <;> decide

/-- The verbosity of a filter holds in every area of this program. -/
@[simp] theorem decided_ofVerbosity (v : Verbosity) (area : Area) :
    Filter.decided ((Filter.ofVerbosity v).directives.filter (·.concerns area)) = v := by
  have hall : ∀ v ∈ Verbosity.all, ∀ area ∈ Area.all,
      Filter.decided ((Filter.ofVerbosity v).directives.filter (·.concerns area)) = v := by
    decide +kernel
  exact hall v v.mem_all area area.mem_all

@[simp] theorem eventVerbosity_ofVerbosity (v : Verbosity) (event : Event) :
    (Filter.ofVerbosity v).eventVerbosity event = v := by
  have hgeneral : (Filter.ofVerbosity v).general = (Filter.ofVerbosity v).directives := rfl
  rw [Filter.eventVerbosity, hgeneral]
  refine Eq.trans (congrArg Filter.decided ?_) (decided_ofVerbosity v event.area)
  -- No field is asked for, so the area of the event decides.
  refine List.filter_congr fun d hd => ?_
  have hfield : d.field = none := by
    rcases List.mem_cons.1 hd with rfl | hd
    · rfl
    · obtain ⟨start, -, rfl⟩ := List.mem_map.1 hd
      rfl
  rw [Directive.concernsEvent, hfield, Option.all_none, Bool.and_true]

/-- From the level of information on, what would be written is shown. -/
theorem shows_wouldWriteArtifact {v : Verbosity} (h : Verbosity.info.rank ≤ v.rank)
    (around : List Span) (path : Path) (bytes : Nat) :
    (Filter.ofVerbosity v).shows around (.wouldWriteArtifact path bytes) = true := by
  rw [Filter.shows, eventVerbosity_ofVerbosity, Bool.or_eq_true]
  exact Or.inl (decide_eq_true h)

end Rulebook.Log
