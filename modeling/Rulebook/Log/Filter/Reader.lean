import Rulebook.Log.Filter
import Rulebook.Log.Filter.Form
import Rulebook.Text.Pattern.Reader

/-!
Reading filters. There are commas between directives. A directive without a level shows everything
that it is for; a lone level is for all areas, and a lone other word is the start of an area.
-/

namespace Rulebook.Log.Filter

/-! ## Levels and values -/

def lowerCase (c : Char) : Char :=
  if 'A' ≤ c && c ≤ 'Z' then Char.ofNat (c.toNat + 32) else c

/-- The number that digits denote; a plus sign may stand before them. -/
def number? (cs : List Char) : Option Nat :=
  let digits := if cs.head? = some '+' then cs.drop 1 else cs
  if digits.isEmpty || !digits.all Char.isDigit then none
  else some (digits.foldl (fun n c => 10 * n + (c.toNat - 48)) 0)

/-- A verbosity by its name, in letters of any case, or by its rank. -/
def verbosity? (cs : List Char) : Option Verbosity :=
  match number? cs with
  | some n => if n ≤ 5 then some (Verbosity.ofRank n) else none
  | none => Verbosity.ofName? (String.ofList (cs.map lowerCase))

def levelOrAll? (cs : List Char) : Option Verbosity :=
  if cs.isEmpty then some .trace else verbosity? cs

def unsigned (cs : List Char) : List Char :=
  match cs with
  | '+' :: rest => rest
  | '-' :: rest => rest
  | _ => cs

def isExponent (cs : List Char) : Bool :=
  let digits := unsigned cs
  !digits.isEmpty && digits.all Char.isDigit

/-- Whether what is after a number's digits may stand there: nothing, or an exponent. -/
def endsNumber (cs : List Char) : Bool :=
  match cs with
  | [] => true
  | c :: rest => (c = 'e' || c = 'E') && isExponent rest

def isNumber (cs : List Char) : Bool :=
  let body := unsigned cs
  let whole := body.takeWhile Char.isDigit
  ["inf", "infinity", "nan"].contains (String.ofList (body.map lowerCase)) ||
    match body.dropWhile Char.isDigit with
    | '.' :: rest =>
      let fraction := rest.takeWhile Char.isDigit
      !(whole.isEmpty && fraction.isEmpty) && endsNumber (rest.dropWhile Char.isDigit)
    | rest => !whole.isEmpty && endsNumber rest

/-- Whether a text is a value of a kind that no field with a text has. -/
def isNoText (cs : List Char) : Bool :=
  cs = "true".toList || cs = "false".toList || isNumber cs

def value? (cs : List Char) : Option ValueDemand :=
  let written := String.ofList cs
  if isNoText cs then some ⟨written, none⟩
  else (Text.Pattern.ofText? written).map fun pattern => ⟨written, some pattern⟩

def field? (cs : List Char) : Option FieldDemand :=
  let name := String.ofList (cs.takeWhile (· ≠ '='))
  match cs.dropWhile (· ≠ '=') with
  | [] => some ⟨name, none⟩
  | _ :: rest => (value? (rest.takeWhile (· ≠ '='))).map fun value => ⟨name, some value⟩

/-! ## Directives -/

def cutPart? (text : List Char) : Option Place → Option (Option (List Char))
  | none => some none
  | some place => (place.cut? text).map some

def ofForm? (text : List Char) : Form → Option Directive
  | .word place => do
    let word ← place.cut? text
    match verbosity? word with
    | some v => some ⟨"", none, none, v⟩
    | none => some ⟨String.ofList word, none, none, .trace⟩
  | .parts start span field level => do
    let start ← cutPart? text start
    let span ← cutPart? text span
    let level ← cutPart? text level
    let verbosity ← levelOrAll? (level.getD [])
    let aim : Directive :=
      ⟨String.ofList (start.getD []), span.map String.ofList, none, verbosity⟩
    match ← cutPart? text field with
    | none => some aim
    | some field => (field? field).map fun demand => { aim with field := some demand }

def directive? (text : List Char) : Option Directive :=
  (form? (Text.trimmed text)).bind (ofForm? text)

def directives? : List (List Char) → Option (List Directive)
  | [] => some []
  | cs :: rest =>
    match directive? cs, directives? rest with
    | some d, some ds => some (d :: ds)
    | _, _ => none

/-- Reads a filter. One without directives shows errors. -/
def ofText? (text : String) : Option Filter :=
  match (text.toList.splitOn ',').filter (· ≠ []) with
  | [] => some ⟨[⟨"", none, none, .error⟩]⟩
  | parts => (directives? parts).map Filter.mk

end Rulebook.Log.Filter
