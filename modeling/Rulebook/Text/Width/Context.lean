import Rulebook.Text.Emoji
import Rulebook.Text.Joining
import Rulebook.Text.Width.Table

/-!
How many columns a character adds to those of the text after it. Most add their own. Those that form
one sign with what follows add less, and a selector after a character may make it wide or narrow.
-/

namespace Rulebook.Text.Width

/-! ## What follows a character -/

/-- The end of a sign of several letters, whose letters before it are still to come. -/
inductive Ending where
  /-- Alef, after a Lam. -/
  | alef
  /-- Hebrew Lamed, after Alef and a joiner. -/
  | lamed
  /-- Buginese ya, after a joiner. -/
  | ya
  /-- Buginese vowel sign i, joined to a ya. -/
  | vowelYa
  /-- A Tifinagh consonant. -/
  | consonant
  /-- The Tifinagh consonant joiner, before a consonant. -/
  | joinedConsonant
  /-- A second Lisu tone letter. -/
  | tone
  /-- Orkhon i, after ec and a joiner. -/
  | orkhonI
  /-- A Khmer letter that may be a subscript. -/
  | subscript
deriving DecidableEq, Repr, Inhabited

/-- What follows a character, as far as it changes the columns of the character. -/
inductive Following where
  | nothing
  | picture
  | tone
  /-- One regional indicator. -/
  | indicator
  | indicators
  /-- A joiner and a picture. -/
  | joined
  /-- A keycap, a joiner and a picture. -/
  | joinedKeycap
  /-- One regional indicator, a joiner and a picture. -/
  | joinedIndicator
  /-- Flags, a joiner and a picture. -/
  | joinedFlags
  /-- A regional indicator, flags, a joiner and a picture. -/
  | joinedIndicators
  /-- Tag letters with their end, a joiner and a picture. -/
  | joinedTags (letters : Nat)
  /-- Tag digits before tag letters with their end, a joiner and a picture. -/
  | joinedDigits (digits : Nat)
  /-- The Kirat Rai vowel sign e. -/
  | vowelE
  /-- The Kirat Rai vowel sign ai. -/
  | vowelAi
  /-- The end of a sign of letters, and whether a joiner stands before it. -/
  | ending (ending : Ending) (joiner : Bool)
deriving DecidableEq, Repr, Inhabited

inductive Selector where
  | text
  | picture
  | fullWidth
deriving DecidableEq, Repr, Inhabited

structure Context where
  following : Following
  selector : Option Selector
deriving DecidableEq, Repr, Inhabited

namespace Following

def besideText : Following → Following
  | .ending e joiner => .ending e joiner
  | _ => .nothing

def besidePicture : Following → Following
  | .ending e joiner => .ending e joiner
  | .joined => .joined
  | .joinedKeycap => .joinedKeycap
  | _ => .nothing

def pictureColumns : Following → Int
  | .joined => 0
  | .joinedKeycap => 0
  | _ => 2

end Following

/-- The columns that a character adds to those of the text after it, and what the character before
it is followed by. -/
structure Step where
  columns : Int
  context : Context
deriving DecidableEq, Repr, Inhabited

def Step.before (columns : Int) (following : Following) : Step := ⟨columns, ⟨following, none⟩⟩

def Step.plain (columns : Int) : Step := .before columns .nothing

/-! ## Characters by themselves -/

def alone (c : Char) : Step :=
  if c.toNat ≤ 0xA0 then .plain 1
  else if c.toNat = 0x5DC then .before 1 (.ending .lamed false)
  else if Joining.isAlef c then .before 1 (.ending .alef false)
  else if Joining.isKhmerSubscript c then .before 1 (.ending .subscript false)
  else if c.toNat = 0x17D8 then .plain 3
  else if c.toNat = 0x1A10 then .before 1 (.ending .ya false)
  else if Joining.isTifinaghConsonant c then .before 1 (.ending .consonant false)
  else if Joining.lisuSecondTones.contains c.toNat then .before 1 (.ending .tone false)
  else if c.toNat = 0x10C03 then .before 1 (.ending .orkhonI false)
  else if c.toNat = 0x16D67 then .before 1 .vowelE
  else if c.toNat = 0x16D68 then .before 1 .vowelAi
  else if Emoji.indicators.contains c.toNat then .before 1 .indicator
  else if Emoji.tones.contains c.toNat then .before 2 .tone
  else if CodePointRange.anyContains zeroRanges c then .plain 0
  else if Emoji.isPicture c then .before 2 .picture
  else if CodePointRange.anyContains wideRanges c then .plain 2
  else .plain 1

/-! ## Characters before others -/

def beforeEnding (c : Char) (ending : Ending) (joiner : Bool) : Option Step :=
  match ending with
  -- Marks that take no columns may stand between Lam and Alef, unless they keep the two apart.
  | .alef =>
    if Joining.isLam c then some (.plain 0)
    else if CodePointRange.anyContains zeroRanges c && !Joining.isBarrier c then
      some (.before 0 (.ending .alef joiner))
    else none
  | _ =>
    if c.toNat = Emoji.joiner then some (.before 0 (.ending ending true))
    else if Joining.isIgnoredMark c then some (.before 0 (.ending ending joiner))
    else match ending with
      | .lamed => if joiner && c.toNat = 0x5D0 then some (.plain 0) else none
      | .ya =>
        if joiner && c.toNat = 0x1A17 then some (.before 0 (.ending .vowelYa false)) else none
      | .vowelYa => if c.toNat = 0x1A15 then some (.plain 0) else none
      | .consonant =>
        if c.toNat = 0x2D7F then some (.before 1 (.ending .joinedConsonant false))
        else if joiner && Joining.isTifinaghConsonant c then some (.plain 0)
        else none
      -- The joiner has taken a column of its own, which the sign gives back.
      | .joinedConsonant => if Joining.isTifinaghConsonant c then some (.plain (-1)) else none
      | .tone => if Joining.lisuFirstTones.contains c.toNat then some (.plain 0) else none
      | .orkhonI => if joiner && c.toNat = 0x10C32 then some (.plain 0) else none
      | .subscript => if c.toNat = 0x17D2 then some (.plain (-1)) else none
      | .alef => none

/-- A character before a joiner and a picture. Pictures that are joined take the columns of one. -/
def beforeJoined (c : Char) : Option Step :=
  if c.toNat = Emoji.keycap then some (.before 0 .joinedKeycap)
  else if Emoji.indicators.contains c.toNat then some (.before 1 .joinedIndicator)
  else if Emoji.tones.contains c.toNat then some (.before 0 .tone)
  else if c.toNat = Emoji.tagEnd then some (.before 0 (.joinedTags 0))
  else if Emoji.isPicture c then some (.before 0 .picture)
  else none

def beforeTags (c : Char) (letters : Nat) : Option Step :=
  if Emoji.tagLetters.contains c.toNat && letters < 6 then
    some (.before 0 (.joinedTags (letters + 1)))
  else if Emoji.tagDigits.contains c.toNat && letters ≤ 4 then some (.before 0 (.joinedDigits 1))
  else if c.toNat = Emoji.blackFlag && 3 ≤ letters then some (.before 0 .picture)
  else none

def beforeDigits (c : Char) (digits : Nat) : Option Step :=
  if Emoji.tagDigits.contains c.toNat && digits < 3 then
    some (.before 0 (.joinedDigits (digits + 1)))
  else if c.toNat = Emoji.blackFlag && digits = 3 then some (.before 0 .picture)
  else none

def joinerBefore (c : Char) : Option Step :=
  if c.toNat = Emoji.joiner then some (.before 0 .joined) else none

def beside (c : Char) : Following → Option Step
  | .nothing => none
  | .picture => joinerBefore c
  | .tone => if Emoji.takesTone c then some (.before 0 .picture) else joinerBefore c
  | .indicator =>
    if Emoji.indicators.contains c.toNat then some (.before 1 .indicators) else none
  | .indicators =>
    if Emoji.indicators.contains c.toNat then some (.before 1 .indicators) else joinerBefore c
  | .joined => beforeJoined c
  | .joinedKeycap => none
  -- A flag before a joined picture takes no columns: one is added for its second letter, as long as
  -- it may stand alone, and taken back with the first.
  | .joinedIndicator =>
    if Emoji.indicators.contains c.toNat then some (.before (-1) .joinedFlags) else none
  | .joinedFlags =>
    if Emoji.indicators.contains c.toNat then some (.before 3 .joinedIndicators)
    else joinerBefore c
  | .joinedIndicators =>
    if Emoji.indicators.contains c.toNat then some (.before (-1) .joinedFlags) else joinerBefore c
  | .joinedTags letters => beforeTags c letters
  | .joinedDigits digits => beforeDigits c digits
  | .vowelE =>
    if c.toNat = 0x16D63 || c.toNat = 0x16D69 then some (.plain 0)
    else if c.toNat = 0x16D67 then some (.before 0 .vowelAi)
    else if c.toNat = 0x16D68 then some (.before 1 .vowelE)
    else none
  | .vowelAi => if c.toNat = 0x16D63 then some (.plain 0) else none
  | .ending ending joiner => beforeEnding c ending joiner

def unselected (c : Char) (following : Following) : Step :=
  if c.toNat ≤ 0xA0 then alone c
  else if c.toNat = Emoji.pictureSelector then ⟨0, ⟨following.besidePicture, some .picture⟩⟩
  else if c.toNat = Emoji.textSelector then ⟨0, ⟨following.besideText, some .text⟩⟩
  else if c.toNat = 0xFE01 then ⟨0, ⟨following.besideText, some .fullWidth⟩⟩
  else (beside c following).getD (alone c)

def isQuotationMark (c : Char) : Bool :=
  c = '\u2018' || c = '\u2019' || c = '\u201c' || c = '\u201d'

def step (c : Char) (context : Context) : Step :=
  match context.selector with
  | none => unselected c context.following
  | some .picture =>
    if Emoji.isSelectable c then .before context.following.pictureColumns .picture
    else unselected c context.following.besideText
  | some .text =>
    if Emoji.narrowsAsText c then .plain 1 else unselected c context.following
  | some .fullWidth =>
    if isQuotationMark c then .plain 2 else unselected c context.following

end Rulebook.Text.Width
