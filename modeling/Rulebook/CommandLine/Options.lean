import Rulebook.Log.Settings
import Rulebook.Run.Request

/-!
The options of a command line, and what has been given of them so far. Options about the log may
stand before the name of the command or after it, all others only after it.
-/

namespace Rulebook.CommandLine

inductive Command where
  | registrars
  | ruleData
deriving DecidableEq, Repr, Inhabited

namespace Command

def name : Command → String
  | .registrars => "registrars"
  | .ruleData => "rule-data"

def all : List Command := [.registrars, .ruleData]

def ofName? (name : String) : Option Command := all.find? (·.name == name)

end Command

inductive ColorChoice where
  | auto
  | always
  | never
deriving DecidableEq, Repr, Inhabited

namespace ColorChoice

def name : ColorChoice → String
  | .auto => "auto"
  | .always => "always"
  | .never => "never"

def all : List ColorChoice := [.auto, .always, .never]

def ofName? (name : String) : Option ColorChoice := all.find? (·.name == name)

end ColorChoice

inductive ValueOption where
  | color
  | logLevel
  | logFormat
  | logFile
  | rulesDirectory
  | language
  | targetDirectory
  | packageName
  | repositoryKey
  | compatibleLanguage
  | profileName
  | repositoryName
deriving DecidableEq, Repr, Inhabited

inductive Switch where
  | verbose
  | quiet
  | dryRun
  | help
  | version
deriving DecidableEq, Repr, Inhabited

/-- Where options stand: before the name of the command, or after it. -/
abbrev Scope := Option Command

namespace ValueOption

def name : ValueOption → String
  | .color => "color"
  | .logLevel => "log-level"
  | .logFormat => "log-format"
  | .logFile => "log-file"
  | .rulesDirectory => "rules-dir"
  | .language => "language-key"
  | .targetDirectory => "target-dir"
  | .packageName => "package-name"
  | .repositoryKey => "repository-key"
  | .compatibleLanguage => "compatible-language-key"
  | .profileName => "profile-name"
  | .repositoryName => "repository-name"

def ofLog : List ValueOption := [.color, .logLevel, .logFormat, .logFile]

def ofCatalog : List ValueOption := [.rulesDirectory, .language, .targetDirectory]

def ofRegistrars : List ValueOption :=
  [.packageName, .repositoryKey, .compatibleLanguage, .profileName, .repositoryName]

def allowed : Scope → List ValueOption
  | none => ofLog
  | some .registrars => ofLog ++ ofCatalog ++ ofRegistrars
  | some .ruleData => ofLog ++ ofCatalog

def ofName? (scope : Scope) (name : String) : Option ValueOption :=
  (allowed scope).find? (·.name == name)

end ValueOption

namespace Switch

def name : Switch → String
  | .verbose => "verbose"
  | .quiet => "quiet"
  | .dryRun => "dry-run"
  | .help => "help"
  | .version => "version"

def letter? : Switch → Option Char
  | .verbose => some 'v'
  | .quiet => some 'q'
  | .dryRun => none
  | .help => some 'h'
  | .version => some 'V'

def allowed : Scope → List Switch
  | none => [.verbose, .quiet, .help, .version]
  | some _ => [.verbose, .quiet, .help, .dryRun]

def ofName? (scope : Scope) (name : String) : Option Switch :=
  (allowed scope).find? (·.name == name)

def ofLetter? (scope : Scope) (letter : Char) : Option Switch :=
  (allowed scope).find? (·.letter? == some letter)

end Switch

/-! ## What cannot be read -/

inductive UsageError where
  | unknownOption (word : String)
  | missingValue (option : ValueOption)
  | unexpectedValue (switch : Switch)
  | invalidValue (option : ValueOption) (text : String)
  | repeatedOption (name : String)
  | unexpectedWord (word : String)
  | missingCommand
  | unknownCommand (word : String)
  | missingOption (option : ValueOption)
  /-- More and less verbosity asked for in one place. -/
  | verboseAndQuiet
deriving DecidableEq, Repr, Inhabited

namespace UsageError

def message : UsageError → String
  | .unknownOption word => "unknown option " ++ word
  | .missingValue option => "option --" ++ option.name ++ " needs a value"
  | .unexpectedValue switch => "option --" ++ switch.name ++ " takes no value"
  | .invalidValue option text => "option --" ++ option.name ++ " cannot be " ++ text
  | .repeatedOption name => "option --" ++ name ++ " is given twice"
  | .unexpectedWord word => "unexpected argument " ++ word
  | .missingCommand => "a command is missing"
  | .unknownCommand word => "unknown command " ++ word
  | .missingOption option => "option --" ++ option.name ++ " is missing"
  | .verboseAndQuiet => "options --verbose and --quiet exclude each other"

end UsageError

/-- What ends the reading of a command line before its end. -/
inductive Stop where
  | usage (error : UsageError)
  | help
  | version
deriving DecidableEq, Repr, Inhabited

/-! ## What is given -/

structure Given where
  verbose : Nat := 0
  quiet : Nat := 0
  dryRun : Bool := false
  color : Option ColorChoice := none
  logLevel : Option Log.Verbosity := none
  logFormat : Option Log.Format := none
  logFile : Option Path := none
  rulesDirectory : Option Path := none
  languages : List String := []
  targetDirectory : Option Path := none
  packageName : Option String := none
  repositoryKey : Option String := none
  compatibleLanguage : Option String := none
  profileName : Option String := none
  repositoryName : Option String := none
deriving DecidableEq, Repr, Inhabited

namespace Given

def countLimit : Nat := 255

def once {α : Type} (option : ValueOption) (text : String) (held value : Option α) :
    Except Stop (Option α) :=
  match held, value with
  -- That it is repeated is told first, even of a value that could not be read.
  | some _, _ => .error (.usage (.repeatedOption option.name))
  | none, none => .error (.usage (.invalidValue option text))
  | none, some value => .ok (some value)

/-- A path, which may not be empty. -/
def path? (text : String) : Option Path := if text = "" then none else some (.ofText text)

def level? (text : String) : Option Log.Verbosity :=
  (Log.Verbosity.ofName? text).filter (· ≠ .off)

def take (given : Given) (option : ValueOption) (text : String) : Except Stop Given :=
  match option with
  | .color => do
    return { given with color := ← once option text given.color (ColorChoice.ofName? text) }
  | .logLevel => do
    return { given with logLevel := ← once option text given.logLevel (level? text) }
  | .logFormat => do
    return { given with logFormat := ← once option text given.logFormat (Log.Format.ofName? text) }
  | .logFile => do
    return { given with logFile := ← once option text given.logFile (path? text) }
  | .rulesDirectory => do
    return { given with rulesDirectory := ← once option text given.rulesDirectory (path? text) }
  -- The only option that may be repeated; an empty key is a key.
  | .language => .ok { given with languages := given.languages ++ [text] }
  | .targetDirectory => do
    return { given with targetDirectory := ← once option text given.targetDirectory (path? text) }
  | .packageName => do
    return { given with packageName := ← once option text given.packageName (some text) }
  | .repositoryKey => do
    return { given with repositoryKey := ← once option text given.repositoryKey (some text) }
  | .compatibleLanguage => do
    return { given with
      compatibleLanguage := ← once option text given.compatibleLanguage (some text) }
  | .profileName => do
    return { given with profileName := ← once option text given.profileName (some text) }
  | .repositoryName => do
    return { given with repositoryName := ← once option text given.repositoryName (some text) }

def takeSwitch (given : Given) : Switch → Except Stop Given
  | .verbose => .ok { given with verbose := min countLimit (given.verbose + 1) }
  | .quiet => .ok { given with quiet := min countLimit (given.quiet + 1) }
  | .dryRun =>
    if given.dryRun then .error (.usage (.repeatedOption Switch.dryRun.name))
    else .ok { given with dryRun := true }
  | .help => .error .help
  | .version => .error .version

def takeLetters (given : Given) (scope : Scope) : List Char → Except Stop Given
  | [] => .ok given
  | letter :: rest =>
    match Switch.ofLetter? scope letter with
    | none => .error (.usage (.unknownOption (String.ofList ['-', letter])))
    | some switch => do takeLetters (← given.takeSwitch switch) scope rest

end Given

end Rulebook.CommandLine
