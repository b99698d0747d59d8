/-!
Why an operation on files fails, with the text that the operating system has for it.
-/

namespace Rulebook

inductive IoError where
  | notFound
  | alreadyExists
  | notADirectory
  | isADirectory
  | nameTooLong
  /-- A name with a NUL byte, which never reaches the operating system. -/
  | nulInName
  /-- Contents that should be a text and are none. -/
  | brokenText
  /-- Any other cause, by its text. -/
  | other (text : String)
deriving DecidableEq, Repr, Inhabited

namespace IoError

def message : IoError → String
  | .notFound => "No such file or directory (os error 2)"
  | .alreadyExists => "File exists (os error 17)"
  | .notADirectory => "Not a directory (os error 20)"
  | .isADirectory => "Is a directory (os error 21)"
  | .nameTooLong => "File name too long (os error 36)"
  | .nulInName => "file name contained an unexpected NUL byte"
  | .brokenText => "stream did not contain valid UTF-8"
  | .other text => text

end IoError

end Rulebook
