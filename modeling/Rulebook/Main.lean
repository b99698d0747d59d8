import Rulebook.CommandLine.Program

/-!
The program on a real machine: its files, its streams, its environment.
-/

namespace Rulebook.RealMachine

/-- A cause by the code of the operating system, which may come with a minus sign. -/
def causeOfCode (signed : UInt32) (text : String) : IoError :=
  let code := if signed < 0x80000000 then signed else 0 - signed
  if code = 2 then .notFound
  else if code = 17 then .alreadyExists
  else if code = 20 then .notADirectory
  else if code = 21 then .isADirectory
  else if code = 36 then .nameTooLong
  else .other text

def causeOf (e : IO.Error) : IoError :=
  match e with
  | .noFileOrDirectory _ code _ => causeOfCode code (toString e)
  | .alreadyExists _ code _ => causeOfCode code (toString e)
  | .inappropriateType _ code _ => causeOfCode code (toString e)
  | .invalidArgument _ code _ => causeOfCode code (toString e)
  | .resourceExhausted _ code _ => causeOfCode code (toString e)
  | .otherError code _ => causeOfCode code (toString e)
  | _ => .other (toString e)

def withText {α : Type} (p : Path) (act : String → IO α) : IO (Except IoError α) := do
  if p.bytes.contains 0 then return .error .nulInName
  match Text.Utf8.decode? p.bytes with
  | none => return .error .notFound
  | some text =>
    try return .ok (← act text)
    catch e => return .error (causeOf e)

def entryAt (text : String) : IO.FS.DirEntry := { root := text, fileName := "" }

def isDirectory (p : Path) : IO Bool := do
  match ← withText p fun text => (entryAt text).root.isDir with
  | .ok answer => return answer
  | .error _ => return false

def isFile (p : Path) : IO Bool := do
  match ← withText p fun text => (entryAt text).root.pathExists with
  | .ok true => return !(← isDirectory p)
  | _ => return false

def namesIn (text : String) : IO (List (List UInt8)) := do
  return (← (entryAt text).root.readDir).toList.map fun entry => Text.Utf8.encode entry.fileName

def bytesOf (contents : List UInt8) : ByteArray := ⟨contents.toArray⟩

def append (contents : List UInt8) (text : String) : IO Unit := do
  let handle ← IO.FS.Handle.mk text .append
  handle.write (bytesOf contents)

def host : Host IO where
  isDirectory := isDirectory
  isFile := isFile
  list p := withText p namesIn
  read p := withText p fun text => return (← IO.FS.readBinFile text).toList
  makeDirectory p := withText p fun text => IO.FS.createDir text
  write p contents := withText p fun text => IO.FS.writeBinFile text (bytesOf contents)
  append p contents := withText p (append contents)

def console : CommandLine.Console IO where
  host := host
  out text := do (← IO.getStdout).putStr text
  err text := do (← IO.getStderr).putStr text

def filterVariable : String := "RUST_LOG"

end Rulebook.RealMachine

def main (words : List String) : IO UInt32 := do
  let environment ← IO.getEnv Rulebook.RealMachine.filterVariable
  let status ← Rulebook.CommandLine.runWords Rulebook.RealMachine.console environment words
  return status.code.toUInt32
