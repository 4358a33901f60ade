import CallHistory.Service.Program
import Std.Time.DateTime.Timestamp

/-! # The command line

The program takes at most one argument, the path of a file of settings. This module reads what the
program needs of the machine and prints what the program says.
-/

namespace CallHistory.CommandLine

/-- The variables of the environment, as the system lists them for a process. -/
def readEnvironment : IO (List (String × String)) := do
  let bytes ← try IO.FS.readBinFile "/proc/self/environ" catch _ => pure ByteArray.empty
  let all := (String.fromUTF8? bytes).getD ""
  return (Text.split '\x00' all.toList).filterMap fun entry =>
    (Text.cut? ['='] entry).map fun (name, value) => (.ofList name, .ofList value)

def settingsFile : List String → IO Settings.File
  | [] => return .unset
  | path :: _ =>
    try
      let bytes ← IO.FS.readBinFile path
      return ((String.fromUTF8? bytes).map fun s => .holding s.toList).getD .missing
    catch _ => return .missing

def randomId : IO Uuid := do
  return (Uuid.ofNat (← IO.rand 0 (Nat.pow 2 128 - 1))).random

def now : IO Instant := do
  let t ← Std.Time.Timestamp.now
  return (Instant.ofNanos? t.toNanosecondsSinceUnixEpoch.val).getD ⟨0, by decide, by decide⟩

def faultOf : IO.Error → DiskError
  | .noFileOrDirectory .. => .notFound
  | .inappropriateType .. => .isFolder
  | _ => .notFolder

/-- Looks whether the file of the store can be opened. -/
def drive (path : String) : IO Drive := do
  try
    let _ ← IO.FS.Handle.mk path .append
    return {}
  catch e => return { fault := some (faultOf e) }

def storePath? (file : Settings.File) (environment : List (String × String)) : Option String :=
  match Settings.load file environment with
  | .ok s => if s.store.kind = .file then some s.store.path else none
  | .error _ => none

def run (arguments : List String) : IO UInt32 := do
  let file ← settingsFile arguments
  let environment ← readEnvironment
  let path? := storePath? file environment
  let drive ← match path? with
    | none => pure {}
    | some path => drive path
  let ids ← (List.range 16).mapM fun _ => randomId
  let clock ← now
  let stamp := (Stamp.ofInstant? clock).getD default
  let supply : Supply := ⟨fun n => ids.getD n default, fun _ => stamp, 0⟩
  let done := Service.program file environment
    ⟨⟨Drive.disk, drive, none, supply⟩, fun n => ids.getD (8 + n) default, fun _ => clock, Address.isOwn⟩
  done.lines.forM IO.println
  if let some path := path? then
    if !done.drive.text.isEmpty then
      let handle ← IO.FS.Handle.mk path .append
      handle.putStr (.ofList done.drive.text)
  if let some line := done.complaint then IO.eprintln line
  return .ofNat done.code

end CallHistory.CommandLine

def main (arguments : List String) : IO UInt32 :=
  CallHistory.CommandLine.run arguments
