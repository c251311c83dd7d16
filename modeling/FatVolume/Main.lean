import Std.Time.Zoned
import FatVolume.Calendar
import FatVolume.CommandLine.Run

/-!
# The command

The command looks at the files that its arguments name, works out its answer and carries it out.
Of the file of the volume only the size matters beforehand, so its bytes are not read; afterwards
only the stretches that were written are stored.
-/

namespace FatVolume.Main

/-- The number of a system error, which is given with either sign. -/
def errorNumber (code : UInt32) : Nat := min code.toNat (0 - code).toNat

/-- The reason for which the system refused to work on a file. -/
def fileError (error : IO.Error) : FileError :=
  let known := match error with
    | .noFileOrDirectory _ code _ => FileError.ofNumber? (errorNumber code)
    | .alreadyExists _ code _ => FileError.ofNumber? (errorNumber code)
    | .inappropriateType _ code _ => FileError.ofNumber? (errorNumber code)
    | .invalidArgument _ code _ => FileError.ofNumber? (errorNumber code)
    | _ => none
  known.getD (.other (toString error))

/-- Run an action on a file. -/
def attempt {α : Type} (action : IO α) : IO (Except FileError α) := do
  match ← action.toBaseIO with
  | .ok a => return .ok a
  | .error error => return .error (fileError error)

/-- What the system tells of a path. -/
def metadata (path : String) : IO (Except FileError IO.FS.Metadata) := do
  if path.isEmpty then return .error .notFound
  let here ← IO.currentDir
  attempt (here / path).metadata

/-- The contents of a file: its bytes if it is read, zeros of its size if it is the target. -/
def contents (isTarget : Bool) (path : String) : IO (Except FileError Medium) := do
  match ← metadata path with
  | .error error => return .error error
  | .ok data =>
    if data.type matches .dir then return .error .isDirectory
    else if isTarget then return .ok (Medium.filled data.byteSize.toNat 0)
    else return (← attempt (IO.FS.readBinFile path)).map Medium.ofBytes

/-- Whether a file can be made at a path: it is made and taken away again. -/
def creatable (path : String) : IO (Except FileError Unit) := do
  if path.isEmpty then return .error .notFound
  attempt do
    let _ ← IO.FS.Handle.mk path .writeNew
    IO.FS.removeFile path

/-- What the files that a command names are like. -/
def survey (command : Command) : IO Files := do
  match command with
  | .help => return ⟨fun _ => .error .notFound, fun _ => .error .notFound⟩
  | .format i =>
    let read := i.messageFile.toList ++ i.badBlockFile.toList
    let table ← command.paths.mapM fun path => do
      let found ← contents (path ∉ read) path
      return (path, found)
    let target ← if i.create then creatable i.file else pure (.error .alreadyExists)
    return ⟨fun path => (table.lookup path).getD (.error .notFound), fun _ => target⟩

/-- The seconds by which the time of the place is ahead of universal time. Where nothing is known of
the place, universal time is kept. -/
def secondsAhead (time : Std.Time.Timestamp) : IO Int := do
  try
    let rules ← Std.Time.Database.defaultGetLocalZoneRules
    return (rules.findLocalTimeTypeForTimestamp time).getTimeZone.offset.second.val
  catch _ => return 0

/-- The clock at which the command runs. -/
def now : IO Clock := do
  let time ← Std.Time.Timestamp.now
  let count := time.toNanosecondsSinceUnixEpoch.val
  let seconds := count / 10 ^ 9
  let moment (seconds : Int) :=
    (Moment.ofUnix? seconds (count % 10 ^ 9 / 1000).toNat).getD Moment.epoch
  return ⟨moment (seconds + (← secondsAhead time)), moment seconds⟩

/-- Bytes that are moved at once. -/
def pieceBytes : Nat := 65536

/-- Fill a file with zeros up to a size. -/
def extend (file : IO.FS.Handle) (size : Nat) : IO Unit := do
  for _ in [0:size / pieceBytes] do
    file.write (Buffer.zeros pieceBytes)
  file.write (Buffer.zeros (size % pieceBytes))

/-- Skip bytes of a file. -/
def skip (file : IO.FS.Handle) (count : Nat) : IO Unit := do
  for _ in [0:count / pieceBytes] do
    let _ ← file.read (USize.ofNat pieceBytes)
  if count % pieceBytes ≠ 0 then
    let _ ← file.read (USize.ofNat (count % pieceBytes))

/-- Store what was written to a medium in a file, the first write first. -/
def store (path : String) (medium : Medium) : IO Unit := do
  for patch in medium.patches.reverse do
    let file ← IO.FS.Handle.mk path .readWrite
    skip file patch.position
    file.write patch.data
    file.flush

/-- Leave the file of the volume as the answer says. -/
def leave (create : Bool) (path : String) (medium : Medium) : IO Unit := do
  if create then
    let file ← IO.FS.Handle.mk path .writeNew
    extend file medium.size
    file.flush
  store path medium

/-- Carry out an answer. -/
def carryOut (create : Bool) (answer : Answer) : IO UInt32 := do
  match answer.target with
  | none => pure ()
  | some (path, medium) => leave create path medium
  for remark in answer.remarks do
    IO.eprintln remark
  IO.eprint answer.complaint
  IO.print answer.output
  return answer.exitCode

end FatVolume.Main

open FatVolume in
/-- Make a volume as the arguments say. -/
def main (arguments : List String) : IO UInt32 := do
  match Command.ofArguments arguments with
  | .error reason => Main.carryOut false (.misused reason)
  | .ok .help => Main.carryOut false (.shown Key.usage)
  | .ok (.format i) =>
    let files ← Main.survey (.format i)
    let clock ← Main.now
    Main.carryOut i.create (.ofRun i (i.run files clock))
