import FatVolume.CommandLine.Arguments
import FatVolume.CommandLine.Files
import FatVolume.Error
import FatVolume.Format
import FatVolume.Text

/-!
# Runs of a command

A run reads the files that the invocation names, checks the request, opens or creates the file of
the volume and formats it. A created file stays only if the format succeeds, unless the run breaks
down; one that cannot have its size stays empty.

The answer of a command is everything that can be seen from outside: what it prints, the code it
exits with, and the file it leaves behind.
-/

namespace FatVolume

/-- Why a command fails. -/
inductive Failure where
  /-- The boot message cannot be read. -/
  | messageFile (path : String) (cause : FileError)
  /-- The list of bad blocks cannot be read. -/
  | badBlockFile (path : String) (cause : FileError)
  /-- The options do not go together. -/
  | options (cause : Error)
  /-- A file of unknown size is to be created. -/
  | noSize
  /-- The file cannot be opened. -/
  | opening (cause : FileError)
  /-- The file cannot be created. -/
  | creating (cause : FileError)
  /-- The created file does not take its size. -/
  | resizing (cause : FileError)
  /-- The volume reaches past the end of the device. -/
  | window (cause : TransferError)
  /-- The volume is not made. -/
  | format (cause : Error)
  deriving DecidableEq

namespace Failure

/-- What failed, in words. -/
def headline : Failure → String
  | messageFile path _ => "failed to read boot message from " ++ path
  | badBlockFile path _ => "failed to read bad block list " ++ path
  | options _ => "invalid options"
  | noSize => "size of the image to create was not given"
  | opening _ => "failed to open file"
  | creating _ => "failed to create file"
  | resizing _ => "failed to resize file"
  | window _ => "file system does not fit on the device"
  | format _ => "failed to create file system"

/-- What caused the failure, in words, the nearest cause first. -/
def causes : Failure → List String
  | messageFile _ cause => [cause.message]
  | badBlockFile _ cause => [cause.message]
  | options cause => cause.chain
  | noSize => []
  | opening cause => [cause.message]
  | creating cause => [cause.message]
  | resizing cause => [cause.message]
  | window cause => [cause.message]
  | format cause => cause.chain

/-- The report of the failure. -/
def text (f : Failure) : String := Text.failure f.headline f.causes

end Failure

/-- How a run ended. -/
structure Run where
  /-- The remarks that were made. -/
  warnings : List Warning
  /-- The report, or why there is none. -/
  result : Guarded Failure Report
  /-- The contents of the file of the volume, if the run created it or worked on it. -/
  target : Option Medium

namespace Invocation

/-- Bytes of a sector unless the request says otherwise. -/
def defaultSectorSize : UInt32 := 512

/-- Bytes of a sector. -/
def sectorSize (i : Invocation) : UInt32 := i.request.sectorSize.getD defaultSectorSize

/-- The boot message. -/
def message (i : Invocation) (files : Files) : Guarded Failure (Option (List UInt8)) :=
  match i.messageFile with
  | none => pure none
  | some path =>
    match files.contents path with
    | .ok contents => pure (some contents.bytes.toList)
    | .error cause => refuse (.messageFile path cause)

/-- The list of bad blocks. -/
def badBlocks (i : Invocation) (files : Files) : Guarded Failure (Option String) :=
  match i.badBlockFile with
  | none => pure none
  | some path =>
    match files.contents path with
    | .error cause => refuse (.badBlockFile path cause)
    | .ok contents =>
      match String.fromUTF8? contents.bytes with
      | some text => pure (some text)
      | none => refuse (.badBlockFile path .notText)

/-- The request with what stands in files. -/
def wholeRequest (i : Invocation) (files : Files) : Guarded Failure Request := do
  let message ← i.message files
  let badBlocks ← i.badBlocks files
  pure { i.request with message, badBlocks }

/-- Bytes of the volume, if its size is given. -/
def volumeBytes (i : Invocation) : Checked (Option Nat) :=
  match i.blocks with
  | none => pure none
  | some blocks => some <$> within 64 (blocks * blockBytes)

/-- Bytes up to the end of the volume, if its size is given. -/
def imageBytes (i : Invocation) : Checked (Option Nat) := do
  match ← i.volumeBytes with
  | none => pure none
  | some bytes =>
    let start ← within 64 (i.offset * i.sectorSize.toNat)
    some <$> within 64 (start + bytes)

/-- The contents of the file of the volume before the format. A file that is created is zero. -/
def opened (i : Invocation) (files : Files) : Guarded Failure Medium := do
  let bytes ← i.imageBytes
  if i.create then
    match bytes with
    | none => refuse .noSize
    | some bytes => do
      (orRefuse (files.creatable i.file)).widen .creating
      pure (Medium.filled bytes 0)
  else
    (orRefuse (files.contents i.file)).widen .opening

/-- Everything that comes before the format: the checked request and the file of the volume. -/
def prepare (i : Invocation) (files : Files) : Attempt Failure (Request × Medium) := do
  let request ← i.wholeRequest files
  request.validate.widen .options
  let target ← i.opened files
  pure (request, target)

/-- The part of a disk that the volume goes to. -/
def window (i : Invocation) (d : Device) : Guarded Failure Device := do
  match ← i.volumeBytes with
  | none => (orRefuse (d.windowFrom? i.offset)).widen .window
  | some bytes => do
    let count ← quotient bytes i.sectorSize.toNat
    (orRefuse (d.window? i.offset count)).widen .window

/-- The disk in a file. -/
def disk (i : Invocation) (target : Medium) : Attempt Failure Device := do
  let store := Store.sound target i.sectorSize.toNat
  let disk ← (RawDisk.probe store i.sectorSize (i.request.mediaType.getD .hard) :
    Guarded Failure RawDisk)
  Attempt.warn (RawDisk.probeWarnings store i.sectorSize)
  i.window (.raw disk)

/-- Make a volume in a file: the report and the contents of the file afterwards. -/
def fill (i : Invocation) (request : Request) (target : Medium) (now : Clock) :
    Attempt Failure Report × Medium :=
  let opened := i.disk target
  match opened.outcome with
  | .error stop => (⟨opened.warnings, .error stop⟩, target)
  | .ok d =>
    let (result, d) := format d request now
    (⟨opened.warnings ++ result.warnings, (result.widen .format).outcome⟩, d.medium)

/-- Run an invocation at a moment. -/
def run (i : Invocation) (files : Files) (now : Clock) : Run :=
  let prepared := i.prepare files
  match prepared.outcome with
  | .error stop => ⟨prepared.warnings, .error stop, none⟩
  | .ok (request, target) =>
    match if i.create then checkFileSize target.size else .ok () with
    | .error cause =>
      ⟨prepared.warnings, refuse (.resizing cause), some (Medium.filled 0 0)⟩
    | .ok () =>
      let (result, after) := i.fill request target now
      let discarded := i.create ∧ result.outcome matches .error (.refused _)
      ⟨prepared.warnings ++ result.warnings, result.outcome, if discarded then none else some after⟩

end Invocation

/-- What a command does to the world around it. -/
structure Answer where
  /-- 0 after success, 1 after a failure, 2 if the arguments make no command, 101 after a
  breakdown. -/
  exitCode : UInt32
  /-- The result. -/
  output : String
  /-- Why there is no result. -/
  complaint : String
  /-- The warnings, if they are to be shown. -/
  remarks : List String
  /-- The path and the new contents of the file that was worked on. -/
  target : Option (String × Medium)

namespace Answer

/-- The answer of a text that was asked for. -/
def shown (text : String) : Answer := ⟨0, text ++ "\n", "", [], none⟩

/-- The answer to arguments that make no command. -/
def misused (reason : ArgumentError) : Answer :=
  ⟨2, "", "error: " ++ reason.message ++ "\n\n" ++ Key.usage ++ "\n", [], none⟩

/-- The answer of a run. -/
def ofRun (i : Invocation) (r : Run) : Answer :=
  let remarks := if i.verbosity = 0 then [] else r.warnings.map Warning.message
  let target := r.target.map fun contents => (i.file, contents)
  match r.result with
  | .ok report => ⟨0, report.text ++ "\n", "", remarks, target⟩
  | .error (.refused failure) => ⟨1, "", failure.text ++ "\n", remarks, target⟩
  | .error (.fault cause) => ⟨101, "", cause.message ++ "\n", remarks, target⟩

end Answer

namespace Command

/-- The files that a command names. -/
def paths : Command → List String
  | help => []
  | format i => i.file :: (i.messageFile.toList ++ i.badBlockFile.toList)

/-- The answer to a command among files at a moment. -/
def answer (files : Files) (now : Clock) : Command → Answer
  | help => .shown Key.usage
  | format i => .ofRun i (i.run files now)

end Command

/-- The answer to arguments among files at a moment. -/
def answerTo (files : Files) (now : Clock) (arguments : List String) : Answer :=
  match Command.ofArguments arguments with
  | .error reason => .misused reason
  | .ok command => command.answer files now

end FatVolume
