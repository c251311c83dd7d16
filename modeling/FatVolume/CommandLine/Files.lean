import FatVolume.Device.Medium
import FatVolume.Text

/-!
# Files and directories

What a command learns about files: their contents, whether a new one can be made, and which sizes a
file can have.

A directory that is held in memory is what a command sees that works in it. A path is walked name by
name, from the directory itself or from the root; every name but the last one has to be that of a
directory. What a path leads to decides which contents are read and where a file can be made.
-/

namespace FatVolume

/-- Why nothing can be done with a file. -/
inductive FileError where
  /-- There is no such file, or no directory that it could be in. -/
  | notFound
  /-- There is such a file already. -/
  | alreadyExists
  /-- A directory on the path is none. -/
  | notDirectory
  /-- A directory stands where a file is meant. -/
  | isDirectory
  /-- A name or the whole path is too long. -/
  | nameTooLong
  /-- The file holds something other than text. -/
  | notText
  /-- No word holds the size. -/
  | sizeOutOfRange
  /-- The size is beyond that of the largest file. -/
  | tooLarge
  /-- A reason that is known by its words only. -/
  | other (text : String)
  deriving DecidableEq

/-- The reason in words. -/
def FileError.message : FileError → String
  | notFound => "No such file or directory (os error 2)"
  | alreadyExists => "File exists (os error 17)"
  | notDirectory => "Not a directory (os error 20)"
  | isDirectory => "Is a directory (os error 21)"
  | nameTooLong => "File name too long (os error 36)"
  | notText => "stream did not contain valid UTF-8"
  | sizeOutOfRange => "number too large to fit in target type"
  | tooLarge => "File too large (os error 27)"
  | other text => text

/-- The reason behind the number of a system error. -/
def FileError.ofNumber? : Nat → Option FileError
  | 2 => some notFound
  | 17 => some alreadyExists
  | 20 => some notDirectory
  | 21 => some isDirectory
  | 27 => some tooLarge
  | 36 => some nameTooLong
  | _ => none

/-- Bytes of the largest file: a 32-bit word counts its blocks of 4 KiB. -/
def largestFile : Nat := 4294967295 * 4096

/-- Whether a file can have so many bytes. A size is a signed 64-bit word. -/
def checkFileSize (bytes : Nat) : Except FileError Unit :=
  if 2 ^ 63 ≤ bytes then .error .sizeOutOfRange
  else if largestFile < bytes then .error .tooLarge
  else .ok ()

/-- What a command sees of the files around it. -/
structure Files where
  /-- The contents of the file at a path. -/
  contents : String → Except FileError Medium
  /-- Whether a new file can be made at a path. -/
  creatable : String → Except FileError Unit

/-- Where a walk along a path has come to. -/
inductive Place where
  /-- The directory in which the command works. -/
  | here
  /-- A directory around it. Nothing else is known to be in there. -/
  | above
  /-- The directory that these names lead to from the root. -/
  | absolute (names : List String)
  deriving DecidableEq

/-- The directory around a place. The root is its own. -/
def Place.parent : Place → Place
  | here => above
  | above => above
  | absolute names => absolute names.dropLast

/-- What a name stands for. -/
inductive Entry where
  /-- A file. -/
  | file (contents : Medium)
  /-- A directory. -/
  | directory (place : Place)

/-- What a path leads to. -/
inductive Destination where
  /-- A directory, by dots or as the root. -/
  | directory
  /-- A name in a place, and whether slashes follow it. -/
  | named (place : Place) (name : String) (slashed : Bool)
  deriving DecidableEq

/-- The directories below the root of every system. -/
def systemDirectories : List String :=
  ["bin", "boot", "dev", "etc", "home", "lib", "media", "mnt", "opt", "proc", "root", "run", "sbin",
    "srv", "sys", "tmp", "usr", "var"]

/-- What names lead to from the root. The null device is a file that stays empty. -/
def systemEntry? : List String → Option Entry
  | [name] => if name ∈ systemDirectories then some (.directory (.absolute [name])) else none
  | ["dev", "null"] => some (.file (Medium.filled 0 0))
  | _ => none

/-- A directory of files without further directories in it. -/
structure Directory where
  /-- The files with their names. -/
  files : List (String × Medium)

namespace Directory

/-- The file of a name. -/
def file? (d : Directory) (name : String) : Option Medium := d.files.lookup name

/-- The directory with a file stored under a name. -/
def put (d : Directory) (name : String) (contents : Medium) : Directory :=
  ⟨(name, contents) :: d.files.filter (·.1 ≠ name)⟩

/-- A file that was stored is found. -/
@[simp] theorem file?_put (d : Directory) (name : String) (contents : Medium) :
    (d.put name contents).file? name = some contents := by simp [file?, put]

/-- The most bytes of a name. -/
def maxName : Nat := 255

/-- The most bytes of a path. -/
def maxPath : Nat := 4095

/-- What a name stands for in a place. -/
def entry? (d : Directory) (place : Place) (name : String) : Option Entry :=
  match place with
  | .here => (d.file? name).map .file
  | .above => none
  | .absolute names => systemEntry? (names ++ [name])

/-- Look a name up in a place. -/
def entry (d : Directory) (place : Place) (name : String) : Except FileError Entry :=
  if maxName < name.utf8ByteSize then .error .nameTooLong
  else match d.entry? place name with
    | some e => .ok e
    | none => .error .notFound

/-- Walk from a place along the names of a path. -/
def walk (d : Directory) (slashed : Bool) (place : Place) :
    List String → Except FileError Destination
  | [] => .ok .directory
  | name :: rest =>
    if name = "." then d.walk slashed place rest
    else if name = ".." then d.walk slashed place.parent rest
    else if rest = [] then .ok (.named place name slashed)
    else match d.entry place name with
      | .ok (.directory inner) => d.walk slashed inner rest
      | .ok (.file _) => .error .notDirectory
      | .error cause => .error cause

/-- What a path leads to. Slashes separate the names, however many there are. -/
def destination (d : Directory) (path : String) : Except FileError Destination :=
  if path = "" then .error .notFound
  else if maxPath < path.utf8ByteSize then .error .nameTooLong
  else
    let pieces := Text.pieces '/' path.toList
    let names := (pieces.filter (· ≠ [])).map String.ofList
    let start := if pieces.head? = some [] then Place.absolute [] else .here
    d.walk (pieces.getLast? = some []) start names

/-- The contents of the file at a path. -/
def contents (d : Directory) (path : String) : Except FileError Medium := do
  match ← d.destination path with
  | .directory => throw .isDirectory
  | .named place name slashed =>
    match ← d.entry place name with
    | .directory _ => throw .isDirectory
    | .file contents => if slashed then throw .notDirectory else pure contents

/-- Whether a new file can be made at a path. A slash at the end would make it a directory. -/
def creatable (d : Directory) (path : String) : Except FileError Unit := do
  match ← d.destination path with
  | .directory => throw .alreadyExists
  | .named place name slashed =>
    if slashed then throw .isDirectory
    match d.entry place name with
    | .ok _ => throw .alreadyExists
    | .error .notFound => pure ()
    | .error cause => throw cause

/-- What a command sees of the directory. -/
def view (d : Directory) : Files := ⟨d.contents, d.creatable⟩

/-- The directory after a file was stored at a path. Files elsewhere are not kept. -/
def store (d : Directory) (path : String) (contents : Medium) : Directory :=
  match d.destination path with
  | .ok (.named .here name false) => d.put name contents
  | _ => d

end Directory

end FatVolume
