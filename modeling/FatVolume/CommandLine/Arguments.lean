import FatVolume.CommandLine.Options
import FatVolume.Format

/-!
# Arguments and invocations

The arguments of a command are read from the left into items: options that stand alone, options
with their values, and operands. A value follows its option in the next argument or in the same
one; several options may share one dash. Behind two dashes alone everything is an operand.

An invocation is what the arguments of a command ask for, with all values read. What stands in
files is not part of it, only the paths of the files.
-/

namespace FatVolume

/-- Why the arguments make no command. -/
inductive ArgumentError where
  /-- There is no such option. -/
  | unknown (text : String)
  /-- An option that stands alone was given a value. -/
  | unexpectedValue (key : Key)
  /-- An option lacks its value. -/
  | missingValue (key : Key)
  /-- An option was given more than once. -/
  | repeated (key : Key)
  /-- A text is no value of its option. -/
  | badValue (key : Key) (reason : ValueError)
  /-- The size is no number. -/
  | badBlocks (reason : ValueError)
  /-- There are too many operands. -/
  | extraOperand
  /-- No file is named. -/
  | noFile
  deriving DecidableEq

/-- The reason in words. -/
def ArgumentError.message : ArgumentError → String
  | unknown text => "there is no option " ++ text
  | unexpectedValue key => "--" ++ key.spelling.name ++ " takes no value"
  | missingValue key => "--" ++ key.spelling.name ++ " needs a value"
  | repeated key => "--" ++ key.spelling.name ++ " was given more than once"
  | badValue key reason => "--" ++ key.spelling.name ++ ": " ++ reason.message
  | badBlocks reason => "blocks: " ++ reason.message
  | extraOperand => "only a file and a size can be named"
  | noFile => "no file is named"

/-- A piece of a command. -/
inductive Item where
  /-- An option that stands alone. -/
  | switch (key : Key)
  /-- An option with its value. -/
  | setting (key : Key) (value : String)
  /-- An option that lacks its value. -/
  | bare (key : Key)
  /-- What is no option. -/
  | operand (text : String)
  deriving DecidableEq

/-- The option of an item. -/
def Item.key? : Item → Option Key
  | switch key => some key
  | setting key _ => some key
  | bare key => some key
  | operand _ => none

/-- The text of an operand. -/
def Item.operand? : Item → Option String
  | operand text => some text
  | _ => none

namespace Arguments

/-- What an argument is, by the dashes that it starts with. -/
inductive Form where
  /-- No option. A dash alone is none either. -/
  | operand
  /-- Two dashes alone, the end of the options. -/
  | terminator
  /-- An option by its name, with a value if an equals sign follows. -/
  | long (name : String) (value : Option String)
  /-- Options by their letters. -/
  | letters (letters : List Char)

/-- The form of an argument. -/
def form (argument : String) : Form :=
  match argument.toList with
  | ['-'] => .operand
  | ['-', '-'] => .terminator
  | '-' :: '-' :: text =>
    let name := String.ofList (text.takeWhile (· ≠ '='))
    match text.dropWhile (· ≠ '=') with
    | [] => .long name none
    | _ :: value => .long name (some (String.ofList value))
  | '-' :: letters => .letters letters
  | _ => .operand

/-- What an argument gives. -/
structure Reading where
  /-- The items that are complete. -/
  items : List Item
  /-- The option that the next argument is a value of. -/
  waiting : Option Key

/-- Read an option by its name. -/
def readLong (name : String) (value : Option String) : Except ArgumentError Reading :=
  match Key.ofName? name with
  | none => .error (.unknown ("--" ++ name))
  | some key =>
    match key.takesValue, value with
    | true, some value => .ok ⟨[.setting key value], none⟩
    | true, none => .ok ⟨[], some key⟩
    | false, some _ => .error (.unexpectedValue key)
    | false, none => .ok ⟨[.switch key], none⟩

/-- Read options by their letters. What follows the letter of an option that takes a value is the
value; an equals sign between them is dropped. Nothing is read behind a call for help. -/
def readLetters : List Char → Except ArgumentError Reading
  | [] => .ok ⟨[], none⟩
  | letter :: rest =>
    match Key.ofLetter? letter with
    | none => .error (.unknown ("-" ++ letter.toString))
    | some key =>
      if key = .help then .ok ⟨[.switch key], none⟩
      else if key.takesValue then
        match rest with
        | [] => .ok ⟨[], some key⟩
        | '=' :: value => .ok ⟨[.setting key (String.ofList value)], none⟩
        | value => .ok ⟨[.setting key (String.ofList value)], none⟩
      else do
        let further ← readLetters rest
        .ok { further with items := .switch key :: further.items }

/-- An option that waited for a value and got none. -/
def unanswered : Option Key → List Item
  | none => []
  | some key => [.bare key]

/-- Read arguments while an option may wait for its value. A call for help ends the reading. -/
def readFrom (waiting : Option Key) : List String → Except ArgumentError (List Item)
  | [] => .ok (unanswered waiting)
  | argument :: rest =>
    match form argument, waiting with
    | .operand, some key => do return .setting key argument :: (← readFrom none rest)
    | .operand, none => do return .operand argument :: (← readFrom none rest)
    | .terminator, _ => .ok (unanswered waiting ++ rest.map .operand)
    | .long name value, _ => do
      let reading ← readLong name value
      if reading.items = [.switch .help] then return reading.items
      return unanswered waiting ++ reading.items ++ (← readFrom reading.waiting rest)
    | .letters letters, _ => do
      let reading ← readLetters letters
      if .switch .help ∈ reading.items then return reading.items
      return unanswered waiting ++ reading.items ++ (← readFrom reading.waiting rest)

/-- The items of all arguments. -/
def read (arguments : List String) : Except ArgumentError (List Item) := readFrom none arguments

/-- Behind two dashes nothing is an option. -/
theorem read_terminator (operands : List String) :
    read ("--" :: operands) = .ok (operands.map .operand) := by
  simp [read, readFrom, form, unanswered]

end Arguments

/-- What a command is to do. -/
structure Invocation where
  /-- The request, without what stands in files. -/
  request : Request
  /-- The file that holds the boot message. -/
  messageFile : Option String
  /-- The file that lists bad blocks. -/
  badBlockFile : Option String
  /-- The first sector of the volume. -/
  offset : Nat
  /-- Whether the file is to be created. -/
  create : Bool
  /-- How much is shown besides the result. -/
  verbosity : Nat
  /-- The file that the volume goes to. -/
  file : String
  /-- The size of the volume in blocks of 1024 bytes. -/
  blocks : Option Nat
  deriving DecidableEq

/-- What the arguments of a command amount to. -/
inductive Command where
  /-- Show how the command is used. -/
  | help
  /-- Make a volume. -/
  | format (invocation : Invocation)
  deriving DecidableEq

namespace Invocation

variable {α : Type}

/-- The items of an option. -/
def itemsOf (items : List Item) (key : Key) : List Item := items.filter (·.key? = some key)

/-- Whether an option that stands alone is given. It may be given once. -/
def switch (items : List Item) (key : Key) : Except ArgumentError Bool :=
  match itemsOf items key with
  | [] => .ok false
  | [_] => .ok true
  | _ => .error (.repeated key)

/-- The text behind an option that takes a value, if it is given. It may be given once. -/
def text? (items : List Item) (key : Key) : Except ArgumentError (Option String) :=
  match itemsOf items key with
  | [] => .ok none
  | [.setting _ text] => .ok (some text)
  | [_] => .error (.missingValue key)
  | _ => .error (.repeated key)

/-- The value of an option, if it is given. -/
def value? (items : List Item) (key : Key) (read : String → Except ValueError α) :
    Except ArgumentError (Option α) := do
  match ← text? items key with
  | none => pure none
  | some text => some <$> (read text).mapError (.badValue key)

/-- The file and the size among the operands. -/
def operands (items : List Item) : Except ArgumentError (String × Option Nat) :=
  match items.filterMap Item.operand? with
  | [] => .error .noFile
  | [file] => .ok (file, none)
  | file :: size :: _ => do
    let blocks ← (Value.decimal 64 size).mapError .badBlocks
    pure (file, some blocks)

/-- The invocation of items. -/
def ofItems (items : List Item) : Except ArgumentError Invocation := do
  let request : Request := {
    width := ← value? items .width Value.width
    sectorSize := ← value? items .sectorSize Value.word32
    clusterSectors := ← value? items .clusterSectors Value.word32
    reservedSectors := ← value? items .reservedSectors Value.word32
    rootEntries := ← value? items .rootEntries Value.word32
    tableCount := (← value? items .tableCount Value.word8).getD 2
    align := ¬ (← switch items .unaligned)
    label := (← text? items .label).getD ""
    volumeId := ← value? items .volumeId Value.volumeId
    driveNumber := ← value? items .driveNumber Value.byte
    media := ← value? items .media Value.byte
    hiddenSectors := (← value? items .hiddenSectors Value.word32).getD 0
    mediaType := some ((← value? items .mediaType Value.mediaType).getD .hard)
    tracks := ← value? items .tracks Value.tracks
    backupSector := ← value? items .backup Value.word32
    scan := ← switch items .scan
    partitionTable := ← switch items .partitionTable }
  let (file, blocks) ← operands items
  pure {
    request
    messageFile := ← text? items .message
    badBlockFile := ← text? items .badBlocks
    offset := (← value? items .offset (Value.decimal 64)).getD 0
    create := ← switch items .create
    verbosity := (itemsOf items .verbose).length
    file
    blocks }

end Invocation

namespace Command

/-- The command of items. A third operand is refused even if help is called for. -/
def ofItems (items : List Item) : Except ArgumentError Command :=
  if 2 < (items.filterMap Item.operand?).length then .error .extraOperand
  else if .switch .help ∈ items then .ok .help
  else .format <$> Invocation.ofItems items

/-- The command of arguments. -/
def ofArguments (arguments : List String) : Except ArgumentError Command :=
  Arguments.read arguments >>= ofItems

end Command

end FatVolume
