import FatVolume.Device.Medium
import FatVolume.Fault

/-!
# Warnings and attempts

A warning is a remark on a job that does not fail because of it. An attempt is a guarded computation
together with the warnings it gave, which are kept however the attempt ends. The outcome of a
sequence of attempts is the sequence of their outcomes (`outcome_bind`), so a fact about values never
has to mention warnings.
-/

namespace FatVolume

/-- A remark on a job. -/
inductive Warning where
  /-- The label has lower case letters. -/
  | lowercaseLabel
  /-- The reserved area was raised to the least size of FAT32. -/
  | reservedRaised
  /-- A store holds a part of a block at its end. -/
  | partialBlock (size blockSize : Nat)
  /-- The boot message is longer than its space. -/
  | messageTruncated (length capacity : Nat)
  /-- The boot message reached into the partition table. -/
  | messageOverlap
  /-- A block cannot be read. -/
  | badBlock (sector : Nat) (cause : TransferError)
  /-- The root directory left its cluster. -/
  | rootMoved (source target : Nat)
  /-- A backup boot sector was requested for a width that has none. -/
  | backupIgnored
  /-- The reserved area has no room for a backup boot sector. -/
  | noRoomForBackup (reserved : Nat)
  /-- A size of the root directory was requested for FAT32. -/
  | rootEntriesIgnored
  deriving DecidableEq

/-- The remark in words. -/
def Warning.message : Warning → String
  | lowercaseLabel => "lowercase labels might not work properly on some systems"
  | reservedRaised => "FAT32 needs at least 2 reserved sectors, using 2"
  | partialBlock size blockSize =>
    s!"device size {size} is not a multiple of block size {blockSize}, " ++
      s!"ignoring last {size % blockSize} bytes"
  | messageTruncated length capacity =>
    s!"boot message is {length} bytes long, truncating to {capacity}"
  | messageOverlap => "boot message overlaps the partition table, truncating"
  | badBlock sector cause => s!"bad block at sector {sector}: {cause.message}"
  | rootMoved source target =>
    s!"root cluster {source} is bad, moving the root directory to cluster {target}"
  | backupIgnored => "backup boot sector is only used on FAT32, ignoring"
  | noRoomForBackup reserved =>
    s!"no room for a backup boot sector in {reserved} reserved sectors"
  | rootEntriesIgnored =>
    "root directory size is not fixed on FAT32, ignoring the number of entries"

/-- A guarded computation with its warnings. -/
structure Attempt (ε α : Type) where
  /-- The warnings, in the order in which they were given. -/
  warnings : List Warning
  /-- How the computation ended. -/
  outcome : Guarded ε α

namespace Attempt

variable {ε δ α β : Type}

/-- Go on with a second attempt after the first one gave a value. -/
def andThen (x : Attempt ε α) (f : α → Attempt ε β) : Attempt ε β :=
  match x.outcome with
  | .ok a =>
    let next := f a
    ⟨x.warnings ++ next.warnings, next.outcome⟩
  | .error stop => ⟨x.warnings, .error stop⟩

instance : Monad (Attempt ε) where
  pure a := ⟨[], .ok a⟩
  bind := andThen

/-- A guarded computation gives no warnings. -/
instance : MonadLift (Except (Stop ε)) (Attempt ε) where
  monadLift x := ⟨[], x⟩

/-- Give warnings and go on. -/
def warn (warnings : List Warning) : Attempt ε Unit := ⟨warnings, .ok ()⟩

/-- The same attempt with its reason seen from a wider domain. -/
def widen (f : ε → δ) (x : Attempt ε α) : Attempt δ α := ⟨x.warnings, Guarded.widen f x.outcome⟩

/-- The outcome of a value is the value. -/
@[simp] theorem outcome_pure (a : α) : (pure a : Attempt ε α).outcome = .ok a := rfl

/-- The outcome of a sequence is the sequence of the outcomes. -/
@[simp] theorem outcome_bind (x : Attempt ε α) (f : α → Attempt ε β) :
    (x >>= f).outcome = x.outcome >>= fun a => (f a).outcome := by
  show (andThen x f).outcome = _
  unfold andThen
  cases x.outcome <;> rfl

/-- A warning is no obstacle. -/
@[simp] theorem outcome_warn (warnings : List Warning) :
    (warn warnings : Attempt ε Unit).outcome = .ok () := rfl

/-- Lifting keeps the outcome. -/
@[simp] theorem outcome_lift (x : Guarded ε α) :
    (MonadLift.monadLift x : Attempt ε α).outcome = x := rfl

end Attempt

end FatVolume
