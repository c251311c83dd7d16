import FatVolume.Attempt
import FatVolume.Device.Basic
import FatVolume.Device.Medium
import FatVolume.Layout.Basic
import FatVolume.Text

/-!
# Defects of a device

A list names blocks of 1 KiB, one on a line. It is accepted as a whole or not at all: every line
that is not blank must be a number, and every block must lie in the data area.

A scan reads the device up to the last cluster, in batches of 16 KiB. A batch that cannot be read is
read again block by block, and the sectors of the blocks that fail then are bad. No block that
starts before the data area may be bad.
-/

namespace FatVolume

/-- Bytes of a block. -/
def blockBytes : Nat := 1024

/-- Why a list is not accepted. -/
inductive ListError where
  /-- A line is no number. -/
  | notNumber (line : Nat) (text : String)
  /-- A block lies outside of the data area. -/
  | outOfRange (block : Nat)
  deriving DecidableEq

/-- The reason in words. -/
def ListError.message : ListError → String
  | notNumber line text => s!"line {line}: \"" ++ text ++ "\" is not a block number"
  | outOfRange block => s!"block {block} is outside of the data area"

namespace BlockList

/-- The numbers on lines, the first of which has the given number. -/
def readLines : Nat → List (List Char) → Except ListError (List Nat)
  | _, [] => .ok []
  | number, line :: rest =>
    let text := Text.trim line
    if text = [] then readLines (number + 1) rest
    else match Numeral.read 10 64 text with
      | .error _ => .error (.notNumber number (String.ofList text))
      | .ok block => (block :: ·) <$> readLines (number + 1) rest

/-- The blocks that a list names, in its order. -/
def parse (text : String) : Except ListError (List Nat) := readLines 1 (Text.lines text.toList)

/-- The first sector of a block, and the first one after it. -/
def blockSectors (block sectorSize : Nat) : Checked (Nat × Nat) := do
  let first ← within 64 (block * blockBytes)
  let last ← within 64 ((block + 1) * blockBytes)
  pure (← quotient first sectorSize, ← roundedQuotient last sectorSize)

/-- Add the sectors of blocks that lie between the start of the data and block `limit`. -/
def addBlocks (l : Layout) (limit : Nat) : SectorSet → List Nat → Guarded ListError SectorSet
  | sectors, [] => pure sectors
  | sectors, block :: rest => do
    if limit ≤ block then refuse (.outOfRange block)
    let (first, last) ← blockSectors block l.sectorSize
    if first < l.dataStart then refuse (.outOfRange block)
    addBlocks l limit (sectors.addRange first (last - first)) rest

/-- The sectors of blocks in the data area of a layout. -/
def sectors (l : Layout) (blocks : List Nat) : Guarded ListError SectorSet := do
  let size ← within 64 (l.totalSectors * l.sectorSize)
  addBlocks l (size / blockBytes) ∅ blocks

/-- The sectors of the blocks that a list names. -/
def mark (text : String) (l : Layout) : Guarded ListError SectorSet := do
  let blocks ← orRefuse (parse text)
  sectors l blocks

end BlockList

/-- Why defects cannot be handled. -/
inductive DefectError where
  /-- A bad block starts before the data area. -/
  | beforeData (sector : Nat)
  /-- The root cluster is bad and no other cluster is left for it. -/
  | noRootCluster (cluster : Nat)
  deriving DecidableEq

/-- The reason in words. -/
def DefectError.message : DefectError → String
  | beforeData sector => s!"bad block at sector {sector} lies before the data area"
  | noRootCluster cluster =>
    s!"root cluster {cluster} is bad and no free cluster is left to move it to"

namespace Scan

/-- Bytes of a batch. -/
def batchBytes : Nat := 16 * 1024

/-- Sectors of a block. -/
def blockSectors (sectorSize : Nat) : Nat := max 1 (blockBytes / sectorSize)

/-- Sectors of a batch. -/
def batchSectors (sectorSize : Nat) : Nat := max (blockSectors sectorSize) (batchBytes / sectorSize)

/-- A block has a sector. -/
theorem blockSectors_pos (sectorSize : Nat) : 0 < blockSectors sectorSize := by
  unfold blockSectors
  omega

/-- A batch has a sector. -/
theorem batchSectors_pos (sectorSize : Nat) : 0 < batchSectors sectorSize := by
  have := blockSectors_pos sectorSize
  unfold batchSectors
  omega

/-- Read the sectors from `start` to `last` block by block, and add those of bad blocks. -/
def blocks (d : Device) (l : Layout) (start last : Nat) (bad : SectorSet) :
    Attempt DefectError SectorSet :=
  if _h : start < last then
    let count := min (blockSectors l.sectorSize) (last - start)
    match d.read start (count * l.sectorSize) with
    | .ok _ => blocks d l (start + count) last bad
    | .error (.fault cause) => ⟨[], .error (.fault cause)⟩
    | .error (.refused cause) => do
      Attempt.warn [.badBlock start cause]
      if start < l.dataStart then (refuse (.beforeData start) : Guarded DefectError Unit)
      blocks d l (start + count) last (bad.addRange start count)
  else pure bad
termination_by last - start
decreasing_by
  all_goals
    have := blockSectors_pos l.sectorSize
    omega

/-- Read the sectors from `start` to `last` batch by batch, and add those of bad blocks. -/
def batches (d : Device) (l : Layout) (start last : Nat) (bad : SectorSet) :
    Attempt DefectError SectorSet :=
  if _h : start < last then
    let count := min (batchSectors l.sectorSize) (last - start)
    match d.read start (count * l.sectorSize) with
    | .ok _ => batches d l (start + count) last bad
    | .error (.fault cause) => ⟨[], .error (.fault cause)⟩
    | .error (.refused _) => do
      let bad ← blocks d l start (start + count) bad
      batches d l (start + count) last bad
  else pure bad
termination_by last - start
decreasing_by
  all_goals
    have := batchSectors_pos l.sectorSize
    omega

/-- The bad sectors of a device, as far as the last cluster of a layout. -/
def sectors (d : Device) (l : Layout) : Attempt DefectError SectorSet := do
  let last ← l.wordDataEnd
  batches d l 0 last ∅

end Scan

/-- Add the clusters of sectors to a set. -/
def addClusters (l : Layout) : SectorSet → List Nat → Checked SectorSet
  | clusters, [] => pure clusters
  | clusters, sector :: rest => do
    match ← l.sectorToCluster sector with
    | some cluster => addClusters l (clusters.insert cluster) rest
    | none => addClusters l clusters rest

/-- The clusters that hold any of the sectors. -/
def badClusters (l : Layout) (sectors : SectorSet) : Checked SectorSet :=
  addClusters l ∅ sectors.toList

end FatVolume
