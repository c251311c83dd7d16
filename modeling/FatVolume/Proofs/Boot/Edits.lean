import FatVolume.Proofs.Boot.Fresh
import FatVolume.Proofs.Boot.Partition

/-!
# Edited boot sectors

The boot sector of a fresh volume is edited in any order: messages are set, and partition tables that
span the volume. Its code always prints a message that ends before the table (`Composed`), so it is
read back from its bytes: as it is without a table (`decode_afterMessages`), with the table laid over
its code otherwise (`decode_afterTables`).
-/

namespace FatVolume

/-- A table with a partition of some kind that starts at the first sector. -/
def PartitionTable.Spans (t : PartitionTable) : Prop :=
  ∃ kind sectors tracks, kind ≠ 0 ∧ t.partition = Partition.spanning kind 0 sectors tracks

/-- A table whose partition starts at the first sector is recognised. -/
theorem PartitionTable.Spans.isRecognised {t : PartitionTable} (h : t.Spans) :
    t.IsRecognised := by
  obtain ⟨kind, sectors, tracks, hkind, hspans⟩ := h
  exact {
    active := by rw [hspans]; rfl
    kind := by rw [hspans]; exact hkind
    start := by rw [hspans]; rfl
    startChs := by rw [hspans]; exact Chs.isEncodable_ofSector _ _
    endChs := by rw [hspans]; exact Chs.isEncodable_ofSector _ _ }

namespace BootSector

/-- A change of a boot sector. -/
inductive Edit where
  /-- Set the message. -/
  | message (bytes : List UInt8)
  /-- Set the partition table. -/
  | partitionTable (t : PartitionTable)
  deriving DecidableEq

/-- The partition table that a change sets. -/
def Edit.table? : Edit → Option PartitionTable
  | .message _ => none
  | .partitionTable t => some t

/-- The boot sector after a change. -/
def edit (s : BootSector) : Edit → BootSector
  | .message bytes => s.setMessage bytes
  | .partitionTable t => s.setPartitionTable t

/-- The boot sector after a sequence of changes. -/
def afterEdits (s : BootSector) (edits : List Edit) : BootSector := edits.foldl edit s

/-- A boot sector that a driver accepts, whose code prints a message and has a zero before the
partition table, if there is one. -/
structure Composed (s : BootSector) : Prop where
  /-- A driver accepts the boot sector. -/
  readable : s.Readable
  /-- The boot code prints a message. -/
  code : PrintsMessage s.code
  /-- The partition table is recognised and lies after a zero. -/
  partitionTable : ∀ t, s.partitionTable = some t →
    t.IsRecognised ∧ s.code[diskSignatureOffset - 1 - s.codeStart]? = some 0

variable {s : BootSector}

/-- A composed boot sector is read back. -/
theorem Composed.faithful (h : s.Composed) : s.Faithful where
  readable := h.readable
  partitionTable := by
    cases htable : s.partitionTable with
    | none => exact h.code
    | some t => exact h.partitionTable t htable

/-- A message keeps a boot sector composed; before a partition table it ends in time. -/
theorem Composed.setMessage (h : s.Composed) (message : List UInt8) :
    (s.setMessage message).Composed where
  readable := h.readable.setMessage message
  code := (h.readable.setMessage_code message).1
  partitionTable := fun t ht => by
    refine ⟨(h.partitionTable t ht).1, ?_⟩
    obtain ⟨hk, hstub⟩ := s.codeStart_add
    have hlt := h.readable.lt_length_code
    have hlength := List.length_take_le (s.messageCapacity - 1) (Message.body message)
    have hcapacity : s.messageCapacity = diskSignatureOffset - s.codeStart - stubBytes := by
      unfold messageCapacity
      rw [show s.partitionTable = some t from ht]
      rfl
    show (s.setMessage message).code[diskSignatureOffset - 1 - s.codeStart]? = some 0
    rw [h.readable.setMessage_eq]
    refine getElem?_filled ?_ (by omega)
    rw [List.length_append, length_stub]
    omega

/-- Changes keep a boot sector readable, whatever tables they set. -/
theorem Readable.afterEdits (h : s.Readable) (edits : List Edit) : (s.afterEdits edits).Readable := by
  unfold BootSector.afterEdits
  induction edits generalizing s with
  | nil => exact h
  | cons e rest ih =>
    cases e with
    | message bytes => exact ih (h.setMessage bytes)
    | partitionTable t => exact ih (h.setPartitionTable t)

/-- A partition table that is recognised keeps a boot sector composed. -/
theorem Composed.setPartitionTable (h : s.Composed) {t : PartitionTable} (ht : t.IsRecognised) :
    (s.setPartitionTable t).Composed := by
  obtain ⟨hcode, -, hzero⟩ := h.readable.setPartitionTable_code h.code t
  exact {
    readable := h.readable.setPartitionTable t
    code := hcode
    partitionTable := fun u hu => by
      cases hu
      exact ⟨ht, hzero⟩ }

/-- A change keeps a boot sector composed if it sets no table but one that is recognised. -/
theorem Composed.edit (h : s.Composed) {e : Edit}
    (he : ∀ t, e = .partitionTable t → t.IsRecognised) : (s.edit e).Composed := by
  cases e with
  | message bytes => exact h.setMessage bytes
  | partitionTable t => exact h.setPartitionTable (he t rfl)

/-- Changes keep a boot sector composed if they set no tables but those that are recognised. -/
theorem Composed.afterEdits (h : s.Composed) {edits : List Edit}
    (hedits : ∀ t, .partitionTable t ∈ edits → t.IsRecognised) :
    (s.afterEdits edits).Composed := by
  unfold BootSector.afterEdits
  induction edits generalizing s with
  | nil => exact h
  | cons e rest ih =>
    refine ih (h.edit fun t ht => ?_) fun t ht => hedits t (List.mem_cons_of_mem e ht)
    rw [ht] at hedits
    exact hedits t List.mem_cons_self

/-- The boot sector of a sound layout is composed. -/
theorem composed_fresh {l : Layout} (h : l.Sound) (g : Geometry) (v : VolumeInfo)
    (backup : UInt16) : (fresh l g v backup).Composed where
  readable := readable_fresh h g v backup
  code := ((readable_blank h g v backup).setMessage_code _).1
  partitionTable := fun _ => nofun

/-- Changes leave all fields but the boot code and the partition table. -/
theorem afterEdits_eq (s : BootSector) (edits : List Edit) :
    s.afterEdits edits = { s with
      code := (s.afterEdits edits).code
      partitionTable := (s.afterEdits edits).partitionTable } := by
  unfold afterEdits
  induction edits generalizing s with
  | nil => rfl
  | cons e rest ih =>
    rw [List.foldl_cons, ih]
    cases e <;> rfl

/-- The partition table after a sequence of changes is the last one that was set. -/
theorem partitionTable_afterEdits (s : BootSector) (edits : List Edit) :
    (s.afterEdits edits).partitionTable =
      (edits.filterMap Edit.table?).getLast?.or s.partitionTable := by
  unfold afterEdits
  induction edits generalizing s with
  | nil => rfl
  | cons e rest ih =>
    rw [List.foldl_cons, ih]
    cases e with
    | message bytes => rfl
    | partitionTable t =>
      rw [show (Edit.partitionTable t :: rest).filterMap Edit.table? =
        t :: rest.filterMap Edit.table? from rfl, List.getLast?_cons]
      cases (rest.filterMap Edit.table?).getLast? <;> rfl

/-- Messages set no partition table. -/
theorem filterMap_table?_message (messages : List (List UInt8)) :
    (messages.map Edit.message).filterMap Edit.table? = [] := by
  rw [List.filterMap_map]
  exact List.filterMap_eq_nil_iff.2 fun _ _ => rfl

/-- A sector with a composed boot sector is read back, with the boot code as it lies under the
partition table. -/
theorem Composed.exists_toSector (h : s.Composed) {sectorSize : Nat}
    (hsize : recordBytes ≤ sectorSize) :
    ∃ bytes, s.toSector sectorSize = .ok bytes ∧ bytes.length = sectorSize ∧
      decode bytes = some { s with code := s.codeOnDisk } := by
  refine ⟨_, s.toSector_of_le hsize, ?_, h.faithful.decode_encode _⟩
  rw [List.length_append, h.readable.length_encode, List.length_replicate]
  omega

/-- For every device, all options whose root directory entries fit 16 bits, whatever else the boot
sector of the computed layout records and whatever messages were set: the boot sector is read back
as it is from a sector of any size, without a partition table, and it has the sizes of the layout. -/
theorem decode_afterMessages (g : Geometry) (o : Layout.Options) (l : Layout)
    (h : Layout.compute g o = .ok l) (hroot : o.rootEntries.toNat ≤ Layout.maxField16)
    (v : VolumeInfo) (backup : UInt16) (messages : List (List UInt8)) :
    let s := (fresh l g v backup).afterEdits (messages.map .message)
    (∀ sectorSize, recordBytes ≤ sectorSize → ∃ bytes, s.toSector sectorSize = .ok bytes ∧
      bytes.length = sectorSize ∧ decode bytes = some s) ∧
    s.partitionTable = none ∧ s.fat32.isSome = decide (l.width = .fat32) ∧
    s.totalSectors = l.totalSectors ∧ s.tableSectors = l.tableSectors ∧
    s.reservedSectors.toNat = l.reservedSectors ∧ s.rootEntries.toNat = l.rootEntries ∧
    s.sectorBytes.toNat = l.sectorSize ∧ s.clusterSectors.toNat = l.clusterSectors ∧
    s.tableCount.toNat = l.tableCount := by
  intro s
  have hsound := Layout.sound_of_compute h
  have hcomposed : s.Composed := (composed_fresh hsound g v backup).afterEdits fun t ht => by
    obtain ⟨_, -, hne⟩ := List.mem_map.1 ht
    cases hne
  have hnone : s.partitionTable = none := by
    rw [partitionTable_afterEdits, filterMap_table?_message]
    rfl
  have hondisk : s.codeOnDisk = s.code := by
    unfold codeOnDisk
    rw [hnone]
  have hkeep := afterEdits_eq (fresh l g v backup) (messages.map .message)
  have hrecords := records_fresh hsound g v backup
  have hentries := rootEntries_fresh (Layout.rootEntries_of_compute h hroot) g v backup
  refine ⟨fun sectorSize hsize => ?_, hnone, ?_, ?_, ?_, ?_, ?_, ?_, ?_, ?_⟩
  · obtain ⟨bytes, hbytes, hlength, hdecode⟩ := hcomposed.exists_toSector hsize
    rw [hondisk] at hdecode
    exact ⟨bytes, hbytes, hlength, hdecode⟩
  · exact (congrArg (fun s => s.fat32.isSome) hkeep).trans (isSome_fat32_fresh l g v backup)
  · exact (congrArg totalSectors hkeep).trans (totalSectors_fresh hsound g v backup)
  · exact (congrArg tableSectors hkeep).trans (tableSectors_fresh hsound g v backup)
  · exact (congrArg (fun s => s.reservedSectors.toNat) hkeep).trans hrecords.reservedSectors
  · exact (congrArg (fun s => s.rootEntries.toNat) hkeep).trans hentries
  · exact (congrArg (fun s => s.sectorBytes.toNat) hkeep).trans hrecords.sectorBytes
  · exact (congrArg (fun s => s.clusterSectors.toNat) hkeep).trans hrecords.clusterSectors
  · exact (congrArg (fun s => s.tableCount.toNat) hkeep).trans hrecords.tableCount

/-- A message of 600 bytes 0x80 on a floppy disk, where it runs over the place of a partition table,
is read back as a message. -/
theorem decode_afterMessages_floppy :
    ∃ l bytes, Layout.compute ⟨512, 2880, ⟨2, 18⟩, 0⟩ {} = .ok l ∧
      let s := (fresh l ⟨512, 2880, ⟨2, 18⟩, 0⟩
        ⟨Label.unnamed, 0, 0, 0xF0, Moment.epoch⟩ 0).afterEdits
          [.message [], .message (List.replicate 600 0x80)]
      s.toSector 512 = .ok bytes ∧ decode bytes = some s ∧ s.partitionTable = none ∧
        s.fat32.isSome = false ∧ s.totalSectors = 2880 ∧ s.tableSectors = 9 := by
  have hl := Layout.compute_floppy
  obtain ⟨hread, hnone, hfat, htotal, htables, -⟩ := decode_afterMessages _ _ _ hl (by decide)
    ⟨Label.unnamed, 0, 0, 0xF0, Moment.epoch⟩ 0 [[], List.replicate 600 0x80]
  obtain ⟨bytes, hbytes, -, hdecode⟩ := hread 512 (Nat.le_refl 512)
  exact ⟨_, bytes, hl, hbytes, hdecode, hnone, hfat, htotal, htables⟩

/-- For every device and all options, whatever else the boot sector of the computed layout records,
and however messages and partition tables that start at the first sector were set, with one table at
least: the boot sector is read back with the table that was set last and every other field but the
boot code. The code is the same before the disk signature; from there on it holds the signature, two
zeros, the partition, and the rest of the code. Written again it has the same bytes. -/
theorem decode_afterTables (g : Geometry) (o : Layout.Options) (l : Layout)
    (h : Layout.compute g o = .ok l) (v : VolumeInfo) (backup : UInt16) (edits : List Edit)
    (hspans : ∀ t, .partitionTable t ∈ edits → t.Spans)
    (htable : ∃ t, .partitionTable t ∈ edits) :
    let s := (fresh l g v backup).afterEdits edits
    ∃ bytes t d, s.toSector recordBytes = .ok bytes ∧ decode bytes = some d ∧
      (edits.filterMap Edit.table?).getLast? = some t ∧ s.partitionTable = some t ∧
      d.partitionTable = some t ∧ d = { s with code := d.code } ∧
      d.code = s.code.take (diskSignatureOffset - s.codeStart) ++
        (ofWord32 t.signature ++ [0, 0] ++ t.partition.encode) ++
        s.code.drop (partitionTableOffset + Partition.byteCount - s.codeStart) ∧
      d.toSector recordBytes = .ok bytes := by
  intro s
  have hcomposed : s.Composed :=
    (composed_fresh (Layout.sound_of_compute h) g v backup).afterEdits
      fun t ht => (hspans t ht).isRecognised
  obtain ⟨t, ht⟩ : ∃ t, (edits.filterMap Edit.table?).getLast? = some t := by
    obtain ⟨u, hu⟩ := htable
    have hmem : u ∈ edits.filterMap Edit.table? := List.mem_filterMap.2 ⟨_, hu, rfl⟩
    exact ⟨_, List.getLast?_eq_some_getLast (List.ne_nil_of_mem hmem)⟩
  have hset : s.partitionTable = some t := by
    rw [partitionTable_afterEdits, ht]
    rfl
  obtain ⟨bytes, hbytes, -, hdecode⟩ := hcomposed.exists_toSector (Nat.le_refl recordBytes)
  refine ⟨bytes, t, _, hbytes, hdecode, ht, hset, hset, rfl, ?_, ?_⟩
  · have hstart := s.codeStart_le
    have hend : diskSignatureOffset - s.codeStart + t.encode.length =
        partitionTableOffset + Partition.byteCount - s.codeStart := by
      rw [t.length_encode]
      simp only [diskSignatureOffset, partitionTableOffset, Partition.byteCount]
      omega
    show s.codeOnDisk = _
    unfold codeOnDisk
    rw [hset]
    show splice _ _ _ = _
    unfold splice
    rw [hend]
    rfl
  · rw [toSector_of_le _ (Nat.le_refl recordBytes), hcomposed.readable.encode_codeOnDisk,
      ← toSector_of_le s (Nat.le_refl recordBytes)]
    exact hbytes

/-- A FAT32 volume gets a message that runs over the place of the partition table, the table, and
another such message. The table is read back. -/
theorem decode_afterTables_fat32 :
    ∃ l bytes d, Layout.compute ⟨512, 1200000, ⟨255, 63⟩, 0⟩ {} = .ok l ∧ l.width = .fat32 ∧
      let t : PartitionTable := ⟨0x12345678, Partition.spanning 0x0C 0 1200000 ⟨255, 63⟩⟩
      ((fresh l ⟨512, 1200000, ⟨255, 63⟩, 0⟩
        ⟨Label.unnamed, 0, 0x80, 0xF8, Moment.epoch⟩ 6).afterEdits
          [.message (List.replicate 600 0x41), .partitionTable t,
            .message (List.replicate 600 0x42)]).toSector 512 = .ok bytes ∧
        decode bytes = some d ∧ d.partitionTable = some t ∧ d.toSector 512 = .ok bytes := by
  have hl := Layout.compute_hardDisk
  obtain ⟨bytes, t, d, hbytes, hdecode, hlast, -, ht, -, -, hagain⟩ := decode_afterTables _ _ _ hl
    ⟨Label.unnamed, 0, 0x80, 0xF8, Moment.epoch⟩ 6
    [.message (List.replicate 600 0x41),
      .partitionTable ⟨0x12345678, Partition.spanning 0x0C 0 1200000 ⟨255, 63⟩⟩,
      .message (List.replicate 600 0x42)]
    (fun t ht => by
      simp only [List.mem_cons, reduceCtorEq, Edit.partitionTable.injEq, List.not_mem_nil, or_false,
        false_or] at ht
      exact ⟨0x0C, 1200000, ⟨255, 63⟩, by decide, by rw [ht]⟩)
    ⟨_, List.mem_cons_of_mem _ List.mem_cons_self⟩
  cases hlast
  exact ⟨_, bytes, d, hl, rfl, hbytes, hdecode, ht, hagain⟩

end BootSector

end FatVolume
