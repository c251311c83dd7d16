import FatVolume.Boot.Codec
import FatVolume.Proofs.Guard
import FatVolume.Proofs.Reading

/-!
# Boot sectors are read back

A boot sector whose sizes a driver accepts is read back from its bytes (`decode_encode`): every
field as it was, the boot code as it lies under the partition table. An information sector is read
back as it was.
-/

namespace FatVolume

/-- Bytes that replace as many within the middle part of a string leave the outer parts alone. -/
theorem splice_append (front back : List UInt8) {middle field : List UInt8} {offset : Nat}
    (h : offset + field.length ≤ middle.length) :
    splice (front ++ middle ++ back) (front.length + offset) field =
      front ++ splice middle offset field ++ back := by
  have htake : (front ++ middle ++ back).take (front.length + offset) =
      front ++ middle.take offset := by
    rw [List.append_assoc, List.take_length_add_append, List.take_append_of_le_length (by omega)]
  have hdrop : (front ++ middle ++ back).drop (front.length + offset + field.length) =
      middle.drop (offset + field.length) ++ back := by
    rw [List.append_assoc, Nat.add_assoc, List.drop_length_add_append,
      List.drop_append_of_le_length h]
  unfold splice
  rw [htake, hdrop]
  simp only [List.append_assoc]

/-- Bytes before the offset stay as they are. -/
theorem splice_skip {front : List UInt8} {offset : Nat} (h : front.length ≤ offset)
    (rest field : List UInt8) :
    splice (front ++ rest) offset field = front ++ splice rest (offset - front.length) field := by
  obtain ⟨n, rfl⟩ := Nat.exists_eq_add_of_le h
  unfold splice
  rw [List.take_length_add_append, Nat.add_assoc, List.drop_length_add_append, Nat.add_sub_cancel_left]
  simp only [List.append_assoc]

/-- Bytes at the front are replaced by as many others. -/
theorem splice_front {front field : List UInt8} (h : front.length = field.length)
    (rest : List UInt8) : splice (front ++ rest) 0 field = field ++ rest := by
  unfold splice
  rw [List.take_zero, List.nil_append, Nat.zero_add, List.drop_left' h]

theorem length_splice {bytes field : List UInt8} {offset : Nat}
    (h : offset + field.length ≤ bytes.length) :
    (splice bytes offset field).length = bytes.length := by
  unfold splice
  rw [List.length_append, List.length_append, List.length_take, List.length_drop]
  omega

namespace Fat32Extension

/-- The parameters of FAT32 in a boot sector with anything in the bytes that FAT32 reserves. -/
def encodeWith (e : Fat32Extension) (gap : List UInt8) : List UInt8 :=
  ofWord32 e.tableSectors ++ ofWord16 e.flags ++ ofWord16 e.version ++ ofWord32 e.rootCluster
    ++ ofWord16 e.infoSector ++ ofWord16 e.backupSector ++ gap

/-- The parameters of FAT32 are read back whatever the reserved bytes hold. -/
theorem reader_encodeWith (e : Fat32Extension) {gap : List UInt8}
    (h : gap.length = reservedBytes) (rest : List UInt8) :
    reader (e.encodeWith gap ++ rest) = some (e, rest) := by
  unfold reader encodeWith
  simp [Reader.bytes_append h]

/-- The parameters of FAT32 are read back. -/
@[simp] theorem reader_encode (e : Fat32Extension) (rest : List UInt8) :
    reader (e.encode ++ rest) = some (e, rest) :=
  e.reader_encodeWith List.length_replicate rest

end Fat32Extension

@[simp] theorem PartitionTable.length_encode (t : PartitionTable) : t.encode.length = 22 := by
  simp [encode, Partition.byteCount]

/-- An information sector is read back. -/
theorem InfoSector.decode_encode (s : InfoSector) (rest : List UInt8) :
    decode (s.encode ++ rest) = some s := by
  have hread : reader (s.encode ++ rest) = some (s, rest) := by
    unfold reader encode
    simp only [List.append_assoc]
    rw [Reader.bind_of_eq (Reader.word32_append _ _), if_neg (Decidable.not_not.2 rfl),
      Reader.bind_of_eq (Reader.bytes_replicate_append _ _ _),
      Reader.bind_of_eq (Reader.word32_append _ _), if_neg (Decidable.not_not.2 rfl),
      Reader.bind_of_eq (Reader.word32_append _ _), Reader.bind_of_eq (Reader.word32_append _ _),
      Reader.bind_of_eq (Reader.bytes_replicate_append _ _ _),
      Reader.bind_of_eq (Reader.word16_append _ _), if_neg (Decidable.not_not.2 rfl),
      Reader.pure_apply]
  unfold decode
  rw [hread]
  rfl

/-- Replacing the same bytes again changes nothing. -/
theorem splice_splice {bytes field : List UInt8} {offset : Nat} (h : offset ≤ bytes.length) :
    splice (splice bytes offset field) offset field = splice bytes offset field := by
  have hlength : (bytes.take offset).length = offset := by
    rw [List.length_take, Nat.min_eq_left h]
  have htake : (splice bytes offset field).take offset = bytes.take offset := by
    unfold splice
    rw [List.append_assoc, List.take_left' hlength]
  have hdrop : (splice bytes offset field).drop (offset + field.length) =
      bytes.drop (offset + field.length) := by
    unfold splice
    rw [List.drop_left' (by rw [List.length_append, hlength])]
  rw [splice, htake, hdrop]
  rfl

/-- A sector that has room for an information sector takes it. -/
theorem InfoSector.toSector_of_le (s : InfoSector) {sectorSize : Nat}
    (h : recordBytes ≤ sectorSize) :
    s.toSector sectorSize = .ok (s.encode ++ List.replicate (sectorSize - recordBytes) 0) := by
  unfold toSector
  rw [invariant_of h]
  rfl

namespace BootSector

/-- A sector that has room for a boot sector takes it. -/
theorem toSector_of_le (s : BootSector) {sectorSize : Nat} (h : recordBytes ≤ sectorSize) :
    s.toSector sectorSize = .ok (s.encode ++ List.replicate (sectorSize - recordBytes) 0) := by
  unfold toSector
  rw [invariant_of h]
  rfl

/-- What a driver asks of a boot sector: sizes that are powers of two, a copy of the table, the
parameters of FAT32 just when the table is not counted in 16 bits, and boot code that fills the
sector. -/
structure Readable (s : BootSector) : Prop where
  /-- A sector has a power of two of bytes. -/
  sectorBytes : IsPowerOfTwo s.sectorBytes.toNat
  /-- A cluster has a power of two of sectors. -/
  clusterSectors : IsPowerOfTwo s.clusterSectors.toNat
  /-- There is a copy of the table. -/
  tableCount : s.tableCount ≠ 0
  /-- FAT32 counts the sectors of its table in 32 bits. -/
  isSome_fat32 : s.fat32.isSome = decide (s.tableSectors16 = 0)
  /-- The boot code ends where the signature starts. -/
  length_code : s.code.length = codeEnd - s.codeStart

/-- The bytes before the boot code. -/
def head (s : BootSector) : List UInt8 :=
  s.jump.toList ++ s.oemId.toList ++ ofWord16 s.sectorBytes ++ ofWord8 s.clusterSectors
    ++ ofWord16 s.reservedSectors ++ ofWord8 s.tableCount ++ ofWord16 s.rootEntries
    ++ ofWord16 s.totalSectors16 ++ ofWord8 s.media ++ ofWord16 s.tableSectors16
    ++ ofWord16 s.tracks.sectors ++ ofWord16 s.tracks.heads ++ ofWord32 s.hiddenSectors
    ++ ofWord32 s.totalSectors32 ++ (s.fat32.elim [] Fat32Extension.encode)
    ++ ofWord8 s.driveNumber ++ ofWord8 0 ++ ofWord8 s.extendedSignature ++ ofWord32 s.volumeId
    ++ s.label.toList ++ s.typeField.toList

/-- The bytes before the boot code with anything in the reserved bytes: in those of FAT32 and in the
one after the drive number. -/
def headWith (s : BootSector) (gap : List UInt8) (spare : UInt8) : List UInt8 :=
  s.jump.toList ++ s.oemId.toList ++ ofWord16 s.sectorBytes ++ ofWord8 s.clusterSectors
    ++ ofWord16 s.reservedSectors ++ ofWord8 s.tableCount ++ ofWord16 s.rootEntries
    ++ ofWord16 s.totalSectors16 ++ ofWord8 s.media ++ ofWord16 s.tableSectors16
    ++ ofWord16 s.tracks.sectors ++ ofWord16 s.tracks.heads ++ ofWord32 s.hiddenSectors
    ++ ofWord32 s.totalSectors32 ++ (s.fat32.elim [] fun e => e.encodeWith gap)
    ++ ofWord8 s.driveNumber ++ ofWord8 spare ++ ofWord8 s.extendedSignature
    ++ ofWord32 s.volumeId ++ s.label.toList ++ s.typeField.toList

/-- The head of a boot sector has zeros in the reserved bytes. -/
theorem head_eq (s : BootSector) :
    s.head = s.headWith (List.replicate Fat32Extension.reservedBytes 0) 0 := rfl

/-- The boot code follows the head. -/
theorem encodeParameters_eq (s : BootSector) :
    s.encodeParameters = s.head ++ s.code ++ ofWord16 bootSignature := rfl

theorem length_headWith (s : BootSector) {gap : List UInt8}
    (h : gap.length = Fat32Extension.reservedBytes) (spare : UInt8) :
    (s.headWith gap spare).length = s.codeStart := by
  unfold headWith codeStart codeOffset
  cases s.fat32 <;> simp [Fat32Extension.encodeWith, h, Fat32Extension.reservedBytes]

theorem length_head (s : BootSector) : s.head.length = s.codeStart :=
  s.length_headWith List.length_replicate 0

/-- The boot code as the bytes of the sector have it, under the partition table. -/
def codeOnDisk (s : BootSector) : List UInt8 :=
  match s.partitionTable with
  | none => s.code
  | some t => splice s.code (diskSignatureOffset - s.codeStart) t.encode

theorem codeOnDisk_of_none {s : BootSector} (h : s.partitionTable = none) :
    s.codeOnDisk = s.code := by
  unfold codeOnDisk
  rw [h]

/-- A partition table is laid over the boot code. -/
theorem codeOnDisk_of_some {s : BootSector} {t : PartitionTable} (h : s.partitionTable = some t) :
    s.codeOnDisk = splice s.code (diskSignatureOffset - s.codeStart) t.encode := by
  unfold codeOnDisk
  rw [h]

theorem codeStart_le (s : BootSector) : s.codeStart ≤ 0x5A := by
  unfold codeStart codeOffset
  split <;> decide

variable {s : BootSector}

/-- A partition table is laid over the end of the boot code only. -/
theorem Readable.encode_eq (h : s.Readable) :
    s.encode = s.head ++ s.codeOnDisk ++ ofWord16 bootSignature := by
  have hstart := s.codeStart_le
  have hcode := h.length_code
  unfold encode codeOnDisk
  rw [s.encodeParameters_eq]
  cases s.partitionTable with
  | none => rfl
  | some t =>
    have hfits : diskSignatureOffset - s.codeStart + t.encode.length ≤ s.code.length := by
      rw [t.length_encode, hcode]
      simp only [diskSignatureOffset, codeEnd]
      omega
    have hoffset : diskSignatureOffset = s.head.length + (diskSignatureOffset - s.codeStart) := by
      rw [s.length_head]
      simp only [diskSignatureOffset]
      omega
    have hsplice := splice_append s.head (ofWord16 bootSignature) hfits
    rw [← hoffset] at hsplice
    exact hsplice

theorem Readable.length_codeOnDisk (h : s.Readable) :
    s.codeOnDisk.length = codeEnd - s.codeStart := by
  have hstart := s.codeStart_le
  have hcode := h.length_code
  unfold codeOnDisk
  cases s.partitionTable with
  | none => exact hcode
  | some t =>
    rw [length_splice, hcode]
    rw [t.length_encode, hcode]
    simp only [diskSignatureOffset, codeEnd]
    omega

/-- The head and the boot code are read back whatever the reserved bytes hold, if a driver accepts
the sizes, the number of tables and the signature. -/
theorem reader_headWith (hfat32 : s.fat32.isSome = decide (s.tableSectors16 = 0))
    {code gap : List UInt8} (hcode : code.length = codeEnd - s.codeStart)
    (hgap : gap.length = Fat32Extension.reservedBytes) (spare : UInt8) (signature : UInt16)
    (rest : List UInt8) :
    reader (s.headWith gap spare ++ code ++ ofWord16 signature ++ rest) =
      if (IsPowerOfTwo s.sectorBytes.toNat ∧ IsPowerOfTwo s.clusterSectors.toNat ∧
          s.tableCount ≠ 0) ∧ signature = bootSignature then
        some ({ s with code := code, partitionTable := none }, rest)
      else none := by
  have hbytes := Reader.bytes_append hcode (ofWord16 signature ++ rest)
  unfold codeStart at hbytes
  unfold reader headWith
  simp only [List.append_assoc]
  rw [Reader.bind_of_eq (Reader.field_append _ _), Reader.bind_of_eq (Reader.field_append _ _),
    Reader.bind_of_eq (Reader.word16_append _ _), Reader.bind_of_eq (Reader.word8_append _ _),
    Reader.bind_of_eq (Reader.word16_append _ _), Reader.bind_of_eq (Reader.word8_append _ _),
    Reader.bind_of_eq (Reader.word16_append _ _), Reader.bind_of_eq (Reader.word16_append _ _),
    Reader.bind_of_eq (Reader.word8_append _ _), Reader.bind_of_eq (Reader.word16_append _ _),
    Reader.bind_of_eq (Reader.word16_append _ _), Reader.bind_of_eq (Reader.word16_append _ _),
    Reader.bind_of_eq (Reader.word32_append _ _), Reader.bind_of_eq (Reader.word32_append _ _)]
  by_cases hpowers : IsPowerOfTwo s.sectorBytes.toNat ∧ IsPowerOfTwo s.clusterSectors.toNat ∧
      s.tableCount ≠ 0
  · rw [if_pos hpowers]
    cases hsome : s.fat32
    case' none =>
      rw [hsome] at hfat32 hbytes
      rw [if_neg (by simpa using hfat32), Option.elim_none, List.nil_append,
        Reader.bind_of_eq (Reader.pure_apply _ _)]
    case' some e =>
      have hextension : ∀ rest, (some <$> Fat32Extension.reader) (e.encodeWith gap ++ rest) =
          some (some e, rest) := fun rest => by
        rw [Reader.map_apply, e.reader_encodeWith hgap, Option.map_some]
      rw [hsome] at hfat32 hbytes
      rw [if_pos (by simpa using hfat32), Option.elim_some, Reader.bind_of_eq (hextension _)]
    all_goals
      rw [Reader.bind_of_eq (Reader.word8_append _ _), Reader.bind_of_eq (Reader.word8_append _ _),
        Reader.bind_of_eq (Reader.word8_append _ _), Reader.bind_of_eq (Reader.word32_append _ _),
        Reader.bind_of_eq (Reader.field_append _ _), Reader.bind_of_eq (Reader.field_append _ _),
        Reader.bind_of_eq hbytes, Reader.bind_of_eq (Reader.word16_append _ _)]
      by_cases hsignature : signature = bootSignature
      · rw [if_neg (Decidable.not_not.2 hsignature), if_pos ⟨hpowers, hsignature⟩,
          Reader.pure_apply]
      · rw [if_pos hsignature, Reader.bind_apply, Reader.failure_apply, Option.bind_none,
          if_neg fun h => hsignature h.2]
  · rw [if_neg hpowers, Reader.bind_apply, Reader.failure_apply, Option.bind_none,
      if_neg fun h => hpowers h.1]

/-- The head and the boot code are read back. -/
theorem Readable.reader_append (h : s.Readable) {code : List UInt8}
    (hcode : code.length = codeEnd - s.codeStart) (rest : List UInt8) :
    reader (s.head ++ code ++ ofWord16 bootSignature ++ rest) =
      some ({ s with code := code, partitionTable := none }, rest) := by
  rw [s.head_eq, reader_headWith h.isSome_fat32 hcode List.length_replicate,
    if_pos ⟨⟨h.sectorBytes, h.clusterSectors, h.tableCount⟩, rfl⟩]

/-- Before its partition table is laid over it a boot sector takes 512 bytes. -/
theorem Readable.length_encodeParameters (h : s.Readable) :
    s.encodeParameters.length = recordBytes := by
  have hstart := s.codeStart_le
  rw [s.encodeParameters_eq, List.length_append, List.length_append, s.length_head, h.length_code,
    length_ofWord16]
  simp only [codeEnd, recordBytes]
  omega

theorem Readable.length_encode (h : s.Readable) : s.encode.length = recordBytes := by
  have hstart := s.codeStart_le
  rw [h.encode_eq, List.length_append, List.length_append, s.length_head, h.length_codeOnDisk,
    length_ofWord16]
  simp only [codeEnd, recordBytes]
  omega

/-- A partition table that is laid over the boot code again changes nothing. -/
theorem Readable.encode_codeOnDisk (h : s.Readable) :
    { s with code := s.codeOnDisk }.encode = s.encode := by
  have hread : { s with code := s.codeOnDisk }.Readable :=
    ⟨h.sectorBytes, h.clusterSectors, h.tableCount, h.isSome_fat32, h.length_codeOnDisk⟩
  have hagain : { s with code := s.codeOnDisk }.codeOnDisk = s.codeOnDisk := by
    unfold codeOnDisk
    cases s.partitionTable with
    | none => rfl
    | some t =>
      refine splice_splice ?_
      rw [h.length_code]
      simp only [diskSignatureOffset, codeEnd]
      omega
  rw [hread.encode_eq, h.encode_eq, hagain]
  rfl

/-- A boot sector is read back, with its boot code as it lies under the partition table. -/
theorem Readable.decode_encode (h : s.Readable) (rest : List UInt8) :
    decode (s.encode ++ rest) = some { s with
      code := s.codeOnDisk
      partitionTable := PartitionTable.ofSector (s.encode ++ rest) } := by
  unfold decode
  rw [h.encode_eq, h.reader_append h.length_codeOnDisk]
  rfl

end BootSector

end FatVolume
