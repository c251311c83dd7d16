import FatVolume.Proofs.Boot.Partition

/-!
# Boot sectors of any origin

A boot sector need not be one that was written here. Any 512 bytes are a boot sector with something
in its reserved bytes and some signature (`exists_rawSector`), and a driver accepts them for their
sizes, their number of tables and their signature alone. What was read is written back as it was,
with the reserved bytes cleared (`toSector_of_decode`).
-/

namespace FatVolume

namespace Chs

/-- Three bytes are an address. -/
theorem exists_encode {bytes : List UInt8} {n : Nat} (h : n + 3 ≤ bytes.length) :
    ∃ (a : Chs) (rest : List UInt8), bytes = a.encode ++ rest ∧ a.IsEncodable ∧
      n ≤ rest.length := by
  obtain ⟨head, _, rfl, h₁⟩ := exists_word8 h
  obtain ⟨mixed, _, rfl, h₂⟩ := exists_word8 h₁
  obtain ⟨low, rest, rfl, h₃⟩ := exists_word8 h₂
  have hmixed := mixed.toNat_lt
  have hlow := low.toNat_lt
  have hcylinder : (UInt16.ofNat (low.toNat + mixed.toNat / 64 * 256)).toNat =
      low.toNat + mixed.toNat / 64 * 256 :=
    UInt16.toNat_ofNat_of_lt' (by simp only [UInt16.size]; omega)
  have hsector : (UInt8.ofNat (mixed.toNat % 64)).toNat = mixed.toNat % 64 :=
    UInt8.toNat_ofNat_of_lt' (by simp only [UInt8.size]; omega)
  refine ⟨⟨UInt16.ofNat (low.toNat + mixed.toNat / 64 * 256), head,
    UInt8.ofNat (mixed.toNat % 64)⟩, rest, ?_, ⟨by rw [hcylinder]; omega, by rw [hsector]; omega⟩,
    h₃⟩
  have hm : UInt8.ofNat (mixed.toNat % 64 % 64 +
      (low.toNat + mixed.toNat / 64 * 256) / 256 % 4 * 64) = mixed := by
    rw [← UInt8.toNat_inj, UInt8.toNat_ofNat_of_lt' (by simp only [UInt8.size]; omega)]
    omega
  have hl : UInt8.ofNat (low.toNat + mixed.toNat / 64 * 256) = low := by
    rw [← UInt8.toNat_inj, UInt8.toNat_ofNat']
    omega
  simp only [encode, hcylinder, hsector, hm, hl, ofWord8_eq, List.cons_append, List.nil_append]

end Chs

namespace Partition

/-- Sixteen bytes are an entry. -/
theorem exists_encode {bytes : List UInt8} {n : Nat} (h : n + 16 ≤ bytes.length) :
    ∃ (p : Partition) (rest : List UInt8), bytes = p.encode ++ rest ∧ p.startChs.IsEncodable ∧
      p.endChs.IsEncodable ∧ n ≤ rest.length := by
  obtain ⟨flags, _, rfl, h₁⟩ := exists_word8 h
  obtain ⟨startChs, _, rfl, hstart, h₂⟩ := Chs.exists_encode h₁
  obtain ⟨kind, _, rfl, h₃⟩ := exists_word8 h₂
  obtain ⟨endChs, _, rfl, hend, h₄⟩ := Chs.exists_encode h₃
  obtain ⟨start, _, rfl, h₅⟩ := exists_word32 h₄
  obtain ⟨sectors, rest, rfl, h₆⟩ := exists_word32 h₅
  exact ⟨⟨flags, startChs, kind, endChs, start, sectors⟩, rest,
    by simp only [encode, List.append_assoc], hstart, hend, h₆⟩

/-- An entry of kind 0 is not read. -/
theorem reader_of_kind {p : Partition} (hkind : p.kind = 0) (hstart : p.startChs.IsEncodable)
    (rest : List UInt8) : reader (p.encode ++ rest) = none := by
  unfold reader encode
  simp only [List.append_assoc]
  rw [Reader.bind_of_eq (Reader.word8_append _ _), Reader.bind_of_eq (Chs.reader_append hstart _),
    Reader.bind_of_eq (Reader.word8_append _ _), if_pos hkind, Reader.bind_apply,
    Reader.failure_apply, Option.bind_none]

end Partition

namespace PartitionTable

/-- A partition table is recognised just where the bytes of one lie after a zero. -/
theorem ofSector_eq_some_iff {bytes : List UInt8} (hlong : recordBytes ≤ bytes.length)
    {t : PartitionTable} :
    ofSector bytes = some t ↔
      t.IsRecognised ∧ 0 :: t.encode <+: bytes.drop (BootSector.diskSignatureOffset - 1) := by
  constructor
  · intro h
    have htail : 50 + 23 ≤ (bytes.drop (BootSector.diskSignatureOffset - 1)).length := by
      simp only [recordBytes] at hlong
      simp only [List.length_drop, BootSector.diskSignatureOffset]
      omega
    unfold ofSector at h
    generalize bytes.drop (BootSector.diskSignatureOffset - 1) = tail at h htail ⊢
    obtain ⟨before, _, rfl, h₁⟩ := exists_word8 htail
    obtain ⟨signature, _, rfl, h₂⟩ := exists_word32 h₁
    obtain ⟨gap, _, rfl, hgap, h₃⟩ := exists_bytes (k := 2) h₂
    obtain ⟨p, rest, rfl, hstart, hend, -⟩ := Partition.exists_encode h₃
    have hbefore := Reader.bytes_append (length_ofWord8 before)
      (ofWord32 signature ++ (gap ++ (p.encode ++ rest)))
    have hgap := Reader.bytes_append hgap (p.encode ++ rest)
    by_cases hkind : p.kind = 0
    · rw [hbefore] at h
      simp [hgap, Partition.reader_of_kind hkind hstart] at h
    · rw [hbefore] at h
      simp only [hgap, Partition.reader_append hkind hstart hend, Reader.word32_append,
        Option.bind_eq_bind, Option.bind_some, ofWord8_eq, List.cons.injEq, and_true] at h
      obtain ⟨hlie, hvalue⟩ := Option.ite_none_right_eq_some.1 h
      obtain ⟨rfl, rfl, hactive, hzero⟩ := hlie
      rw [← Option.some.inj hvalue]
      refine ⟨⟨hactive, hkind, hzero, hstart, hend⟩, rest, ?_⟩
      simp only [encode, ofWord8_eq, List.cons_append, List.nil_append, List.append_assoc]
  · rintro ⟨h, rest, hrest⟩
    exact ofSector_of_encode h hrest.symm

/-- Whether there is a partition table depends on the bytes from the one before the disk signature
to the end of the entry alone. -/
theorem ofSector_congr {x y : List UInt8} (hx : recordBytes ≤ x.length)
    (hy : recordBytes ≤ y.length)
    (h : (x.drop (BootSector.diskSignatureOffset - 1)).take 23 =
      (y.drop (BootSector.diskSignatureOffset - 1)).take 23) : ofSector x = ofSector y := by
  have hprefix : ∀ (t : PartitionTable) (tail : List UInt8),
      0 :: t.encode <+: tail.take 23 ↔ 0 :: t.encode <+: tail := fun t tail => by
    rw [List.prefix_take_iff, List.length_cons, length_encode, and_iff_left (Nat.le_refl _)]
  refine Option.ext fun t => ?_
  rw [ofSector_eq_some_iff hx, ofSector_eq_some_iff hy, ← hprefix t (x.drop _), h, hprefix]

end PartitionTable

/-- Twenty-eight bytes are the parameters of FAT32 with something in the reserved bytes. -/
theorem Fat32Extension.exists_encodeWith {bytes : List UInt8} {n : Nat}
    (h : n + 28 ≤ bytes.length) :
    ∃ (e : Fat32Extension) (gap rest : List UInt8), bytes = e.encodeWith gap ++ rest ∧
      gap.length = reservedBytes ∧ n ≤ rest.length := by
  obtain ⟨tableSectors, _, rfl, h₁⟩ := exists_word32 h
  obtain ⟨flags, _, rfl, h₂⟩ := exists_word16 h₁
  obtain ⟨version, _, rfl, h₃⟩ := exists_word16 h₂
  obtain ⟨rootCluster, _, rfl, h₄⟩ := exists_word32 h₃
  obtain ⟨infoSector, _, rfl, h₅⟩ := exists_word16 h₄
  obtain ⟨backupSector, _, rfl, h₆⟩ := exists_word16 h₅
  obtain ⟨gap, rest, rfl, hgap, h₇⟩ := exists_bytes h₆
  exact ⟨⟨tableSectors, flags, version, rootCluster, infoSector, backupSector⟩, gap, rest,
    by simp only [encodeWith, List.append_assoc], hgap, h₇⟩

/-- Any 512 bytes as a boot sector, with what it has in its reserved bytes and as its signature. -/
structure RawSector where
  /-- The boot sector. -/
  sector : BootSector
  /-- The bytes that FAT32 reserves. -/
  gap : List UInt8
  /-- The byte after the drive number. -/
  spare : UInt8
  /-- The last two bytes. -/
  signature : UInt16
  /-- FAT32 counts the sectors of its table in 32 bits. -/
  isSome_fat32 : sector.fat32.isSome = decide (sector.tableSectors16 = 0)
  /-- The boot code ends where the signature starts. -/
  length_code : sector.code.length = BootSector.codeEnd - sector.codeStart
  /-- FAT32 reserves twelve bytes. -/
  length_gap : gap.length = Fat32Extension.reservedBytes

namespace RawSector

open BootSector (codeEnd codeOffset diskSignatureOffset)

/-- The 512 bytes. -/
def encode (r : RawSector) : List UInt8 :=
  r.sector.headWith r.gap r.spare ++ r.sector.code ++ ofWord16 r.signature

theorem length_encode (r : RawSector) : r.encode.length = recordBytes := by
  have hstart := r.sector.codeStart_le
  rw [encode, List.length_append, List.length_append, r.sector.length_headWith r.length_gap,
    r.length_code, length_ofWord16]
  simp only [codeEnd, recordBytes]
  omega

theorem le_length_append (r : RawSector) (rest : List UInt8) :
    recordBytes ≤ (r.encode ++ rest).length := by
  rw [List.length_append, r.length_encode]
  exact Nat.le_add_right _ _

/-- The parameters of FAT32 are there just if the table is not counted in 16 bits. -/
theorem exists_extension {bytes : List UInt8} (tableSectors16 : UInt16)
    (h : 476 ≤ bytes.length) :
    ∃ (fat32 : Option Fat32Extension) (gap rest : List UInt8),
      bytes = (fat32.elim [] fun e => e.encodeWith gap) ++ rest ∧
        gap.length = Fat32Extension.reservedBytes ∧
        fat32.isSome = decide (tableSectors16 = 0) ∧
        2 + (codeEnd - codeOffset fat32.isSome) + 26 ≤ rest.length := by
  by_cases hzero : tableSectors16 = 0
  · obtain ⟨e, gap, rest, rfl, hgap, hrest⟩ := Fat32Extension.exists_encodeWith (n := 448) h
    exact ⟨some e, gap, rest, rfl, hgap, by rw [hzero]; rfl, hrest⟩
  · exact ⟨none, List.replicate Fat32Extension.reservedBytes 0, bytes, rfl, List.length_replicate,
      by rw [decide_eq_false hzero]; rfl, h⟩

/-- A string of 512 bytes and more starts with a boot sector, whatever it holds. -/
theorem exists_encode {bytes : List UInt8} (h : recordBytes ≤ bytes.length) :
    ∃ (r : RawSector) (rest : List UInt8), bytes = r.encode ++ rest := by
  obtain ⟨jump, _, rfl, h₁⟩ := exists_field (n := 509) (k := 3) h
  obtain ⟨oemId, _, rfl, h₂⟩ := exists_field (n := 501) (k := 8) h₁
  obtain ⟨sectorBytes, _, rfl, h₃⟩ := exists_word16 h₂
  obtain ⟨clusterSectors, _, rfl, h₄⟩ := exists_word8 h₃
  obtain ⟨reservedSectors, _, rfl, h₅⟩ := exists_word16 h₄
  obtain ⟨tableCount, _, rfl, h₆⟩ := exists_word8 h₅
  obtain ⟨rootEntries, _, rfl, h₇⟩ := exists_word16 h₆
  obtain ⟨totalSectors16, _, rfl, h₈⟩ := exists_word16 h₇
  obtain ⟨media, _, rfl, h₉⟩ := exists_word8 h₈
  obtain ⟨tableSectors16, _, rfl, h₁₀⟩ := exists_word16 h₉
  obtain ⟨trackSectors, _, rfl, h₁₁⟩ := exists_word16 h₁₀
  obtain ⟨heads, _, rfl, h₁₂⟩ := exists_word16 h₁₁
  obtain ⟨hiddenSectors, _, rfl, h₁₃⟩ := exists_word32 h₁₂
  obtain ⟨totalSectors32, _, rfl, h₁₄⟩ := exists_word32 h₁₃
  obtain ⟨fat32, gap, _, rfl, hgap, hfat32, h₁₅⟩ := exists_extension tableSectors16 h₁₄
  obtain ⟨driveNumber, _, rfl, h₁₆⟩ := exists_word8 h₁₅
  obtain ⟨spare, _, rfl, h₁₇⟩ := exists_word8 h₁₆
  obtain ⟨extendedSignature, _, rfl, h₁₈⟩ := exists_word8 h₁₇
  obtain ⟨volumeId, _, rfl, h₁₉⟩ := exists_word32 h₁₈
  obtain ⟨label, _, rfl, h₂₀⟩ := exists_field (k := 11) h₁₉
  obtain ⟨typeField, _, rfl, h₂₁⟩ := exists_field (k := 8) h₂₀
  obtain ⟨code, _, rfl, hcode, h₂₂⟩ := exists_bytes h₂₁
  obtain ⟨signature, rest, rfl, -⟩ := exists_word16 (n := 0) h₂₂
  refine ⟨{
    sector := {
      jump, oemId, sectorBytes, clusterSectors, reservedSectors, tableCount, rootEntries,
      totalSectors16, media, tableSectors16, tracks := ⟨heads, trackSectors⟩, hiddenSectors,
      totalSectors32, fat32, driveNumber, extendedSignature, volumeId, label, typeField, code,
      partitionTable := none }
    gap, spare, signature
    isSome_fat32 := hfat32
    length_code := hcode
    length_gap := hgap }, rest, ?_⟩
  unfold encode BootSector.headWith
  simp only [List.append_assoc]

/-- What a driver asks of the sector. -/
def IsAccepted (r : RawSector) : Prop :=
  (IsPowerOfTwo r.sector.sectorBytes.toNat ∧ IsPowerOfTwo r.sector.clusterSectors.toNat ∧
    r.sector.tableCount ≠ 0) ∧ r.signature = bootSignature

instance (r : RawSector) : Decidable r.IsAccepted := inferInstanceAs (Decidable (_ ∧ _))

/-- The boot sector with a partition table or none. -/
def withTable (r : RawSector) (table : Option PartitionTable) : BootSector :=
  { r.sector with partitionTable := table }

/-- A partition table leaves the head alone. -/
theorem head_withTable (r : RawSector) (table : Option PartitionTable) :
    (r.withTable table).head = r.sector.head := rfl

/-- A driver reads the boot sector if it accepts it, and nothing otherwise. -/
theorem decode_append (r : RawSector) (rest : List UInt8) :
    BootSector.decode (r.encode ++ rest) =
      if r.IsAccepted then some (r.withTable (PartitionTable.ofSector (r.encode ++ rest)))
      else none := by
  have hread := BootSector.reader_headWith r.isSome_fat32 r.length_code r.length_gap r.spare
    r.signature rest
  change BootSector.reader (r.encode ++ rest) = if r.IsAccepted then _ else none at hread
  unfold BootSector.decode
  rw [hread]
  by_cases haccepted : r.IsAccepted
  · rw [if_pos haccepted, if_pos haccepted]
    rfl
  · rw [if_neg haccepted, if_neg haccepted]
    rfl

variable {r : RawSector}

/-- What a driver accepts it can read back. -/
theorem IsAccepted.readable (h : r.IsAccepted) (table : Option PartitionTable) :
    (r.withTable table).Readable where
  sectorBytes := h.1.1
  clusterSectors := h.1.2.1
  tableCount := h.1.2.2
  isSome_fat32 := r.isSome_fat32
  length_code := r.length_code

/-- The byte before the disk signature lies in the boot code. -/
theorem drop_append (r : RawSector) (rest : List UInt8) :
    (r.encode ++ rest).drop (diskSignatureOffset - 1) =
      r.sector.code.drop (diskSignatureOffset - 1 - r.sector.codeStart) ++
        (ofWord16 r.signature ++ rest) := by
  rw [encode, List.append_assoc,
    BootSector.drop_head_append (r.sector.length_headWith r.length_gap r.spare) r.length_code]

/-- The boot code goes on beyond the partition entry. -/
theorem le_length_drop (r : RawSector) :
    23 ≤ (r.sector.code.drop (diskSignatureOffset - 1 - r.sector.codeStart)).length := by
  have hstart := r.sector.codeStart_le
  rw [List.length_drop, r.length_code]
  simp only [codeEnd, diskSignatureOffset]
  omega

/-- A partition table that is recognised in the bytes is what lies there already. -/
theorem codeOnDisk_withTable (r : RawSector) {rest : List UInt8} {table : Option PartitionTable}
    (htable : PartitionTable.ofSector (r.encode ++ rest) = table) :
    (r.withTable table).codeOnDisk = r.sector.code := by
  have hlong := r.le_length_append rest
  have hstart := r.sector.codeStart_le
  cases table with
  | none => exact BootSector.codeOnDisk_of_none rfl
  | some t =>
    rw [BootSector.codeOnDisk_of_some (s := r.withTable (some t)) rfl]
    change splice r.sector.code (diskSignatureOffset - r.sector.codeStart) t.encode = r.sector.code
    obtain ⟨-, hprefix⟩ := (PartitionTable.ofSector_eq_some_iff hlong).1 htable
    rw [r.drop_append] at hprefix
    obtain ⟨tail, htail⟩ := List.prefix_of_prefix_length_le hprefix (List.prefix_append _ _) (by
      rw [List.length_cons, t.length_encode]; exact r.le_length_drop)
    have hk : diskSignatureOffset - r.sector.codeStart =
        diskSignatureOffset - 1 - r.sector.codeStart + 1 := by
      simp only [diskSignatureOffset]
      omega
    have hlt := r.le_length_drop
    rw [hk]
    generalize diskSignatureOffset - 1 - r.sector.codeStart = k at htail hlt ⊢
    have hfront : (r.sector.code.take k ++ [0]).length = k + 1 := by
      rw [List.length_drop] at hlt
      rw [List.length_append, List.length_take, List.length_singleton]
      omega
    have hcode : r.sector.code = (r.sector.code.take k ++ [0]) ++ (t.encode ++ tail) := by
      rw [List.append_assoc, List.singleton_append, ← List.cons_append, htail,
        List.take_append_drop]
    rw [hcode, splice_skip (Nat.le_of_eq hfront), hfront, Nat.sub_self, splice_front rfl]

/-- Written again, the sector has zeros in its reserved bytes. -/
theorem IsAccepted.encode_withTable (h : r.IsAccepted) {rest : List UInt8}
    {table : Option PartitionTable} (htable : PartitionTable.ofSector (r.encode ++ rest) = table) :
    (r.withTable table).encode = r.sector.head ++ r.sector.code ++ ofWord16 r.signature := by
  rw [(h.readable table).encode_eq, r.codeOnDisk_withTable htable, r.head_withTable, h.2]

/-- Written again, the sector is read as it was. -/
theorem IsAccepted.decode_encode (h : r.IsAccepted) {rest : List UInt8}
    {table : Option PartitionTable} (htable : PartitionTable.ofSector (r.encode ++ rest) = table) :
    BootSector.decode (r.withTable table).encode = some (r.withTable table) := by
  have hread := (h.readable table).decode_encode []
  have hlong : recordBytes ≤ (r.withTable table).encode.length :=
    Nat.le_of_eq (h.readable table).length_encode.symm
  have hagain : PartitionTable.ofSector (r.withTable table).encode = table := by
    rw [← htable]
    refine PartitionTable.ofSector_congr (htable ▸ hlong) (r.le_length_append rest) ?_
    rw [htable, h.encode_withTable htable, r.drop_append,
      BootSector.drop_head_append r.sector.length_head r.length_code,
      List.take_append_of_le_length r.le_length_drop, List.take_append_of_le_length r.le_length_drop]
  rw [List.append_nil, r.codeOnDisk_withTable htable, hagain] at hread
  exact hread

end RawSector

/-- So many bytes of a string from an offset. -/
def bytesAt (bytes : List UInt8) (offset width : Nat) : List UInt8 :=
  (bytes.drop offset).take width

/-- The number that lies at an offset of a string. -/
def fieldAt (bytes : List UInt8) (offset width : Nat) : Nat := leValue (bytesAt bytes offset width)

/-- Bytes before the offset do not matter. -/
theorem bytesAt_skip {front : List UInt8} {offset : Nat} (h : front.length ≤ offset)
    (rest : List UInt8) (width : Nat) :
    bytesAt (front ++ rest) offset width = bytesAt rest (offset - front.length) width := by
  rw [bytesAt, List.drop_append, List.drop_eq_nil_of_le h, List.nil_append]
  rfl

theorem bytesAt_front {field : List UInt8} {width : Nat} (h : field.length = width)
    (rest : List UInt8) : bytesAt (field ++ rest) 0 width = field := by
  rw [bytesAt, List.drop_zero, List.take_left' h]

namespace BootSector

/-- The first 512 bytes of a string with zeros in the bytes that a boot sector reserves: the one
after the drive number, and on FAT32 twelve more. -/
def clearReserved (bytes : List UInt8) : List UInt8 :=
  let sector := bytes.take recordBytes
  if fieldAt bytes 22 2 = 0 then splice (splice sector 0x34 (List.replicate 12 0)) 0x41 [0]
  else splice sector 0x25 [0]

end BootSector

namespace RawSector

open BootSector (codeEnd)

/-- The fields by which a driver accepts a sector or tells its shape. -/
theorem bytesAt_append (r : RawSector) (rest : List UInt8) :
    bytesAt (r.encode ++ rest) 11 2 = ofWord16 r.sector.sectorBytes ∧
      bytesAt (r.encode ++ rest) 13 1 = ofWord8 r.sector.clusterSectors ∧
      bytesAt (r.encode ++ rest) 16 1 = ofWord8 r.sector.tableCount ∧
      bytesAt (r.encode ++ rest) 22 2 = ofWord16 r.sector.tableSectors16 := by
  unfold encode BootSector.headWith
  simp [bytesAt_skip, bytesAt_front]

/-- The signature lies at the end of the sector. -/
theorem bytesAt_codeEnd (r : RawSector) (rest : List UInt8) :
    bytesAt (r.encode ++ rest) codeEnd 2 = ofWord16 r.signature := by
  have hstart := r.sector.codeStart_le
  have hfront : (r.sector.headWith r.gap r.spare ++ r.sector.code).length = codeEnd := by
    rw [List.length_append, r.sector.length_headWith r.length_gap, r.length_code]
    simp only [codeEnd]
    omega
  rw [encode, List.append_assoc, bytesAt_skip (Nat.le_of_eq hfront), hfront, Nat.sub_self,
    bytesAt_front (length_ofWord16 _)]

/-- What is left of a sector when its reserved bytes are cleared. -/
theorem clearReserved_append (r : RawSector) (rest : List UInt8) :
    BootSector.clearReserved (r.encode ++ rest) =
      r.sector.head ++ r.sector.code ++ ofWord16 r.signature := by
  obtain ⟨-, -, -, htable⟩ := r.bytesAt_append rest
  have hgap := r.length_gap
  have hfat32 := r.isSome_fat32
  unfold BootSector.clearReserved fieldAt
  rw [htable, leValue_ofWord16, List.take_left' r.length_encode, r.sector.head_eq]
  unfold encode BootSector.headWith
  cases hsome : r.sector.fat32 with
  | none =>
    rw [hsome] at hfat32
    have hzero : r.sector.tableSectors16.toNat ≠ 0 := fun h => by
      simp [← UInt16.toNat_inj, h] at hfat32
    rw [if_neg hzero, ← ofWord8_eq]
    simp [splice_skip, splice_front]
  | some e =>
    rw [hsome] at hfat32
    have hzero : r.sector.tableSectors16.toNat = 0 := by
      simpa [← UInt16.toNat_inj] using hfat32
    rw [if_pos hzero, ← ofWord8_eq]
    simp [splice_skip, splice_front, Fat32Extension.encodeWith, hgap,
      Fat32Extension.reservedBytes, -List.reduceReplicate]

end RawSector

/-- The signature is what the last two bytes hold. -/
theorem ofWord16_eq_iff {signature : UInt16} :
    ofWord16 signature = [0x55, 0xAA] ↔ signature = bootSignature := by
  constructor
  · intro h
    rw [← UInt16.toNat_inj, ← leValue_ofWord16, h]
    rfl
  · rintro rfl
    rfl

namespace RawSector

open BootSector (codeEnd)

variable (r : RawSector) (rest : List UInt8)

/-- A driver goes by the bytes of the sizes, of the number of tables and of the signature. -/
theorem isAccepted_iff :
    r.IsAccepted ↔
      IsPowerOfTwo (fieldAt (r.encode ++ rest) 11 2) ∧
        IsPowerOfTwo (fieldAt (r.encode ++ rest) 13 1) ∧ fieldAt (r.encode ++ rest) 16 1 ≠ 0 ∧
        bytesAt (r.encode ++ rest) codeEnd 2 = [0x55, 0xAA] := by
  obtain ⟨hsector, hcluster, hcount, -⟩ := r.bytesAt_append rest
  have hzero : r.sector.tableCount ≠ 0 ↔ r.sector.tableCount.toNat ≠ 0 :=
    not_congr UInt8.toNat_inj.symm
  rw [fieldAt, fieldAt, fieldAt, hsector, hcluster, hcount, r.bytesAt_codeEnd, ofWord16_eq_iff,
    leValue_ofWord16, leValue_ofWord8, leValue_ofWord8, IsAccepted, and_assoc, and_assoc, hzero]

/-- What a driver reads is the boot sector with the partition table that is recognised. -/
theorem decode_append_eq_some_iff {s : BootSector} :
    BootSector.decode (r.encode ++ rest) = some s ↔
      r.IsAccepted ∧ s = r.withTable (PartitionTable.ofSector (r.encode ++ rest)) := by
  rw [r.decode_append]
  by_cases h : r.IsAccepted
  · rw [if_pos h, Option.some.injEq, eq_comm, and_iff_right h]
  · rw [if_neg h]
    exact ⟨fun hs => absurd hs (Option.some_ne_none s).symm, fun hs => absurd hs.1 h⟩

end RawSector

namespace BootSector

/-- What writing a boot sector relies on: each part ends where the next one starts. -/
structure Fits (s : BootSector) : Prop where
  /-- The head ends where the boot code starts. -/
  head : s.head.length = s.codeStart
  /-- The signature ends the sector. -/
  parameters : s.encodeParameters.length = recordBytes
  /-- The partition takes an entry of the table. -/
  entry : ∀ t, s.partitionTable = some t → t.partition.encode.length = Partition.byteCount

/-- What a driver reads can be written. -/
theorem Readable.fits {s : BootSector} (h : s.Readable) : s.Fits where
  head := s.length_head
  parameters := h.length_encodeParameters
  entry := fun t _ => t.partition.length_encode

/-- **Any boot sector that a driver reads is written back as it was.** A string of 512 bytes and
more is read just if its sizes are powers of two, there is a copy of the table and the signature is
at its place. What was read fits the sector, is written as the first 512 bytes with zeros in the
reserved ones, and is read from them again. The bytes are taken apart as the fields of a sector and
a rest, whether a driver accepts them or not. -/
theorem toSector_of_decode {bytes : List UInt8} (hlong : recordBytes ≤ bytes.length) :
    ((decode bytes).isSome ↔
      IsPowerOfTwo (fieldAt bytes 11 2) ∧ IsPowerOfTwo (fieldAt bytes 13 1) ∧
        fieldAt bytes 16 1 ≠ 0 ∧ bytesAt bytes codeEnd 2 = [0x55, 0xAA]) ∧
    ∀ s, decode bytes = some s →
      s.Fits ∧ s.toSector recordBytes = .ok (clearReserved bytes) ∧
        decode (clearReserved bytes) = some s := by
  obtain ⟨r, rest, hbytes⟩ := RawSector.exists_encode hlong
  rw [hbytes]
  constructor
  · rw [← r.isAccepted_iff, Option.isSome_iff_exists]
    constructor
    · rintro ⟨s, hs⟩
      exact ((r.decode_append_eq_some_iff rest).1 hs).1
    · intro h
      exact ⟨_, (r.decode_append_eq_some_iff rest).2 ⟨h, rfl⟩⟩
  · intro s hs
    obtain ⟨h, hs⟩ := (r.decode_append_eq_some_iff rest).1 hs
    generalize htable : PartitionTable.ofSector (r.encode ++ rest) = table at hs
    have hcleared : clearReserved (r.encode ++ rest) = s.encode := by
      rw [r.clearReserved_append, hs, h.encode_withTable htable]
    rw [hcleared]
    refine ⟨?_, ?_, ?_⟩
    · rw [hs]
      exact (h.readable table).fits
    · rw [s.toSector_of_le (Nat.le_refl _), Nat.sub_self, List.replicate_zero, List.append_nil]
    · rw [hs, h.decode_encode htable]

/-- A boot sector of another system: FAT32 with something in its reserved bytes, with boot code that
fills the sector and with a partition table. -/
def foreignSector : List UInt8 :=
  List.replicate 11 0x77 ++ [0, 2, 8, 32, 0, 2, 0, 0, 0, 0, 0xF8, 0, 0] ++ List.replicate 28 0x11
    ++ List.replicate 387 0x99 ++ [0, 1, 2, 3, 4, 0, 0]
    ++ [0x80, 1, 1, 0, 0x0C, 254, 0xFF, 0xFF, 0, 0, 0, 0, 0, 1, 0, 0]
    ++ List.replicate 48 0x99 ++ [0x55, 0xAA]

/-- A sector of another system is read with its partition table, and not all of it is written back:
the reserved bytes are cleared. -/
theorem toSector_of_decode_foreignSector :
    ∃ s, decode foreignSector = some s ∧ s.partitionTable.isSome ∧
      s.toSector recordBytes = .ok (clearReserved foreignSector) ∧
        decode (clearReserved foreignSector) = some s ∧
        clearReserved foreignSector ≠ foreignSector := by
  have hlong : recordBytes ≤ foreignSector.length := by decide +kernel
  obtain ⟨hiff, hback⟩ := toSector_of_decode hlong
  have hsome : (decode foreignSector).isSome := hiff.2 (by decide +kernel)
  have htable : (decode foreignSector).any (·.partitionTable.isSome) = true := by decide +kernel
  obtain ⟨s, hs⟩ := Option.isSome_iff_exists.1 hsome
  obtain ⟨-, hwrite, hread⟩ := hback s hs
  rw [hs] at htable
  exact ⟨s, hs, htable, hwrite, hread, by decide +kernel⟩

end BootSector

end FatVolume
