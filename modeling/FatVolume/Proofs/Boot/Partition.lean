import FatVolume.Proofs.Boot.Message

/-!
# Partition tables in boot sectors

A partition table lies between a zero before it and the signature of the boot sector. A boot sector
that carries one is read back with it, and boot code that only prints a message is never taken for
one (`ofSector_encode`).
-/

namespace FatVolume

namespace Chs

/-- An address with a cylinder of ten bits and a sector of six. -/
def IsEncodable (a : Chs) : Prop := a.cylinder.toNat < 1024 ∧ a.sector.toNat < 64

/-- An address that its bits can hold is read back. -/
theorem reader_append {a : Chs} (h : a.IsEncodable) (rest : List UInt8) :
    reader (a.encode ++ rest) = some (a, rest) := by
  obtain ⟨cylinder, head, sector⟩ := a
  obtain ⟨hcylinder, hsector⟩ := h
  dsimp only at hcylinder hsector
  have hmixed : (UInt8.ofNat (sector.toNat % 64 + cylinder.toNat / 256 % 4 * 64)).toNat =
      sector.toNat + cylinder.toNat / 256 * 64 := by
    rw [UInt8.toNat_ofNat_of_lt' (by simp only [UInt8.size]; omega)]
    omega
  have hlow : (UInt8.ofNat cylinder.toNat).toNat = cylinder.toNat % 256 := UInt8.toNat_ofNat'
  have hbyte : ∀ (b : UInt8) (rest : List UInt8), Reader.word8 (b :: rest) = some (b, rest) :=
    fun b rest => by
      have hword := Reader.word8_append b rest
      rwa [ofWord8_eq] at hword
  unfold reader encode
  simp only [List.cons_append, List.nil_append, Reader.bind_apply, hbyte, Option.bind_some,
    Reader.pure_apply, hmixed, hlow]
  have hc : cylinder.toNat % 256 + (sector.toNat + cylinder.toNat / 256 * 64) / 64 * 256 =
      cylinder.toNat := by omega
  have hs : (sector.toNat + cylinder.toNat / 256 * 64) % 64 = sector.toNat := by omega
  rw [hc, hs, UInt16.ofNat_toNat, UInt8.ofNat_toNat]

/-- The address of a sector is one that its bits can hold. -/
theorem isEncodable_ofSector (sector : Nat) (t : Tracks) : (ofSector sector t).IsEncodable := by
  unfold ofSector
  dsimp only
  split
  · exact ⟨by decide, by decide⟩
  · rename_i h
    rw [not_or, Decidable.not_not, Nat.not_lt] at h
    obtain ⟨⟨-, -, hpos, hmax⟩, hcylinder⟩ := h
    have hmod := Nat.mod_lt sector hpos
    constructor
    · rw [UInt16.toNat_ofNat_of_lt' (by simp only [UInt16.size]; omega)]
      omega
    · rw [UInt8.toNat_ofNat_of_lt' (by simp only [UInt8.size]; omega)]
      omega

end Chs

namespace Partition

/-- A partition whose addresses its bits can hold is read back. -/
theorem reader_append {p : Partition} (hkind : p.kind ≠ 0) (hstart : p.startChs.IsEncodable)
    (hend : p.endChs.IsEncodable) (rest : List UInt8) :
    reader (p.encode ++ rest) = some (p, rest) := by
  unfold reader encode
  simp [Chs.reader_append hstart, Chs.reader_append hend, hkind]

/-- A partition that holds a volume is of a kind. -/
theorem kindOf_ne_zero (w : Width) (sectors : Nat) (t : Tracks) : kindOf w sectors t ≠ 0 := by
  unfold kindOf
  cases w <;> dsimp only
  · decide
  · split
    · decide
    · split <;> decide
  · split <;> decide

end Partition

namespace PartitionTable

/-- What a partition table needs to be recognised: an active partition of some kind that starts at
the first sector. -/
structure IsRecognised (t : PartitionTable) : Prop where
  /-- The partition is active. -/
  active : t.partition.flags = Partition.active
  /-- The partition is of some kind. -/
  kind : t.partition.kind ≠ 0
  /-- The partition starts at the first sector. -/
  start : t.partition.start = 0
  /-- The bits of the first address can hold it. -/
  startChs : t.partition.startChs.IsEncodable
  /-- The bits of the last address can hold it. -/
  endChs : t.partition.endChs.IsEncodable

/-- A recognisable partition table after a zero is recognised. -/
theorem ofSector_of_encode {t : PartitionTable} (h : t.IsRecognised) {bytes rest : List UInt8}
    (hdrop : bytes.drop (BootSector.diskSignatureOffset - 1) = 0 :: (t.encode ++ rest)) :
    ofSector bytes = some t := by
  have hzero : Reader.bytes 1 (0 :: (t.encode ++ rest)) = some ([0], t.encode ++ rest) :=
    Reader.bytes_append (rfl : [(0 : UInt8)].length = 1) _
  have hgap : Reader.bytes 2 (0 :: 0 :: (t.partition.encode ++ rest)) =
      some ([0, 0], t.partition.encode ++ rest) :=
    Reader.bytes_append (rfl : [(0 : UInt8), 0].length = 2) _
  have hpartition := Partition.reader_append h.kind h.startChs h.endChs rest
  unfold ofSector
  rw [hdrop, hzero]
  unfold encode
  rw [List.append_assoc, List.append_assoc]
  simp [hgap, hpartition, h.active, h.start]

/-- Without a zero before it nothing is recognised as a partition table. -/
theorem ofSector_of_ne_zero {b : UInt8} (hb : b ≠ 0) {bytes rest : List UInt8}
    (hdrop : bytes.drop (BootSector.diskSignatureOffset - 1) = b :: rest) :
    ofSector bytes = none := by
  have hbyte : Reader.bytes 1 (b :: rest) = some ([b], rest) :=
    Reader.bytes_append (rfl : [b].length = 1) rest
  unfold ofSector
  rw [hdrop, hbyte]
  simp [hb]

/-- Zeros are no partition table. -/
theorem ofSector_of_zeros {bytes rest : List UInt8} {n : Nat} (hn : 15 ≤ n)
    (hdrop : bytes.drop (BootSector.diskSignatureOffset - 1) =
      List.replicate n 0 ++ rest) : ofSector bytes = none := by
  obtain ⟨m, rfl⟩ := Nat.exists_eq_add_of_le hn
  have hword : ∀ rest, Reader.word8 (0 :: rest) = some (0, rest) := fun rest =>
    Reader.word8_append 0 rest
  have hlong : ∀ rest, Reader.word32 (0 :: 0 :: 0 :: 0 :: rest) = some (0, rest) := fun rest =>
    Reader.word32_append 0 rest
  have hone : ∀ rest, Reader.bytes 1 (0 :: rest) = some ([0], rest) := fun rest =>
    Reader.bytes_append (rfl : [(0 : UInt8)].length = 1) rest
  have hgap : ∀ rest, Reader.bytes 2 (0 :: 0 :: rest) = some ([0, 0], rest) := fun rest =>
    Reader.bytes_append (rfl : [(0 : UInt8), 0].length = 2) rest
  unfold ofSector
  rw [hdrop, ← List.replicate_append_replicate]
  simp [List.replicate_succ, hone, hlong, hgap, Partition.reader, Chs.reader, hword]

end PartitionTable

namespace BootSector

variable {s : BootSector}

/-- The byte before the disk signature lies in the boot code. -/
theorem drop_head_append {head code : List UInt8} (hhead : head.length = s.codeStart)
    (hcode : code.length = codeEnd - s.codeStart) (rest : List UInt8) :
    (head ++ code ++ rest).drop (diskSignatureOffset - 1) =
      code.drop (diskSignatureOffset - 1 - s.codeStart) ++ rest := by
  have hstart := s.codeStart_le
  simp only [codeEnd] at hcode
  simp only [diskSignatureOffset]
  rw [List.append_assoc, List.drop_append, List.drop_eq_nil_of_le (by omega), List.nil_append,
    hhead, List.drop_append_of_le_length (by omega)]

/-- The bytes from the one before the disk signature on are boot code and the end of the sector. -/
theorem Readable.drop_encode (h : s.Readable) (rest : List UInt8) :
    (s.encode ++ rest).drop (diskSignatureOffset - 1) =
      s.codeOnDisk.drop (diskSignatureOffset - 1 - s.codeStart) ++
        (ofWord16 bootSignature ++ rest) := by
  rw [h.encode_eq, List.append_assoc, drop_head_append s.length_head h.length_codeOnDisk]

/-- Boot code that only prints a message is no partition table. The byte in front of the table is
one of the text, which has no zeros, or the text ends before it, and then the table itself is zeros.
-/
theorem Readable.ofSector_of_printsMessage (h : s.Readable) (hcode : PrintsMessage s.code)
    (hnone : s.partitionTable = none) (rest : List UInt8) :
    PartitionTable.ofSector (s.encode ++ rest) = none := by
  have hstart := s.codeStart_le
  have hlength := h.length_code
  have hdrop := h.drop_encode rest
  have hondisk := codeOnDisk_of_none hnone
  obtain ⟨stub, text, n, htext, hstub, hzero⟩ := hcode
  rw [hondisk, htext] at hdrop
  rw [htext, List.length_append, List.length_append, List.length_replicate, hstub] at hlength
  simp only [codeEnd, stubBytes] at hlength hstub
  have hk : diskSignatureOffset - 1 - s.codeStart + s.codeStart = 439 := by
    simp only [diskSignatureOffset]
    omega
  generalize diskSignatureOffset - 1 - s.codeStart = k at hk hdrop
  by_cases hend : stub.length + text.length ≤ k
  · have hrest : (stub ++ text ++ List.replicate (n + 1) 0).drop k =
        List.replicate (n + 1 - (k - (stub ++ text).length)) (0 : UInt8) := by
      rw [List.drop_append, List.drop_eq_nil_of_le (by rw [List.length_append]; exact hend),
        List.nil_append, List.drop_replicate]
    rw [hrest] at hdrop
    refine PartitionTable.ofSector_of_zeros ?_ hdrop
    rw [List.length_append]
    omega
  · have hin : k - stub.length < text.length := by omega
    have hrest : (stub ++ text ++ List.replicate (n + 1) 0).drop k =
        text[k - stub.length] :: (text.drop (k - stub.length + 1) ++
          List.replicate (n + 1) (0 : UInt8)) := by
      rw [List.append_assoc stub, List.drop_append, List.drop_eq_nil_of_le (by omega),
        List.nil_append, List.drop_append_of_le_length (by omega), List.drop_eq_getElem_cons hin]
      rfl
    rw [hrest] at hdrop
    exact PartitionTable.ofSector_of_ne_zero (hzero _ (List.getElem_mem hin)) hdrop

/-- Before the disk signature there is a byte of the boot code, after the stub. -/
theorem codeStart_add (s : BootSector) :
    diskSignatureOffset - s.codeStart = diskSignatureOffset - 1 - s.codeStart + 1 ∧
      stubBytes ≤ diskSignatureOffset - 1 - s.codeStart := by
  have hstart := s.codeStart_le
  simp only [diskSignatureOffset, stubBytes]
  omega

/-- The boot code goes on after the disk signature. -/
theorem Readable.lt_length_code (h : s.Readable) :
    diskSignatureOffset - s.codeStart < s.code.length := by
  have hstart := s.codeStart_le
  rw [h.length_code]
  simp only [diskSignatureOffset, codeEnd]
  omega

/-- The length of a printed message is that of its text. -/
theorem messageLength_of_printed {stub text : List UInt8} {n : Nat}
    (hcode : s.code = stub ++ text ++ List.replicate (n + 1) 0) (hstub : stub.length = stubBytes)
    (hzero : ∀ b ∈ text, b ≠ 0) : s.messageLength = text.length := by
  unfold messageLength
  rw [hcode, List.append_assoc, List.drop_left' hstub,
    List.takeWhile_append_of_pos fun b hb => by simpa using hzero b hb]
  simp [List.replicate_succ]

/-- The boot code before the disk signature once there is a partition table: a message that reaches
the place of the table ends with a zero before it. -/
def codeBeforeTable (s : BootSector) : List UInt8 :=
  if s.messageOverlaps = true then s.code.take (diskSignatureOffset - 1 - s.codeStart) ++ [0]
  else s.code.take (diskSignatureOffset - s.codeStart)

theorem Readable.length_codeBeforeTable (h : s.Readable) :
    s.codeBeforeTable.length = diskSignatureOffset - s.codeStart := by
  obtain ⟨hk, -⟩ := s.codeStart_add
  have hlt := h.lt_length_code
  unfold codeBeforeTable
  rw [hk] at hlt ⊢
  split
  · rw [List.length_append, List.length_take, List.length_singleton]
    omega
  · rw [List.length_take]
    omega

/-- A partition table leaves the boot code before the disk signature, and clears the rest. -/
theorem Readable.code_setPartitionTable (h : s.Readable) (t : PartitionTable) :
    (s.setPartitionTable t).code = filled s.code.length s.codeBeforeTable := by
  have hone : diskSignatureOffset - s.codeStart - 1 = diskSignatureOffset - 1 - s.codeStart :=
    Nat.sub_right_comm _ _ _
  unfold filled
  rw [h.length_codeBeforeTable]
  unfold setPartitionTable codeBeforeTable
  dsimp only
  rw [hone]

/-- A partition table keeps a boot sector readable. -/
theorem Readable.setPartitionTable (h : s.Readable) (t : PartitionTable) :
    (s.setPartitionTable t).Readable where
  sectorBytes := h.sectorBytes
  clusterSectors := h.clusterSectors
  tableCount := h.tableCount
  isSome_fat32 := h.isSome_fat32
  length_code := by
    have hle : s.codeBeforeTable.length ≤ s.code.length := by
      rw [h.length_codeBeforeTable]
      exact Nat.le_of_lt h.lt_length_code
    rw [h.code_setPartitionTable t, length_filled hle, h.length_code]
    rfl

/-- A partition table cuts boot code that prints a message so that it ends with a zero before the
table. -/
theorem Readable.setPartitionTable_eq (h : s.Readable) (hcode : PrintsMessage s.code)
    (t : PartitionTable) : (s.setPartitionTable t).code =
      filled s.code.length (s.code.take (diskSignatureOffset - 1 - s.codeStart)) := by
  obtain ⟨hk, hstub⟩ := s.codeStart_add
  have hlt := h.lt_length_code
  rw [h.code_setPartitionTable t]
  unfold codeBeforeTable messageOverlaps
  rw [hk] at hlt ⊢
  simp only [decide_eq_true_eq]
  generalize diskSignatureOffset - 1 - s.codeStart = k at hstub hlt ⊢
  have hstart : (if k + 1 ≤ stubBytes + s.messageLength then s.code.take k ++ [0]
      else s.code.take (k + 1)) = s.code.take k ++ [0] := by
    split
    · rfl
    · obtain ⟨stub, text, n, htext, hlength, hzero⟩ := hcode
      have hmessage := messageLength_of_printed htext hlength hzero
      have hlast : s.code[k]? = some 0 := by
        rw [htext] at hlt ⊢
        exact getElem?_of_printed (by omega) (by omega)
      rw [List.take_add_one, hlast]
      rfl
  rw [hstart]
  refine filled_append_zeros (n := 1) ?_
  rw [List.length_take]
  omega

/-- A partition table leaves boot code that prints a message, of the same length, with a zero before
the table. -/
theorem Readable.setPartitionTable_code (h : s.Readable) (hcode : PrintsMessage s.code)
    (t : PartitionTable) :
    PrintsMessage (s.setPartitionTable t).code ∧
      (s.setPartitionTable t).code.length = s.code.length ∧
      (s.setPartitionTable t).code[diskSignatureOffset - 1 - s.codeStart]? = some 0 := by
  obtain ⟨hk, hstub⟩ := s.codeStart_add
  have hlt := h.lt_length_code
  have hle := List.length_take_le (diskSignatureOffset - 1 - s.codeStart) s.code
  rw [h.setPartitionTable_eq hcode]
  exact ⟨hcode.cut hstub (by omega), length_filled (by omega), getElem?_filled hle (by omega)⟩

/-- A partition table lies in the sector after the byte of the boot code that precedes it. -/
theorem Readable.drop_encode_of_partitionTable (h : s.Readable) {t : PartitionTable} {b : UInt8}
    (hsome : s.partitionTable = some t)
    (hbyte : s.code[diskSignatureOffset - 1 - s.codeStart]? = some b) (rest : List UInt8) :
    ∃ more, (s.encode ++ rest).drop (diskSignatureOffset - 1) = b :: (t.encode ++ more) := by
  obtain ⟨hk, -⟩ := s.codeStart_add
  have hondisk := codeOnDisk_of_some hsome
  have hdrop := h.drop_encode rest
  obtain ⟨hlt, hget⟩ := List.getElem?_eq_some_iff.1 hbyte
  rw [hondisk, hk] at hdrop
  generalize diskSignatureOffset - 1 - s.codeStart = k at hlt hget hdrop
  have htake : s.code.take (k + 1) = s.code.take k ++ [b] := by
    rw [List.take_add_one, List.getElem?_eq_getElem hlt, hget]
    rfl
  have hlength : (s.code.take k).length = k := List.length_take_of_le (Nat.le_of_lt hlt)
  have hsplice : (splice s.code (k + 1) t.encode).drop k =
      b :: (t.encode ++ s.code.drop (k + 1 + t.encode.length)) := by
    unfold splice
    rw [htake, List.append_assoc, List.append_assoc, List.drop_left' hlength]
    rfl
  rw [hsplice, List.cons_append, List.append_assoc] at hdrop
  exact ⟨_, hdrop⟩

/-- A recognisable partition table that lies after a zero is read back. -/
theorem Readable.ofSector_of_partitionTable (h : s.Readable) {t : PartitionTable}
    (ht : t.IsRecognised) (hsome : s.partitionTable = some t)
    (hzero : s.code[diskSignatureOffset - 1 - s.codeStart]? = some 0) (rest : List UInt8) :
    PartitionTable.ofSector (s.encode ++ rest) = some t := by
  obtain ⟨more, hdrop⟩ := h.drop_encode_of_partitionTable hsome hzero rest
  exact PartitionTable.ofSector_of_encode ht hdrop

/-- What makes a boot sector be read back with its partition table: the table is recognisable and
lies after a zero, or there is none and the boot code only prints a message. -/
structure Faithful (s : BootSector) : Prop where
  /-- A driver accepts the boot sector. -/
  readable : s.Readable
  /-- The partition table is recognised if there is one. -/
  partitionTable : match s.partitionTable with
    | none => PrintsMessage s.code
    | some t => t.IsRecognised ∧ s.code[diskSignatureOffset - 1 - s.codeStart]? = some 0

/-- A faithful boot sector is read back, with its boot code as it lies under the partition table. -/
theorem Faithful.decode_encode (h : s.Faithful) (rest : List UInt8) :
    decode (s.encode ++ rest) = some { s with code := s.codeOnDisk } := by
  have htable : PartitionTable.ofSector (s.encode ++ rest) = s.partitionTable := by
    have hmatch := h.partitionTable
    cases hsome : s.partitionTable with
    | none =>
      rw [hsome] at hmatch
      exact h.readable.ofSector_of_printsMessage hmatch hsome rest
    | some t =>
      rw [hsome] at hmatch
      exact h.readable.ofSector_of_partitionTable hmatch.1 hsome hmatch.2 rest
  rw [h.readable.decode_encode, htable]

end BootSector

end FatVolume
