import FatVolume.Proofs.Boot.Edits

/-!
# What the boot code prints

A message is cut by counting its bytes when it is set, and by looking for its zero when a partition
table is set. Both leave the same: the stub, as much of the message as ends before the limit, and
zeros (`codeHolding`). So after any changes the boot code is that of the last message, with the limit
of a partition table if one was ever set (`code_afterEdits`), and the order of a message and a table
makes no difference.
-/

namespace FatVolume.BootSector

/-- Offset of the sector before which a message ends: that of the disk signature if there is a
partition table, that of the signature of the sector otherwise. -/
def messageLimit (table : Bool) : Nat := if table then diskSignatureOffset else codeEnd

/-- Bytes that boot code at an offset has for a message without its zero. -/
def messageRoom (offset : Nat) (table : Bool) : Nat :=
  messageLimit table - offset - (stubBytes + 1)

/-- Boot code at an offset with as much of a message as ends before its limit. -/
def codeHolding (offset : Nat) (table : Bool) (message : List UInt8) : List UInt8 :=
  filled (codeEnd - offset) (stub offset ++ (Message.body message).take (messageRoom offset table))

/-- The stub and a cut message, cut after the stub. -/
theorem take_stub_append {offset k : Nat} (hk : stubBytes ≤ k) (text : List UInt8) :
    (stub offset ++ text).take k = stub offset ++ text.take (k - stubBytes) := by
  rw [List.take_append, length_stub, List.take_of_length_le (by rw [length_stub]; exact hk)]

variable {s : BootSector}

/-- The room for a message and its zero is what the stub leaves before the limit. -/
theorem Readable.messageCapacity_eq (h : s.Readable) :
    s.messageCapacity = messageRoom s.codeStart s.partitionTable.isSome + 1 := by
  have hstart := s.codeStart_le
  unfold BootSector.messageCapacity messageRoom messageLimit
  rw [h.length_code]
  simp only [diskSignatureOffset, codeEnd, stubBytes]
  split <;> omega

/-- A message that is set is held up to the limit. -/
theorem Readable.code_setMessage (h : s.Readable) (message : List UInt8) :
    (s.setMessage message).code =
      codeHolding s.codeStart s.partitionTable.isSome message := by
  rw [h.setMessage_eq, h.messageCapacity_eq, Nat.add_sub_cancel, h.length_code]
  rfl

/-- A partition table cuts the message that the boot code holds to its own limit. -/
theorem Readable.codeHolding_setPartitionTable (h : s.Readable) (hprints : PrintsMessage s.code)
    {table : Bool} {message : List UInt8} (hcode : s.code = codeHolding s.codeStart table message)
    (t : PartitionTable) :
    (s.setPartitionTable t).code = codeHolding s.codeStart true message := by
  obtain ⟨-, hstub⟩ := s.codeStart_add
  have hstart := s.codeStart_le
  have hroom : min (diskSignatureOffset - 1 - s.codeStart - stubBytes)
      (messageRoom s.codeStart table) = messageRoom s.codeStart true := by
    unfold messageRoom messageLimit
    simp only [diskSignatureOffset, codeEnd, stubBytes] at hstub ⊢
    cases table <;> simp <;> omega
  rw [h.setPartitionTable_eq hprints, h.length_code, hcode]
  unfold codeHolding
  rw [filled_take_filled (by simp only [diskSignatureOffset, codeEnd]; omega),
    take_stub_append hstub, List.take_take, hroom]

/-- A boot sector that a driver accepts, whose code holds a message up to the limit that its partition
table leaves. -/
structure Holds (s : BootSector) (message : List UInt8) : Prop where
  /-- A driver accepts the boot sector. -/
  readable : s.Readable
  /-- The boot code prints a message. -/
  prints : PrintsMessage s.code
  /-- The boot code is that of the message. -/
  code : s.code = codeHolding s.codeStart s.partitionTable.isSome message

/-- The message that a change sets. -/
def Edit.message? : Edit → Option (List UInt8)
  | .message bytes => some bytes
  | .partitionTable _ => none

/-- A message that is set is held. -/
theorem Readable.holds_setMessage (h : s.Readable) (message : List UInt8) :
    (s.setMessage message).Holds message where
  readable := h.setMessage message
  prints := (h.setMessage_code message).1
  code := h.code_setMessage message

namespace Holds

variable {message : List UInt8}

/-- A partition table keeps the message. -/
theorem setPartitionTable (h : s.Holds message) (t : PartitionTable) :
    (s.setPartitionTable t).Holds message where
  readable := h.readable.setPartitionTable t
  prints := (h.readable.setPartitionTable_code h.prints t).1
  code := h.readable.codeHolding_setPartitionTable h.prints h.code t

/-- After changes the last message that was set is held, or the one before if none was set. A
message takes the place of the one that is held, a partition table leaves it. -/
theorem afterEdits (h : s.Holds message) (edits : List Edit) :
    (s.afterEdits edits).Holds ((edits.filterMap Edit.message?).getLastD message) := by
  unfold BootSector.afterEdits
  induction edits generalizing s message with
  | nil => exact h
  | cons e rest ih =>
    cases e with
    | message bytes =>
      show (rest.foldl edit (s.setMessage bytes)).Holds
        ((bytes :: rest.filterMap Edit.message?).getLastD message)
      rw [List.getLastD_cons]
      exact ih (h.readable.holds_setMessage bytes)
    | partitionTable t => exact ih (h.setPartitionTable t)

/-- A message and a partition table can be set in either order. -/
theorem setMessage_setPartitionTable (h : s.Holds message) (m : List UInt8) (t : PartitionTable) :
    (s.setMessage m).setPartitionTable t = (s.setPartitionTable t).setMessage m := by
  have hfirst := ((h.readable.holds_setMessage m).setPartitionTable t).code
  have hsecond := ((h.setPartitionTable t).readable.holds_setMessage m).code
  have hsame : ((s.setMessage m).setPartitionTable t).code =
      ((s.setPartitionTable t).setMessage m).code := hfirst.trans hsecond.symm
  show { s with code := ((s.setMessage m).setPartitionTable t).code, partitionTable := some t } =
    { s with code := ((s.setPartitionTable t).setMessage m).code, partitionTable := some t }
  rw [hsame]

end Holds

/-- The boot sector of a sound layout holds the default message. -/
theorem holds_fresh {l : Layout} (h : l.Sound) (g : Geometry) (v : VolumeInfo) (backup : UInt16) :
    (fresh l g v backup).Holds Message.default :=
  (readable_blank h g v backup).holds_setMessage _

/-- After changes there is a partition table if one was set. -/
theorem isSome_partitionTable_afterEdits (s : BootSector) (edits : List Edit)
    (hnone : s.partitionTable = none) :
    (s.afterEdits edits).partitionTable.isSome = decide (edits.filterMap Edit.table? ≠ []) := by
  rw [partitionTable_afterEdits, hnone, Option.or_none]
  cases edits.filterMap Edit.table? with
  | nil => rfl
  | cons t rest => simp

/-- The stub has 29 bytes, and the address in it is that of the byte after it. -/
theorem leValue_stub (fat32 : Bool) :
    leValue (((stub (codeOffset fat32)).drop 3).take 2) =
      loadAddress + codeOffset fat32 + stubBytes := by
  cases fat32 <;> decide

/-- The boot code before a limit has room for the stub and a zero. -/
theorem lt_messageLimit (fat32 table : Bool) :
    codeOffset fat32 + stubBytes < messageLimit table ∧ messageLimit table ≤ codeEnd := by
  cases fat32 <;> cases table <;> decide

/-- For every device and all options, whatever else the boot sector of the computed layout records and
however messages and partition tables were set: the boot code is the stub, with the address of the
byte after it, the bytes of the last message that end with a zero before the limit, and zeros. The
limit is the disk signature if a partition table was ever set, and the end of the boot code otherwise.
A message and a partition table can be set in either order. -/
theorem code_afterEdits (g : Geometry) (o : Layout.Options) (l : Layout)
    (h : Layout.compute g o = .ok l) (v : VolumeInfo) (backup : UInt16) (edits : List Edit) :
    let s := (fresh l g v backup).afterEdits edits
    let offset := codeOffset (l.width = .fat32)
    let limit := if edits.filterMap Edit.table? = [] then codeEnd else diskSignatureOffset
    let message := (edits.filterMap Edit.message?).getLastD Message.default
    let text := (Message.encode message).dropLast.take (limit - offset - (stubBytes + 1))
    s.code = stub offset ++ text ++
      List.replicate (codeEnd - offset - (stubBytes + text.length)) 0 ∧
    (stub offset).length = stubBytes ∧
    leValue (((stub offset).drop 3).take 2) = loadAddress + offset + stubBytes ∧
    (∀ b ∈ text, b ≠ 0) ∧ offset + stubBytes + text.length < limit ∧
    ∀ m t, (s.setMessage m).setPartitionTable t = (s.setPartitionTable t).setMessage m := by
  intro s offset limit message text
  have hholds : s.Holds message :=
    (holds_fresh (Layout.sound_of_compute h) g v backup).afterEdits edits
  have hoffset : s.codeStart = offset :=
    congrArg codeOffset ((congrArg (fun s => s.fat32.isSome)
      (afterEdits_eq (fresh l g v backup) edits)).trans (isSome_fat32_fresh l g v backup))
  have hlimit : messageLimit s.partitionTable.isSome = limit := by
    rw [isSome_partitionTable_afterEdits _ edits rfl]
    unfold messageLimit
    simp only [decide_eq_true_eq, ne_eq, ite_not, limit]
  have htext : (Message.body message).take (messageRoom offset s.partitionTable.isSome) = text := by
    unfold messageRoom
    rw [hlimit]
    simp only [text, Message.encode, List.dropLast_concat]
  have hroom := (lt_messageLimit (decide (l.width = .fat32)) s.partitionTable.isSome).1
  rw [hlimit] at hroom
  have hlength : text.length ≤ limit - offset - (stubBytes + 1) := List.length_take_le _ _
  refine ⟨?_, length_stub _, leValue_stub _, fun b hb => ?_, ?_,
    fun m t => hholds.setMessage_setPartitionTable m t⟩
  · rw [hholds.code, hoffset]
    unfold codeHolding filled
    rw [htext, List.length_append, length_stub]
  · rw [← htext] at hb
    exact Message.ne_zero_of_mem_body (List.mem_of_mem_take hb)
  · show offset + stubBytes + text.length < limit
    omega

/-- On a FAT32 volume a long message is cut before the place of the partition table that was set
before it, as a later table would cut it. -/
theorem code_afterEdits_fat32 :
    ∃ l, Layout.compute ⟨512, 1200000, ⟨255, 63⟩, 0⟩ {} = .ok l ∧ l.width = .fat32 ∧
      let t : PartitionTable := ⟨0x12345678, Partition.spanning 0x0C 0 1200000 ⟨255, 63⟩⟩
      let s := (fresh l ⟨512, 1200000, ⟨255, 63⟩, 0⟩
        ⟨Label.unnamed, 0, 0x80, 0xF8, Moment.epoch⟩ 6).afterEdits
          [.message [0x41, 0x0A], .partitionTable t, .message (List.replicate 600 0x42)]
      s.code = stub 0x5A ++ List.replicate 320 0x42 ++ List.replicate 71 0 := by
  have hl := Layout.compute_hardDisk
  obtain ⟨hcode, -⟩ := code_afterEdits _ _ _ hl ⟨Label.unnamed, 0, 0x80, 0xF8, Moment.epoch⟩ 6
    [.message [0x41, 0x0A],
      .partitionTable ⟨0x12345678, Partition.spanning 0x0C 0 1200000 ⟨255, 63⟩⟩,
      .message (List.replicate 600 0x42)]
  refine ⟨_, hl, rfl, hcode.trans ?_⟩
  decide +kernel

end FatVolume.BootSector
