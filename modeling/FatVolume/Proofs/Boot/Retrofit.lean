import FatVolume.Proofs.Boot.Edits
import FatVolume.Proofs.Boot.Foreign

/-!
# Partition tables in boot sectors of any origin

A partition table is recognised by the zero before it. The boot code of another system need not have
one there: the table ends a message that reaches its place with a zero, and leaves code alone that
holds a zero between the stub and the last byte before the table. Such a table is not recognised
again (`decode_setPartitionTable`).
-/

namespace FatVolume

/-- The parameters of FAT32 are read locally. -/
theorem Fat32Extension.isLocal_reader : Reader.IsLocal reader := by
  unfold reader
  exact .bind .word32 fun _ => .bind .word16 fun _ => .bind .word16 fun _ => .bind .word32 fun _ =>
    .bind .word16 fun _ => .bind .word16 fun _ => .bind (.bytes _) fun _ => .pure _

/-- A list starts with so many members of a kind just if none of the first ones is of another. -/
theorem le_length_takeWhile_iff {α : Type} {p : α → Bool} {l : List α} {m : Nat}
    (hm : m ≤ l.length) : m ≤ (l.takeWhile p).length ↔ ∀ a ∈ l.take m, p a = true := by
  induction l generalizing m with
  | nil => simp_all
  | cons b rest ih =>
    cases m with
    | zero => simp
    | succ m =>
      rw [List.length_cons, Nat.add_le_add_iff_right] at hm
      rw [List.takeWhile_cons, List.take_succ_cons, List.forall_mem_cons, ← ih hm]
      by_cases hb : p b = true
      · simp [hb]
      · simp [hb]

namespace BootSector

/-- A boot sector is read locally. -/
theorem isLocal_reader : Reader.IsLocal reader := by
  unfold reader
  refine .bind (.field 3) fun _ => .bind (.field 8) fun _ => .bind .word16 fun _ =>
    .bind .word8 fun _ => .bind .word16 fun _ => .bind .word8 fun _ => .bind .word16 fun _ =>
    .bind .word16 fun _ => .bind .word8 fun _ => .bind .word16 fun _ => .bind .word16 fun _ =>
    .bind .word16 fun _ => .bind .word32 fun _ => .bind .word32 fun _ => ?_
  dsimp only
  refine .ite ?_ (.failure_bind _)
  refine .ite (.bind (.map _ Fat32Extension.isLocal_reader) fun _ => ?_) (.bind (.pure _) fun _ => ?_)
  all_goals
    refine .bind .word8 fun _ => .bind .word8 fun _ => .bind .word8 fun _ => .bind .word32 fun _ =>
      .bind (.field 11) fun _ => .bind (.field 8) fun _ => .bind (.bytes _) fun _ =>
      .bind .word16 fun _ => ?_
    exact .ite (.failure_bind _) (.pure _)

/-- A string that a boot sector is read from has all of its bytes. The same is read from it with
zeros behind it, and that takes 512 bytes of it. -/
theorem le_length_of_decode {bytes : List UInt8} {s : BootSector} (h : decode bytes = some s) :
    recordBytes ≤ bytes.length := by
  obtain ⟨⟨parameters, left⟩, hread, -⟩ := Option.bind_eq_some_iff.1 h
  have hlong := isLocal_reader bytes parameters left hread (List.replicate recordBytes 0)
  have hle : recordBytes ≤ (bytes ++ List.replicate recordBytes 0).length := by
    rw [List.length_append, List.length_replicate]
    exact Nat.le_add_left _ _
  obtain ⟨r, rest, hsplit⟩ := RawSector.exists_encode hle
  have hraw := reader_headWith r.isSome_fat32 r.length_code r.length_gap r.spare r.signature rest
  change reader (r.encode ++ rest) = _ at hraw
  rw [hsplit, hraw] at hlong
  obtain ⟨-, hsame⟩ := Option.ite_none_right_eq_some.1 hlong
  have hrest : rest = left ++ List.replicate recordBytes 0 :=
    congrArg Prod.snd (Option.some.inj hsame)
  have hlength := congrArg List.length hsplit
  rw [hrest, List.length_append, List.length_append, List.length_append,
    r.length_encode] at hlength
  omega

/-- What is read is a boot sector that a driver accepts. -/
theorem readable_of_decode {bytes : List UInt8} {s : BootSector} (h : decode bytes = some s) :
    s.Readable := by
  obtain ⟨r, rest, hbytes⟩ := RawSector.exists_encode (le_length_of_decode h)
  rw [hbytes] at h
  obtain ⟨haccepted, hs⟩ := (r.decode_append_eq_some_iff rest).1 h
  rw [hs]
  exact haccepted.readable (PartitionTable.ofSector (r.encode ++ rest))

/-- Whether a partition table that is set is recognised: there is a zero before its place already, or
no zero at all between the stub and there, so that one is set. -/
def ShowsTable (s : BootSector) : Prop :=
  s.code[diskSignatureOffset - 1 - s.codeStart]? = some 0 ∨
    0 ∉ (s.code.drop stubBytes).take (diskSignatureOffset - 1 - s.codeStart - stubBytes)

instance (s : BootSector) : Decidable s.ShowsTable := inferInstanceAs (Decidable (_ ∨ _))

variable {s : BootSector}

/-- A message reaches the place of a partition table just if no zero ends it before. -/
theorem Readable.messageOverlaps_iff (h : s.Readable) :
    s.messageOverlaps = true ↔
      0 ∉ (s.code.drop stubBytes).take (diskSignatureOffset - s.codeStart - stubBytes) := by
  obtain ⟨hk, hstub⟩ := s.codeStart_add
  have hlt := h.lt_length_code
  have hle : diskSignatureOffset - s.codeStart - stubBytes ≤ (s.code.drop stubBytes).length := by
    rw [List.length_drop]
    omega
  have hreach := le_length_takeWhile_iff (p := (· ≠ 0)) hle
  unfold messageOverlaps messageLength
  rw [decide_eq_true_eq, ← Nat.sub_le_iff_le_add', hreach]
  simp only [decide_eq_true_eq]
  exact ⟨fun hall hzero => hall 0 hzero rfl, fun hnone b hb hzero => hnone (hzero ▸ hb)⟩

/-- The byte before a partition table that was set is zero just if the table is to be recognised. -/
theorem Readable.getElem?_setPartitionTable (h : s.Readable) (t : PartitionTable) :
    ∃ b, (s.setPartitionTable t).code[diskSignatureOffset - 1 - s.codeStart]? = some b ∧
      (b = 0 ↔ s.ShowsTable) := by
  obtain ⟨hk, hstub⟩ := s.codeStart_add
  have hlt := h.lt_length_code
  have hbefore := h.length_codeBeforeTable
  have hoverlaps := h.messageOverlaps_iff
  rw [h.code_setPartitionTable t]
  unfold ShowsTable filled
  rw [List.getElem?_append_left (by omega)]
  unfold codeBeforeTable
  rw [hk] at hlt hoverlaps ⊢
  generalize diskSignatureOffset - 1 - s.codeStart = k at hstub hlt hoverlaps ⊢
  have hget : s.code[k]? = some s.code[k] := List.getElem?_eq_getElem (by omega)
  have hlast : (s.code.drop stubBytes).take (k + 1 - stubBytes) =
      (s.code.drop stubBytes).take (k - stubBytes) ++ [s.code[k]] := by
    rw [Nat.sub_add_comm hstub, List.take_add_one, List.getElem?_drop, Nat.add_sub_cancel' hstub, hget]
    rfl
  rw [hlast, List.mem_append, List.mem_singleton, not_or] at hoverlaps
  rw [hget, Option.some.injEq]
  by_cases hmessage : s.messageOverlaps = true
  · rw [if_pos hmessage]
    refine ⟨0, ?_, iff_of_true rfl (Or.inr (hoverlaps.1 hmessage).1)⟩
    rw [List.getElem?_append_right (List.length_take_le _ _), List.length_take_of_le (by omega),
      Nat.sub_self]
    rfl
  · rw [if_neg hmessage, List.getElem?_take_of_lt (Nat.lt_succ_self k)]
    refine ⟨_, hget, fun hzero => Or.inl hzero, ?_⟩
    rintro (hzero | hnone)
    · exact hzero
    · by_contra hne
      exact hmessage (hoverlaps.2 ⟨hnone, fun heq => hne heq.symm⟩)

/-- A partition table that is set is in the bytes of the boot sector just if it is to be
recognised. -/
theorem Readable.ofSector_setPartitionTable (h : s.Readable) {t : PartitionTable}
    (ht : t.IsRecognised) (rest : List UInt8) :
    PartitionTable.ofSector ((s.setPartitionTable t).encode ++ rest) =
      if s.ShowsTable then some t else none := by
  obtain ⟨b, hbyte, hzero⟩ := h.getElem?_setPartitionTable t
  obtain ⟨more, hdrop⟩ := (h.setPartitionTable t).drop_encode_of_partitionTable rfl hbyte rest
  by_cases hshows : s.ShowsTable
  · rw [hzero.2 hshows] at hdrop
    rw [if_pos hshows]
    exact PartitionTable.ofSector_of_encode ht hdrop
  · rw [if_neg hshows]
    exact PartitionTable.ofSector_of_ne_zero (mt hzero.1 hshows) hdrop

/-- **A partition table that is set is recognised again where a zero precedes it.** For every string
that a boot sector is read from and every table with a partition of some kind that starts at the
first sector: with the table set, the boot sector is written to 512 bytes and read from them again.
It has the table just if the byte before the disk signature was zero, or if there was no zero between
the stub and that byte, so that setting the table put one there. Otherwise no table is found. -/
theorem decode_setPartitionTable {bytes : List UInt8} (h : decode bytes = some s)
    {t : PartitionTable} (ht : t.Spans) :
    ∃ sector d, (s.setPartitionTable t).toSector recordBytes = .ok sector ∧
      decode sector = some d ∧ d.partitionTable = if s.ShowsTable then some t else none := by
  have hreadable := readable_of_decode h
  have hread := (hreadable.setPartitionTable t).decode_encode
    (List.replicate (recordBytes - recordBytes) 0)
  rw [hreadable.ofSector_setPartitionTable ht.isRecognised] at hread
  exact ⟨_, _, toSector_of_le _ (Nat.le_refl recordBytes), hread, rfl⟩

/-- A boot sector of another system without a partition table: a zero follows the start of the boot
code, and the byte before the place of the disk signature is none. -/
def foreignCode : List UInt8 :=
  [0xEB, 0x3C, 0x90, 0x46, 0x4F, 0x52, 0x45, 0x49, 0x47, 0x4E, 0x20, 0, 2, 1, 1, 0, 2, 0xE0, 0, 0x40,
    0x0B, 0xF0, 9, 0, 0x12, 0, 2, 0] ++ List.replicate 411 0 ++ [0x99] ++ List.replicate 70 0
    ++ [0x55, 0xAA]

/-- A partition table that is set on a boot sector of another system can be lost. -/
theorem decode_setPartitionTable_foreignCode :
    let t : PartitionTable := ⟨0x12345678, Partition.spanning 1 0 2880 ⟨2, 18⟩⟩
    t.Spans ∧ ∃ s sector d, decode foreignCode = some s ∧
      (s.setPartitionTable t).toSector recordBytes = .ok sector ∧ decode sector = some d ∧
        d.partitionTable = none := by
  intro t
  have ht : t.Spans := ⟨1, 2880, ⟨2, 18⟩, by decide, rfl⟩
  have hsome : (decode foreignCode).isSome := by decide +kernel
  have hlost : (decode foreignCode).all (fun s => !decide s.ShowsTable) = true := by decide +kernel
  obtain ⟨s, hs⟩ := Option.isSome_iff_exists.1 hsome
  obtain ⟨sector, d, hsector, hd, htable⟩ := decode_setPartitionTable hs ht
  rw [hs] at hlost
  rw [if_neg (by simpa using hlost)] at htable
  exact ⟨ht, s, sector, d, hs, hsector, hd, htable⟩

end BootSector

end FatVolume
