import FatVolume.Proofs.Table.Edits
import FatVolume.Proofs.Table.Laying

/-!
# Tables and their bytes

Packing a table and reading it are inverse to each other in both directions. A table that was edited
in any way is read back from its bytes; bytes that are read give themselves when they are packed,
up to the bits that belong to no entry (`Width.keptByte`).
-/

namespace FatVolume

namespace Width

/-- What is left of byte `i` of a packed table when the table is read and packed again. The high
half of the last byte belongs to no entry if the number of 12-bit entries is odd, and the high bits
of a 32-bit entry do not count. -/
def keptByte (w : Width) (count : Nat) (byte : Nat → Nat) (i : Nat) : Nat :=
  match w with
  | fat12 => if count % 2 = 1 ∧ i + 1 = fat12.tableBytes count then byte i % 16 else byte i
  | fat16 => byte i
  | fat32 => if i % 4 = 3 then byte i % 16 else byte i

variable {byte : Nat → Nat} {count i : Nat}

/-- The first of two entries of 12 bits lies in one byte and half of the next. -/
theorem unpackedEntry_first (byte : Nat → Nat) (k : Nat) :
    fat12.unpackedEntry byte (2 * k) = byte (3 * k) + byte (3 * k + 1) % 16 * 256 := by
  unfold unpackedEntry
  dsimp only
  rw [if_pos (Nat.mul_mod_right 2 k), (by omega : 2 * k * 3 / 2 = 3 * k)]

theorem unpackedEntry_second (byte : Nat → Nat) (k : Nat) :
    fat12.unpackedEntry byte (2 * k + 1) = byte (3 * k + 1) / 16 + byte (3 * k + 2) * 16 := by
  unfold unpackedEntry
  dsimp only
  rw [if_neg (by omega), (by omega : (2 * k + 1) * 3 / 2 = 3 * k + 1)]

/-- Entries of 12 bits that are read from bytes make the bytes, up to the half byte at the end of an
odd number of them. -/
theorem packedByte_unpackedEntry_fat12 (hbyte : ∀ i, byte i < 256)
    (hi : i < fat12.tableBytes count) :
    fat12.packedByte (fun n => if n < count then fat12.unpackedEntry byte n else 0) i =
      fat12.keptByte count byte i := by
  have hsize : fat12.tableBytes count = (count * 3 + 1) / 2 := rfl
  unfold keptByte
  dsimp only
  obtain ⟨k, rfl | rfl | rfl⟩ : ∃ k, i = 3 * k ∨ i = 3 * k + 1 ∨ i = 3 * k + 2 :=
    ⟨i / 3, by omega⟩
  · have hlow := hbyte (3 * k)
    rw [packedByte_first, if_pos (by omega), if_neg (by omega), unpackedEntry_first]
    omega
  · have hlow := hbyte (3 * k)
    have hshared := hbyte (3 * k + 1)
    rw [packedByte_second, if_pos (by omega), unpackedEntry_first]
    by_cases hlast : 2 * k + 1 < count
    · rw [if_pos hlast, if_neg (by omega), unpackedEntry_second]
      omega
    · rw [if_neg hlast, if_pos (by omega)]
      omega
  · have hshared := hbyte (3 * k + 1)
    have hhigh := hbyte (3 * k + 2)
    rw [packedByte_third, if_pos (by omega), if_neg (by omega), unpackedEntry_second]
    omega

/-- Entries of 16 bits that are read from bytes make the bytes. -/
theorem packedByte_unpackedEntry_fat16 (hbyte : ∀ i, byte i < 256)
    (hi : i < fat16.tableBytes count) :
    fat16.packedByte (fun n => if n < count then fat16.unpackedEntry byte n else 0) i =
      fat16.keptByte count byte i := by
  simp only [tableBytes] at hi
  obtain ⟨k, hk⟩ : ∃ k, i / 2 = k := ⟨_, rfl⟩
  have h₀ := hbyte (2 * k)
  have h₁ := hbyte (2 * k + 1)
  show (if i / 2 < count then _ else 0) / 256 ^ (i % 2) % 256 = byte i
  rw [if_pos (by omega), hk]
  show (byte (2 * k) + 256 * byte (2 * k + 1)) / 256 ^ (i % 2) % 256 = byte i
  obtain hpart | hpart : i % 2 = 0 ∨ i % 2 = 1 := by omega
  · rw [hpart, (by omega : i = 2 * k)]
    omega
  · rw [hpart, (by omega : i = 2 * k + 1)]
    omega

/-- Entries of 32 bits that are read from bytes make the bytes, without the high bits of each. -/
theorem packedByte_unpackedEntry_fat32 (hbyte : ∀ i, byte i < 256)
    (hi : i < fat32.tableBytes count) :
    fat32.packedByte (fun n => if n < count then fat32.unpackedEntry byte n else 0) i =
      fat32.keptByte count byte i := by
  simp only [tableBytes] at hi
  obtain ⟨k, hk⟩ : ∃ k, i / 4 = k := ⟨_, rfl⟩
  have h₀ := hbyte (4 * k)
  have h₁ := hbyte (4 * k + 1)
  have h₂ := hbyte (4 * k + 2)
  have h₃ := hbyte (4 * k + 3)
  show fat32.value (if i / 4 < count then _ else 0) / 256 ^ (i % 4) % 256 =
    if i % 4 = 3 then byte i % 16 else byte i
  rw [if_pos (by omega), hk]
  show fat32.value (fat32.value (byte (4 * k) + 256 * byte (4 * k + 1) +
    65536 * byte (4 * k + 2) + 16777216 * byte (4 * k + 3))) / 256 ^ (i % 4) % 256 = _
  simp only [value, valueBits]
  obtain hpart | hpart | hpart | hpart : i % 4 = 0 ∨ i % 4 = 1 ∨ i % 4 = 2 ∨ i % 4 = 3 := by omega
  · rw [hpart, if_neg (by decide), (by omega : i = 4 * k)]
    omega
  · rw [hpart, if_neg (by decide), (by omega : i = 4 * k + 1)]
    omega
  · rw [hpart, if_neg (by decide), (by omega : i = 4 * k + 2)]
    omega
  · rw [hpart, if_pos rfl, (by omega : i = 4 * k + 3)]
    omega

/-- Entries that are read from bytes make the bytes, up to the bits that belong to no entry. -/
theorem packedByte_unpackedEntry (w : Width) (hbyte : ∀ i, byte i < 256)
    (hi : i < w.tableBytes count) :
    w.packedByte (fun n => if n < count then w.unpackedEntry byte n else 0) i =
      w.keptByte count byte i := by
  cases w with
  | fat12 => exact packedByte_unpackedEntry_fat12 hbyte hi
  | fat16 => exact packedByte_unpackedEntry_fat16 hbyte hi
  | fat32 => exact packedByte_unpackedEntry_fat32 hbyte hi

end Width

/-- A buffer keeps its bytes when others are put after it. -/
theorem Buffer.byteAt_append {buffer : ByteArray} {i : Nat} (hi : i < buffer.size)
    (rest : ByteArray) : byteAt (buffer ++ rest) i = byteAt buffer i := by
  rw [byteAt_eq, byteAt_eq, ByteArray.data_append,
    Array.getElem?_append_left (by rw [ByteArray.size_data]; exact hi)]

namespace Table

/-- A consistent table is read back as sealed, whatever bytes follow it. -/
theorem Consistent.unpack_pack_append {t : Table} (h : t.Consistent) (rest : ByteArray) :
    unpack t.width t.entryCount (t.pack ++ rest) = .ok t.sealReserved :=
  unpack_of_pack h.entry_le h.badClusters_eq
    (by rw [ByteArray.size_append]; exact Nat.le_add_right _ _)
    fun _ hi => Buffer.byteAt_append hi rest

/-- A table that is read has the bytes that it was read from, up to the bits that belong to no
entry. -/
theorem byteAt_pack_of_unpack {w : Width} {count i : Nat} {bytes : ByteArray} {t : Table}
    (h : unpack w count bytes = .ok t) (hi : i < w.tableBytes count) :
    Buffer.byteAt t.pack i = w.keptByte count (Buffer.byteAt bytes) i := by
  obtain ⟨-, rfl, -, hentries, -⟩ := unpack_eq_ok_iff.1 h
  have hcount : t.entryCount = count := by
    show t.entries.size = count
    rw [hentries, Array.size_ofFn]
  have hentry : (fun n => t.entries[n]?.getD 0) = fun n =>
      if n < count then t.width.unpackedEntry (Buffer.byteAt bytes) n else 0 := by
    funext n
    rw [hentries, Array.getElem?_ofFn]
    split <;> rfl
  rw [byteAt_pack t (hcount ▸ hi), hentry]
  exact t.width.packedByte_unpackedEntry (Buffer.byteAt_lt bytes) hi

/-- For every width and number of entries. A table that was edited in any way, from zeros, from the
table of a fresh volume or from one that was read, is packed into the bytes of its width, and is read
back with its entries and its bad clusters whatever bytes follow it. Fewer bytes than the width needs
are refused; from all others a table is read that is packed into the bytes it was read from, without
the bits that belong to no entry. Neither way touches an index that is not there. -/
theorem pack_unpack_roundTrip (w : Width) (entryCount : UInt32) :
    (∀ start, Starts w entryCount.toNat start → ∀ edits, let t := start.afterEdits edits
      t.pack.size = w.tableBytes entryCount.toNat ∧ t.layAll = .ok t.pack ∧
      ∀ rest, unpack w entryCount.toNat (t.pack ++ rest) = .ok t.sealReserved ∧
        fetchAll w entryCount.toNat (t.pack ++ rest) = .ok t.entries.toList) ∧
    ∀ bytes : ByteArray,
      (bytes.size < w.tableBytes entryCount.toNat →
        unpack w entryCount.toNat bytes =
          .error (.truncated bytes.size (w.tableBytes entryCount.toNat))) ∧
      (w.tableBytes entryCount.toNat ≤ bytes.size →
        ∃ t, unpack w entryCount.toNat bytes = .ok t ∧
          fetchAll w entryCount.toNat bytes = .ok t.entries.toList ∧ t.layAll = .ok t.pack ∧
          t.pack.size = w.tableBytes entryCount.toNat ∧
          ∀ i, i < t.pack.size → Buffer.byteAt t.pack i =
            w.keptByte entryCount.toNat (Buffer.byteAt bytes) i) := by
  have hfetch : ∀ bytes t, unpack w entryCount.toNat bytes = .ok t →
      t.entryCount = entryCount.toNat ∧
        fetchAll w entryCount.toNat bytes = .ok t.entries.toList := by
    intro bytes t ht
    obtain ⟨hsize, -, -, hentries, -⟩ := unpack_eq_ok_iff.1 ht
    refine ⟨(congrArg Array.size hentries).trans Array.size_ofFn, ?_⟩
    rw [fetchAll_eq hsize, hentries, Array.toList_ofFn, ← List.map_coe_finRange_eq_range,
      List.map_map, List.ofFn_eq_map]
    rfl
  refine ⟨fun start hstart edits => ?_, fun bytes => ⟨fun hshort => if_pos hshort, fun henough => ?_⟩⟩
  · obtain ⟨hconsistent, hwidth, hcount⟩ := consistent_afterEdits entryCount.toNat_lt hstart edits
    refine ⟨by rw [size_pack, hwidth, hcount], layAll_eq _, fun rest => ?_⟩
    have hread := hconsistent.unpack_pack_append rest
    rw [hwidth, hcount] at hread
    exact ⟨hread, (hfetch _ _ hread).2⟩
  · obtain ⟨t, ht⟩ : ∃ t, unpack w entryCount.toNat bytes = .ok t := ⟨_, if_neg (by omega)⟩
    obtain ⟨hcount, hentries⟩ := hfetch bytes t ht
    have hsize : t.pack.size = w.tableBytes entryCount.toNat := by
      rw [size_pack, hcount, (unpack_eq_ok_iff.1 ht).2.1]
    exact ⟨t, ht, hentries, layAll_eq t, hsize,
      fun i hi => byteAt_pack_of_unpack ht (hsize ▸ hi)⟩

/-- A table of three entries of 12 bits is read from five bytes and one that does not belong to it.
Packed again it loses the high half of the fifth byte; with its bad cluster freed it is read back
from its bytes and whatever follows them. -/
theorem pack_unpack_roundTrip_odd :
    ∃ t, unpack .fat12 3 ⟨#[0xF0, 0xFF, 0xFF, 0xF7, 0xFF, 0xAA]⟩ = .ok t ∧
      t.entries = #[0xFF0, 0xFFF, 0xFF7] ∧ t.badClusters = 1 ∧
      Buffer.byteAt t.pack 4 = 0x0F ∧
      t.afterEdits [.mark 2 0] = ⟨.fat12, #[0xFF0, 0xFFF, 0], 0, true⟩ ∧
      unpack .fat12 3 ((t.afterEdits [.mark 2 0]).pack ++ ⟨#[0xAA]⟩) =
        .ok ⟨.fat12, #[0xFF0, 0xFFF, 0], 0, true⟩ ∧
      unpack .fat12 3 ⟨#[0xF0, 0xFF, 0xFF, 0xF7]⟩ = .error (.truncated 4 5) := by
  have hread : unpack .fat12 3 ⟨#[0xF0, 0xFF, 0xFF, 0xF7, 0xFF, 0xAA]⟩ =
      .ok ⟨.fat12, #[0xFF0, 0xFFF, 0xFF7], 1, true⟩ := eq_ok_of_toOption (by decide +kernel)
  have hfreed : afterEdits ⟨.fat12, #[0xFF0, 0xFFF, 0xFF7], 1, true⟩ [.mark 2 0] =
      ⟨.fat12, #[0xFF0, 0xFFF, 0], 0, true⟩ := by decide +kernel
  obtain ⟨hedited, hbytes⟩ := pack_unpack_roundTrip .fat12 3
  obtain ⟨t, ht, -, -, hsize, hkept⟩ := (hbytes ⟨#[0xF0, 0xFF, 0xFF, 0xF7, 0xFF, 0xAA]⟩).2 (by decide)
  cases hread.symm.trans ht
  have hback := ((hedited _ (.unpack hread) [.mark 2 0]).2.2 ⟨#[0xAA]⟩).1
  refine ⟨_, hread, rfl, rfl, ?_, hfreed, ?_, (hbytes _).1 (by decide)⟩
  · exact hkept 4 (by rw [hsize]; decide)
  · exact hback.trans (by rw [hfreed]; rfl)

end Table

end FatVolume
