import FatVolume.Proofs.Table.Defects
import FatVolume.Table

/-!
# Packed tables are read back

Entries that do not exceed the mask of their width are read back from a packed table, whatever bytes
follow it (`unpack_of_pack`).
-/

namespace FatVolume

namespace Width

/-- A packed table consists of bytes. -/
theorem packedByte_lt (w : Width) (entry : Nat → Nat) (i : Nat) : w.packedByte entry i < 256 := by
  unfold packedByte
  cases w with
  | fat12 =>
    dsimp only
    split <;> omega
  | fat16 => exact Nat.mod_lt _ (by decide)
  | fat32 => exact Nat.mod_lt _ (by decide)

/-- The first of three bytes has the low bits of the first of two entries of 12 bits. -/
theorem packedByte_first (entry : Nat → Nat) (k : Nat) :
    fat12.packedByte entry (3 * k) = entry (2 * k) % 256 := by
  unfold packedByte
  dsimp only
  rw [Nat.mul_mod_right, Nat.mul_div_cancel_left k (by decide)]
  rfl

/-- The second of three bytes has the high bits of the first entry and the low ones of the second. -/
theorem packedByte_second (entry : Nat → Nat) (k : Nat) :
    fat12.packedByte entry (3 * k + 1) =
      entry (2 * k) / 256 % 16 + entry (2 * k + 1) % 16 * 16 := by
  unfold packedByte
  dsimp only
  rw [(by omega : (3 * k + 1) % 3 = 1), (by omega : (3 * k + 1) / 3 = k)]
  rfl

theorem packedByte_third (entry : Nat → Nat) (k : Nat) :
    fat12.packedByte entry (3 * k + 2) = entry (2 * k + 1) / 16 % 256 := by
  unfold packedByte
  dsimp only
  rw [(by omega : (3 * k + 2) % 3 = 2), (by omega : (3 * k + 2) / 3 = k)]
  rfl

/-- An entry is read back from the bytes that it was packed in. Entries of 12 bits come in pairs
that share three bytes, the second of them being split; the upper four bits of 32 belong to no
entry. -/
theorem unpackedEntry_packedByte (w : Width) {entry byte : Nat → Nat} {count n : Nat}
    (hn : n < count) (hentry : entry n ≤ w.mask)
    (hbyte : ∀ i, i < w.tableBytes count → byte i = w.packedByte entry i) :
    w.unpackedEntry byte n = entry n := by
  cases w with
  | fat12 =>
    simp only [mask, valueBits, tableBytes] at hentry hbyte
    show (if n % 2 = 0 then byte (n * 3 / 2) + byte (n * 3 / 2 + 1) % 16 * 256
      else byte (n * 3 / 2) / 16 + byte (n * 3 / 2 + 1) * 16) = entry n
    rcases Nat.even_or_odd' n with ⟨k, rfl | rfl⟩
    · rw [if_pos (Nat.mul_mod_right 2 k), (by omega : 2 * k * 3 / 2 = 3 * k),
        hbyte _ (by omega), hbyte _ (by omega), packedByte_first, packedByte_second]
      omega
    · rw [if_neg (by omega), (by omega : (2 * k + 1) * 3 / 2 = 3 * k + 1),
        hbyte _ (by omega), hbyte _ (by omega), packedByte_second, packedByte_third]
      omega
  | fat16 =>
    simp only [mask, valueBits, tableBytes] at hentry hbyte
    show byte (2 * n) + 256 * byte (2 * n + 1) = entry n
    have hindex : 2 * n / 2 = n ∧ 2 * n % 2 = 0 ∧ (2 * n + 1) / 2 = n ∧ (2 * n + 1) % 2 = 1 := by
      omega
    rw [hbyte _ (by omega), hbyte _ (by omega)]
    simp only [packedByte, hindex]
    omega
  | fat32 =>
    simp only [mask, valueBits, tableBytes] at hentry hbyte
    show fat32.value (byte (4 * n) + 256 * byte (4 * n + 1) + 65536 * byte (4 * n + 2) +
      16777216 * byte (4 * n + 3)) = entry n
    have hvalue : fat32.value (entry n) = entry n := Nat.mod_eq_of_lt (by
      simp only [valueBits]
      omega)
    have hpart : ∀ part, part < 4 → byte (4 * n + part) = entry n / 256 ^ part % 256 := by
      intro part hpart
      rw [hbyte _ (by omega)]
      show fat32.value (entry ((4 * n + part) / 4)) / 256 ^ ((4 * n + part) % 4) % 256 = _
      rw [(by omega : (4 * n + part) / 4 = n), (by omega : (4 * n + part) % 4 = part), hvalue]
    have hzero := hpart 0 (by decide)
    rw [Nat.add_zero] at hzero
    rw [hzero, hpart 1 (by decide), hpart 2 (by decide), hpart 3 (by decide)]
    simp only [value, valueBits]
    omega

end Width

namespace Buffer

/-- The byte at an index as a number is that of the buffer's data. -/
theorem byteAt_eq (buffer : ByteArray) (i : Nat) :
    byteAt buffer i = (buffer.data[i]?.map UInt8.toNat).getD 0 := by
  have hsize : buffer.data.size = buffer.size := ByteArray.size_data
  unfold byteAt
  split
  · rw [Array.getElem?_eq_getElem (by omega)]
    rfl
  · rw [Array.getElem?_eq_none (by omega)]
    rfl

/-- A buffer that is only made longer is filled with zeros. -/
theorem resize_of_le {buffer : ByteArray} {n : Nat} (hn : buffer.size ≤ n) :
    resize buffer n = buffer ++ zeros (n - buffer.size) := by
  unfold resize
  split
  · have hsize : buffer.size = n := by omega
    rw [hsize, Nat.sub_self]
    refine ByteArray.ext ?_
    rw [ByteArray.data_append, ByteArray.data_extract, zeros, data_filled, Array.replicate_zero,
      Array.append_empty, ← hsize, ← ByteArray.size_data, Array.extract_size]
  · rfl

/-- A buffer that is only made longer keeps its bytes. -/
theorem byteAt_resize {buffer : ByteArray} {n i : Nat} (hn : buffer.size ≤ n)
    (hi : i < buffer.size) : byteAt (resize buffer n) i = byteAt buffer i := by
  have hsize : buffer.data.size = buffer.size := ByteArray.size_data
  rw [byteAt_eq, byteAt_eq, resize_of_le hn, ByteArray.data_append,
    Array.getElem?_append_left (by omega)]

/-- A generated buffer has the byte of each index. -/
theorem byteAt_generate {n i : Nat} (hi : i < n) (f : Nat → UInt8) :
    byteAt (generate n f) i = (f i).toNat := by
  rw [byteAt_eq, data_generate, Array.getElem?_map, Array.getElem?_range, if_pos hi]
  rfl

end Buffer

namespace Table

/-- The bytes of a packed table are those that `Width.packedByte` makes of its entries. -/
theorem byteAt_pack (t : Table) {i : Nat} (hi : i < t.width.tableBytes t.entryCount) :
    Buffer.byteAt t.pack i = t.width.packedByte (fun n => t.entries[n]?.getD 0) i := by
  unfold pack
  rw [Buffer.byteAt_generate hi]
  exact UInt8.toNat_ofNat_of_lt' (t.width.packedByte_lt _ i)

/-- A packed table has the bytes of its width and its number of entries. -/
theorem size_pack (t : Table) : t.pack.size = t.width.tableBytes t.entryCount :=
  Buffer.size_generate _ _

/-- A table whose entries do not exceed the mask, and whose bad clusters are counted, is read back
as sealed from all bytes that start with it. -/
theorem unpack_of_pack {t : Table} (hentry : ∀ i : Nat, t.entries[i]?.getD 0 ≤ t.width.mask)
    (hbad : t.badClusters = (t.entries.toList.drop reservedEntries).countP t.width.isBad)
    {bytes : ByteArray} (hsize : t.pack.size ≤ bytes.size)
    (hbyte : ∀ i, i < t.pack.size → Buffer.byteAt bytes i = Buffer.byteAt t.pack i) :
    unpack t.width t.entryCount bytes = .ok t.sealReserved := by
  rw [size_pack] at hsize hbyte
  have hentries : Array.ofFn (fun i : Fin t.entryCount =>
      t.width.unpackedEntry (Buffer.byteAt bytes) i) = t.entries := by
    refine Array.ext (Array.size_ofFn) fun i hi hlt => ?_
    rw [Array.getElem_ofFn, t.width.unpackedEntry_packedByte hlt (hentry i)
        fun j hj => (hbyte j hj).trans (t.byteAt_pack hj),
      Array.getElem?_eq_getElem hlt, Option.getD_some]
  unfold unpack
  dsimp only
  rw [if_neg (by omega), hentries, ← hbad]
  rfl

/-- A sealed table is read back from a buffer that it was put into. -/
theorem unpack_resize_pack {t : Table} (hentry : ∀ i : Nat, t.entries[i]?.getD 0 ≤ t.width.mask)
    (hbad : t.badClusters = (t.entries.toList.drop reservedEntries).countP t.width.isBad)
    (hsealed : t.sealed = true) {n : Nat} (hn : t.width.tableBytes t.entryCount ≤ n) :
    unpack t.width t.entryCount (Buffer.resize t.pack n) = .ok t := by
  rw [← size_pack] at hn
  have hsame : t.sealReserved = t := by
    unfold sealReserved
    rw [← hsealed]
  rw [unpack_of_pack hentry hbad (by rw [Buffer.size_resize]; exact hn)
    fun i hi => Buffer.byteAt_resize hn hi, hsame]

/-- A table with bad clusters is read back from a copy that has room for it. -/
theorem unpack_withDefects {l : Layout} (h : l.Sound) {bad : Finset Nat} (hbad : bad ⊆ l.clusters)
    (media : UInt8) (root : Option Nat) :
    unpack l.width (l.clusterCount + reservedEntries)
        (Buffer.resize (withDefects l media bad root).pack l.tableAreaBytes) =
      .ok (withDefects l media bad root) := by
  have hcount : (withDefects l media bad root).entryCount = l.clusterCount + reservedEntries :=
    entryCount_withDefects
  have hread := unpack_resize_pack (t := withDefects l media bad root) (n := l.tableAreaBytes)
    (fun i => by
      rw [getElem?_withDefects]
      split
      · exact freshEntry_le_mask _ i
      · exact Nat.zero_le _)
    (badClusters_withDefects hbad) rfl (by rw [hcount]; exact h.tableBytes_le)
  rwa [hcount] at hread

end Table

end FatVolume
