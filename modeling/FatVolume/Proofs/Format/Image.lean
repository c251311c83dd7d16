import FatVolume.Proofs.Format.Plan
import FatVolume.Proofs.Table.Packing
import FatVolume.Proofs.Volume.Image

/-!
# Images of formats

A disk on which a volume lies sector by sector holds its parts, whatever it held before
(`isFormatted_of_imageSector`): the parts of the volume lie where the reported layout has them, and
every other sector is as it was.
-/

namespace FatVolume

/-- The sector of the backup that a boot sector names, if it names one. -/
def BootSector.backupPlace (s : BootSector) : Option Nat :=
  s.fat32.bind fun e => if e.backupSector = 0 then none else some e.backupSector.toNat

namespace FreshVolume

variable {v : FreshVolume}

/-- The backup of a volume that is placed lies between the information sector and the table. -/
theorem Placed.backupPlace (h : v.Placed) {b : Nat} (hb : v.boot.backupPlace = some b) :
    ∃ info e, v.info = some info ∧ v.boot.fat32 = some e ∧ e.backupSector ≠ 0 ∧
      e.backupSector.toNat = b ∧ BootSector.infoSectorNumber < b ∧ b < v.layout.reservedSectors := by
  obtain ⟨e, he, hplace⟩ := Option.bind_eq_some_iff.1 hb
  have hsome : v.info.isSome = true := by
    rw [h.isSome_info, ← h.isSome_fat32, he]
    rfl
  obtain ⟨info, hinfo⟩ := Option.isSome_iff_exists.1 hsome
  by_cases hzero : e.backupSector = 0
  · rw [if_pos hzero] at hplace
    cases hplace
  · rw [if_neg hzero] at hplace
    cases hplace
    exact ⟨info, e, hinfo, he, hzero, rfl, h.backupSector e he hzero⟩

/-- The information sector follows the boot sector. -/
theorem Placed.reservedSector_info (h : v.Placed) {info : InfoSector} (hinfo : v.info = some info) :
    v.reservedSector BootSector.infoSectorNumber = v.infoBytes info := by
  have hsome : v.boot.fat32.isSome = true := by
    rw [h.isSome_fat32, ← h.isSome_info, hinfo]
    rfl
  obtain ⟨e, he⟩ := Option.isSome_iff_exists.1 hsome
  unfold reservedSector
  rw [if_neg (by decide), hinfo, he]
  exact if_pos rfl

/-- The backup of the boot sector is the boot sector. -/
theorem Placed.reservedSector_backup (h : v.Placed) {b : Nat} (hb : v.boot.backupPlace = some b) :
    v.reservedSector b = v.bootBytes := by
  obtain ⟨info, e, hinfo, he, hne, hvalue, hlt, -⟩ := h.backupPlace hb
  unfold reservedSector
  rw [if_neg (Nat.ne_zero_of_lt hlt), hinfo, he]
  dsimp only
  rw [if_neg hlt.ne', if_pos ⟨hne, hvalue.symm⟩]

/-- The backup of the information sector is the information sector. -/
theorem Placed.reservedSector_backupInfo (h : v.Placed) {b : Nat}
    (hb : v.boot.backupPlace = some b) :
    v.reservedSector (b + 1) = v.reservedSector BootSector.infoSectorNumber := by
  obtain ⟨info, e, hinfo, he, hne, hvalue, hlt, -⟩ := h.backupPlace hb
  rw [h.reservedSector_info hinfo]
  unfold reservedSector
  rw [if_neg (Nat.succ_ne_zero b), hinfo, he]
  dsimp only
  rw [if_neg (by omega), if_neg fun hn => by omega,
    if_pos ⟨hne, by rw [hvalue]; rfl⟩]

/-- All other reserved sectors are zeros. -/
theorem reservedSector_of_ne {n : Nat} (hboot : n ≠ 0)
    (hinfo : v.info.isSome = true → n ≠ BootSector.infoSectorNumber)
    (hbackup : ∀ b, v.boot.backupPlace = some b → n ≠ b ∧ n ≠ b + 1) :
    v.reservedSector n = Buffer.zeros v.layout.sectorSize := by
  unfold reservedSector
  rw [if_neg hboot]
  cases hsome : v.info with
  | none => rfl
  | some info =>
    cases he : v.boot.fat32 with
    | none => rfl
    | some e =>
      have hplace : e.backupSector ≠ 0 → n ≠ e.backupSector.toNat ∧ n ≠ e.backupSector.toNat + 1 := by
        intro hne
        refine hbackup _ ?_
        unfold BootSector.backupPlace
        rw [he, Option.bind_some, if_neg hne]
      rw [hsome] at hinfo
      dsimp only
      rw [if_neg (hinfo rfl), if_neg fun hn => (hplace hn.1).1 hn.2,
        if_neg fun hn => (hplace hn.1).2 hn.2]

/-- A sector of a copy of the table holds its part of the table. -/
theorem imageSector_table (v : FreshVolume) (before : Nat → ByteArray) {copy k : Nat}
    (hcopy : copy < v.layout.tableCount) (hk : k < v.layout.tableSectors) :
    v.imageSector before (v.layout.tableStart copy + k) =
      Buffer.sector v.tableBytes v.layout.sectorSize k := by
  have hcopies := Nat.mul_le_mul_right v.layout.tableSectors
    (by omega : copy + 1 ≤ v.layout.tableCount)
  have hpart : (v.layout.tableStart copy + k - v.layout.reservedSectors) % v.layout.tableSectors =
      k := by
    unfold Layout.tableStart
    rw [Nat.add_assoc, Nat.add_sub_cancel_left, Nat.mul_comm, Nat.mul_add_mod, Nat.mod_eq_of_lt hk]
  rw [Nat.add_mul, Nat.one_mul] at hcopies
  unfold imageSector
  dsimp only
  rw [hpart, if_neg (by unfold Layout.tableStart; omega),
    if_pos (by unfold Layout.tableStart; omega)]

/-- A sector of the root directory holds its part of it. -/
theorem Placed.imageSector_root (h : v.Placed) (before : Nat → ByteArray) {k : Nat}
    (hk : k < v.layout.rootWriteSectors) :
    v.imageSector before (v.rootFirst + k) =
      Buffer.sector v.rootDirectory v.layout.sectorSize k := by
  have hle := h.tableStart_le_rootFirst
  have hstart := tableStart_tableCount v.layout
  unfold imageSector
  dsimp only
  rw [if_neg (by omega), if_neg (by omega), if_pos ⟨by omega, by omega⟩, Nat.add_sub_cancel_left]

/-- All other sectors are as before. -/
theorem imageSector_elsewhere (before : Nat → ByteArray) {n : Nat}
    (hafter : v.layout.tableStart v.layout.tableCount ≤ n)
    (hother : ¬(v.rootFirst ≤ n ∧ n < v.rootFirst + v.layout.rootWriteSectors)) :
    v.imageSector before n = before n := by
  have hstart := tableStart_tableCount v.layout
  unfold imageSector
  dsimp only
  rw [if_neg (by omega), if_neg (by omega), if_neg hother]

end FreshVolume

namespace RamDisk

/-- What a disk holds after a volume was written to it and reported: the parts of the volume where
the reported layout has them, and everything else as before. -/
structure IsFormatted (before after : RamDisk) (report : Report) (v : FreshVolume) : Prop where
  /-- Nothing but contents and log changed. -/
  rewritten : before.IsRewritten after
  /-- The first sector is the boot sector. -/
  bootSector : after.sector 0 = .ok v.bootBytes
  /-- On FAT32 the information sector follows it. -/
  infoSector : ∀ info, v.info = some info →
    after.sector BootSector.infoSectorNumber = .ok (v.infoBytes info)
  /-- The backup of the boot sector is the same. -/
  backup : ∀ b, report.backupSector = some b →
    BootSector.infoSectorNumber < b ∧ b < report.layout.reservedSectors ∧
      after.sector b = after.sector 0
  /-- The backup of the information sector follows it, if it is reserved, and is the same. -/
  backupInfo : ∀ b, report.backupSector = some b → b + 1 < report.layout.reservedSectors →
    after.sector (b + 1) = after.sector BootSector.infoSectorNumber
  /-- All other reserved sectors are zeros. -/
  reserved : ∀ n, n < report.layout.reservedSectors → n ≠ 0 →
    (v.info.isSome = true → n ≠ BootSector.infoSectorNumber) →
    (∀ b, report.backupSector = some b → n ≠ b ∧ n ≠ b + 1) →
    after.sector n = .ok (Buffer.zeros report.layout.sectorSize)
  /-- Each copy of the table is the packed table, filled with zeros. -/
  table : ∀ copy, copy < report.layout.tableCount →
    after.medium.read (report.layout.tableStart copy * report.layout.sectorSize)
        report.layout.tableAreaBytes =
      v.table.pack ++ Buffer.zeros (report.layout.tableAreaBytes - v.table.pack.size)
  /-- The root directory fills its sectors. -/
  rootDirectory : after.medium.read
      (report.layout.rootFirst report.rootCluster * report.layout.sectorSize)
      (report.layout.rootWriteSectors * report.layout.sectorSize) = v.rootDirectory
  /-- All other sectors are as before. -/
  elsewhere : ∀ n, n < before.sectorCount →
    report.layout.tableStart report.layout.tableCount ≤ n →
    ¬(report.layout.rootFirst report.rootCluster ≤ n ∧
      n < report.layout.rootFirst report.rootCluster + report.layout.rootWriteSectors) →
    after.sector n = before.sector n

/-- A disk on which a volume lies sector by sector holds its parts. Reserved sectors are known by
their role; a table and the root directory are joined from their sectors. -/
theorem isFormatted_of_imageSector {before after : RamDisk} {v : FreshVolume} (h : v.Placed)
    (hsize : v.layout.sectorSize = before.sectorSize.toNat)
    (htotal : v.layout.totalSectors = before.sectorCount) (hrewritten : before.IsRewritten after)
    (himage : ∀ n, after.medium.sector before.sectorSize.toNat n =
      v.imageSector (before.medium.sector before.sectorSize.toNat) n)
    {report : Report} (hlayout : report.layout = v.layout)
    (hroot : report.rootCluster = v.boot.rootCluster)
    (hbackup : report.backupSector = v.boot.backupPlace) :
    before.IsFormatted after report v := by
  have hstart := h.sound.dataStart_eq
  have hend := h.sound.dataEnd_le
  have hpos := h.sound.reservedSectors_pos
  have hsector : ∀ n, n < before.sectorCount → after.sector n =
      .ok (v.imageSector (before.medium.sector before.sectorSize.toNat) n) := by
    intro n hn
    rw [sector_eq (hrewritten.sectorCount_eq ▸ hn), hrewritten.sectorSize_eq, himage]
  have hreserved : ∀ n, n < v.layout.reservedSectors →
      after.sector n = .ok (v.reservedSector n) := by
    intro n hn
    rw [hsector n (by omega)]
    exact congrArg Except.ok (if_pos hn)
  have hinfo : ∀ info, v.info = some info →
      BootSector.infoSectorNumber < v.layout.reservedSectors := by
    intro info hinfo
    have hwidth := h.isSome_info
    rw [hinfo] at hwidth
    exact h.sound.two_le_reservedSectors (of_decide_eq_true hwidth.symm)
  exact {
    rewritten := hrewritten
    bootSector := (hreserved 0 hpos).trans (congrArg Except.ok (if_pos rfl))
    infoSector := fun info hsome => by
      rw [hreserved _ (hinfo info hsome), h.reservedSector_info hsome]
    backup := fun b hb => by
      rw [hbackup] at hb
      obtain ⟨-, -, -, -, -, -, hlt, hin⟩ := h.backupPlace hb
      refine ⟨hlt, hlayout ▸ hin, ?_⟩
      rw [hreserved b hin, hreserved 0 hpos, h.reservedSector_backup hb]
      rfl
    backupInfo := fun b hb hin => by
      rw [hbackup] at hb
      rw [hlayout] at hin
      obtain ⟨info, -, hsome, -⟩ := h.backupPlace hb
      rw [hreserved _ hin, hreserved _ (hinfo info hsome), h.reservedSector_backupInfo hb]
    reserved := fun n hn hne hone hother => by
      rw [hlayout] at hn
      rw [hbackup] at hother
      rw [hlayout, hreserved n hn, FreshVolume.reservedSector_of_ne hne hone hother]
    table := fun copy hcopy => by
      rw [hlayout] at hcopy
      rw [hlayout, ← Buffer.resize_of_le h.size_pack_le]
      refine Medium.read_eq_of_sectors (FreshVolume.size_tableBytes v) fun k hk => ?_
      rw [hsize, himage, FreshVolume.imageSector_table v _ hcopy hk, hsize]
      rfl
    rootDirectory := by
      rw [hlayout, hroot]
      refine Medium.read_eq_of_sectors h.size_rootDirectory fun k hk => ?_
      rw [hsize, himage]
      exact (h.imageSector_root _ hk).trans (by rw [hsize])
    elsewhere := fun n hn hafter hother => by
      rw [hlayout] at hafter
      rw [hlayout, hroot] at hother
      rw [hsector n hn, sector_eq hn]
      exact congrArg Except.ok (FreshVolume.imageSector_elsewhere _ hafter hother) }

end RamDisk

end FatVolume
