import FatVolume.Device.Basic
import FatVolume.Proofs.Boot.Partition
import FatVolume.Proofs.Device.Medium
import FatVolume.Proofs.Volume.Defects
import FatVolume.Volume

/-!
# Images of fresh volumes

What a device holds after a fresh volume was written to it, sector by sector (`imageSector`). The
sections of a volume are written one over the other; that they end up side by side is what
`writeAll_contents` says of every volume whose parts lie where its layout has them (`Placed`).
-/

namespace FatVolume

/-- The first sector of the root directory: on FAT32 that of its cluster, else the first one after
the copies of the table. -/
def Layout.rootFirst (l : Layout) (rootCluster : Option Nat) : Nat :=
  match l.width with
  | .fat32 => l.clusterStart (rootCluster.getD firstRootCluster)
  | _ => l.tableStart l.tableCount

/-- A section of a volume: the sectors that it takes and their bytes. -/
structure Stretch where
  /-- The section. -/
  part : Section
  /-- The first sector. -/
  first : Nat
  /-- The number of sectors. -/
  count : Nat
  /-- The bytes. -/
  data : ByteArray

/-- The bytes of a section, with the sector where they start. -/
def Stretch.content (s : Stretch) : Nat × ByteArray := (s.first, s.data)

/-- A section as it is written. -/
def Stretch.placement (s : Stretch) : Placement := ⟨s.part, .ok s.content⟩

namespace FreshVolume

/-- The bytes of the boot sector. -/
def bootBytes (v : FreshVolume) : ByteArray :=
  Buffer.ofList (v.boot.encode ++ List.replicate (v.layout.sectorSize - recordBytes) 0)

/-- The bytes of an information sector. -/
def infoBytes (v : FreshVolume) (info : InfoSector) : ByteArray :=
  Buffer.ofList (info.encode ++ List.replicate (v.layout.sectorSize - recordBytes) 0)

/-- The bytes of a copy of the table. -/
def tableBytes (v : FreshVolume) : ByteArray := Buffer.resize v.table.pack v.layout.tableAreaBytes

/-- The first sector of the root directory. -/
def rootFirst (v : FreshVolume) : Nat := v.layout.rootFirst v.boot.rootCluster

/-- A sector of the reserved area: the boot sector, on FAT32 the information sector and the backups
of both, and zeros. -/
def reservedSector (v : FreshVolume) (n : Nat) : ByteArray :=
  if n = 0 then v.bootBytes
  else match v.info, v.boot.fat32 with
    | some info, some e =>
      if n = BootSector.infoSectorNumber then v.infoBytes info
      else if e.backupSector ≠ 0 ∧ n = e.backupSector.toNat then v.bootBytes
      else if e.backupSector ≠ 0 ∧ n = e.backupSector.toNat + BootSector.infoSectorNumber then
        v.infoBytes info
      else Buffer.zeros v.layout.sectorSize
    | _, _ => Buffer.zeros v.layout.sectorSize

/-- A sector of a device on which the volume lies, and which held something before: the reserved
area, the copies of the table one after the other, the root directory, and everything else as it
was. -/
def imageSector (v : FreshVolume) (before : Nat → ByteArray) (n : Nat) : ByteArray :=
  let l := v.layout
  if n < l.reservedSectors then v.reservedSector n
  else if n < l.tableStart l.tableCount then
    Buffer.sector v.tableBytes l.sectorSize ((n - l.reservedSectors) % l.tableSectors)
  else if v.rootFirst ≤ n ∧ n < v.rootFirst + l.rootWriteSectors then
    Buffer.sector v.rootDirectory l.sectorSize (n - v.rootFirst)
  else before n

/-- What a volume needs for its parts to lie where its layout has them. -/
structure Placed (v : FreshVolume) : Prop where
  /-- The layout is sound. -/
  sound : v.layout.Sound
  /-- The boot sector takes 512 bytes. -/
  readable : v.boot.Readable
  /-- Only FAT32 has an information sector. -/
  isSome_info : v.info.isSome = decide (v.layout.width = .fat32)
  /-- Only FAT32 has parameters of its own. -/
  isSome_fat32 : v.boot.fat32.isSome = decide (v.layout.width = .fat32)
  /-- The information sector follows the boot sector. -/
  infoSector : ∀ e, v.boot.fat32 = some e → e.infoSector.toNat = BootSector.infoSectorNumber
  /-- The backup follows both of them and is reserved, if there is one. -/
  backupSector : ∀ e, v.boot.fat32 = some e → e.backupSector ≠ 0 →
    BootSector.infoSectorNumber < e.backupSector.toNat ∧
      e.backupSector.toNat < v.layout.reservedSectors
  /-- The root cluster is one of the volume. -/
  rootCluster : ∀ root, v.boot.rootCluster = some root → root ∈ v.layout.clusters
  /-- The table has the width of the layout. -/
  width_table : v.table.width = v.layout.width
  /-- The table has the entries of all clusters and the reserved ones. -/
  entryCount_table : v.table.entryCount = v.layout.clusterCount + reservedEntries
  /-- The root directory fills its sectors. -/
  size_rootDirectory :
    v.rootDirectory.size = v.layout.rootWriteSectors * v.layout.sectorSize

/-- The information sector and the backups, with the sectors where they start. -/
def specialContents (v : FreshVolume) : List (Nat × ByteArray) :=
  match v.info, v.boot.fat32 with
  | some info, some e =>
    let backup := e.backupSector.toNat
    let backupInfo := backup + e.infoSector.toNat
    (e.infoSector.toNat, v.infoBytes info) ::
      if backup = 0 then []
      else (backup, v.bootBytes) ::
        if backupInfo < v.layout.reservedSectors then [(backupInfo, v.infoBytes info)] else []
  | _, _ => []

/-- The copies of the table, with the sectors where they start. -/
def tableContents (v : FreshVolume) : List (Nat × ByteArray) :=
  (List.range v.layout.tableCount).map fun copy => (v.layout.tableStart copy, v.tableBytes)

/-- The parts of a volume, with the sectors where they start. -/
def contents (v : FreshVolume) : List (Nat × ByteArray) :=
  (0, Buffer.zeros (v.layout.reservedSectors * v.layout.sectorSize)) :: (0, v.bootBytes) ::
    v.specialContents ++ v.tableContents ++ [(v.rootFirst, v.rootDirectory)]

/-- The information sector and the backups. A backup of the information sector that would not be
reserved is left out. -/
def specialStretches (v : FreshVolume) : List Stretch :=
  match v.info, v.boot.fat32 with
  | some info, some e =>
    let backup := e.backupSector.toNat
    let backupInfo := backup + e.infoSector.toNat
    ⟨.infoSector, e.infoSector.toNat, 1, v.infoBytes info⟩ ::
      if backup = 0 then []
      else ⟨.backupBootSector, backup, 1, v.bootBytes⟩ ::
        if backupInfo < v.layout.reservedSectors then
          [⟨.backupInfoSector, backupInfo, 1, v.infoBytes info⟩] else []
  | _, _ => []

/-- The copies of the table. -/
def tableStretches (v : FreshVolume) : List Stretch :=
  (List.range v.layout.tableCount).map fun copy =>
    ⟨.table copy, v.layout.tableStart copy, v.layout.tableSectors, v.tableBytes⟩

/-- What a volume is made of, in the order of the device: the boot sector, the information sector and
the backups, the copies of the table and the root directory. -/
def structures (v : FreshVolume) : List Stretch :=
  ⟨.bootSector, 0, 1, v.bootBytes⟩ :: v.specialStretches ++ v.tableStretches ++
    [⟨.rootDirectory, v.rootFirst, v.layout.rootWriteSectors, v.rootDirectory⟩]

/-- The sections of a volume, in the order in which they are written: zeros over the reserved area, and
then the structures. -/
def stretches (v : FreshVolume) : List Stretch :=
  ⟨.reservedArea, 0, v.layout.reservedSectors,
    Buffer.zeros (v.layout.reservedSectors * v.layout.sectorSize)⟩ :: v.structures

variable {v : FreshVolume}

theorem contents_eq (v : FreshVolume) : v.contents = v.stretches.map Stretch.content := by
  have hspecial : v.specialContents = v.specialStretches.map Stretch.content := by
    unfold specialContents specialStretches
    cases v.info with
    | none => rfl
    | some info =>
      cases v.boot.fat32 with
      | none => rfl
      | some e =>
        dsimp only
        split
        · simp only [List.map_cons, List.map_nil, Stretch.content]
        · split <;> simp only [List.map_cons, List.map_nil, Stretch.content]
  have htables : v.tableContents = v.tableStretches.map Stretch.content := by
    unfold tableContents tableStretches
    rw [List.map_map]
    rfl
  unfold contents stretches structures
  rw [hspecial, htables]
  simp only [List.map_cons, List.map_append, List.map_nil, List.cons_append, Stretch.content]

theorem Placed.size_bootBytes (h : v.Placed) : v.bootBytes.size = v.layout.sectorSize := by
  have hle := h.sound.sectorSize.2.1
  unfold bootBytes Buffer.ofList
  rw [List.size_toByteArray, List.length_append, h.readable.length_encode, List.length_replicate]
  simp only [recordBytes]
  omega

theorem Placed.size_infoBytes (h : v.Placed) (info : InfoSector) :
    (v.infoBytes info).size = v.layout.sectorSize := by
  have hle := h.sound.sectorSize.2.1
  unfold infoBytes Buffer.ofList
  rw [List.size_toByteArray, List.length_append, info.length_encode, List.length_replicate]
  simp only [recordBytes]
  omega

theorem size_tableBytes (v : FreshVolume) :
    v.tableBytes.size = v.layout.tableSectors * v.layout.sectorSize := Buffer.size_resize _ _

theorem Placed.size_pack_le (h : v.Placed) : v.table.pack.size ≤ v.layout.tableAreaBytes := by
  have hsize : v.table.pack.size = v.table.width.tableBytes v.table.entryCount :=
    Buffer.size_generate _ _
  rw [hsize, h.width_table, h.entryCount_table]
  exact h.sound.tableBytes_le

/-- The copies of the table end where the root directory of FAT12 and FAT16 starts. -/
theorem tableStart_tableCount (l : Layout) :
    l.tableStart l.tableCount = l.reservedSectors + l.tableCount * l.tableSectors := rfl

/-- The root directory starts after the copies of the table. -/
theorem Placed.tableStart_le_rootFirst (h : v.Placed) :
    v.layout.tableStart v.layout.tableCount ≤ v.rootFirst := by
  have hstart := h.sound.dataStart_eq
  unfold rootFirst Layout.rootFirst
  cases v.layout.width with
  | fat12 => exact le_rfl
  | fat16 => exact le_rfl
  | fat32 =>
    rw [tableStart_tableCount]
    unfold Layout.clusterStart
    dsimp only
    omega

/-- The reserved area is zeros and the boot sector before anything else is written to it. -/
theorem Placed.sector_bootBytes (h : v.Placed) (m : Medium) (n : Nat) :
    ((m.write (0 * v.layout.sectorSize) (Buffer.zeros
        (v.layout.reservedSectors * v.layout.sectorSize))).write (0 * v.layout.sectorSize)
          v.bootBytes).sector v.layout.sectorSize n =
      if n = 0 then v.bootBytes
      else if n < v.layout.reservedSectors then Buffer.zeros v.layout.sectorSize
      else m.sector v.layout.sectorSize n := by
  have hzeros : (Buffer.zeros (v.layout.reservedSectors * v.layout.sectorSize)).size =
      v.layout.reservedSectors * v.layout.sectorSize := Buffer.size_filled _ _
  rw [Medium.sector_write_one h.size_bootBytes, Medium.sector_write hzeros, Nat.zero_add]
  by_cases hn : n < v.layout.reservedSectors
  · rw [if_pos hn, if_pos (c := 0 ≤ n ∧ _) ⟨Nat.zero_le n, hn⟩, Nat.sub_zero,
      Buffer.sector_zeros hn]
  · rw [if_neg hn, if_neg (c := 0 ≤ n ∧ _) fun hin => hn hin.2]

/-- Only a volume with an information sector has parameters of FAT32. -/
theorem Placed.info_eq_none_iff (h : v.Placed) : v.info = none ↔ v.boot.fat32 = none := by
  have hinfo := h.isSome_info
  rw [← h.isSome_fat32] at hinfo
  rw [← Option.isNone_iff_eq_none, ← Option.isNone_iff_eq_none, ← Option.not_isSome,
    ← Option.not_isSome, hinfo]

/-- On FAT32 the information sector and the backups are written to their sectors. A backup sector of
0 means that there is none, and what is written later hides what was before. -/
theorem Placed.writeAll_special (h : v.Placed) {info : InfoSector} {e : Fat32Extension}
    (hinfo : v.info = some info) (hfat : v.boot.fat32 = some e) (m : Medium) (n : Nat) :
    (m.writeAll v.layout.sectorSize v.specialContents).sector v.layout.sectorSize n =
      if n = BootSector.infoSectorNumber then v.infoBytes info
      else if e.backupSector ≠ 0 ∧ n = e.backupSector.toNat then v.bootBytes
      else if e.backupSector ≠ 0 ∧ n = e.backupSector.toNat + BootSector.infoSectorNumber ∧
        n < v.layout.reservedSectors then v.infoBytes info
      else m.sector v.layout.sectorSize n := by
  have hsize := h.size_infoBytes info
  have hbackup := h.backupSector e hfat
  have hzero : e.backupSector = 0 ↔ e.backupSector.toNat = 0 :=
    ⟨fun he => by rw [he]; rfl, fun he => UInt16.toNat_inj.1 he⟩
  have hone : BootSector.infoSectorNumber = 1 := rfl
  unfold specialContents
  rw [hinfo, hfat]
  dsimp only
  rw [h.infoSector e hfat, Medium.writeAll_cons]
  simp only [ne_eq, hzero] at hbackup ⊢
  by_cases hb : e.backupSector.toNat = 0
  · rw [if_pos hb]
    show ((_ : Medium).write _ _).sector _ n = _
    rw [Medium.sector_write_one hsize]
    grind
  · rw [if_neg hb, Medium.writeAll_cons]
    by_cases hin : e.backupSector.toNat + BootSector.infoSectorNumber < v.layout.reservedSectors
    · rw [if_pos hin, Medium.writeAll_cons]
      show ((_ : Medium).write _ _).sector _ n = _
      rw [Medium.sector_write_one hsize, Medium.sector_write_one h.size_bootBytes,
        Medium.sector_write_one hsize]
      grind
    · rw [if_neg hin]
      show ((_ : Medium).write _ _).sector _ n = _
      rw [Medium.sector_write_one h.size_bootBytes, Medium.sector_write_one hsize]
      grind

/-- The reserved area is written with the boot sector, the information sector and the backups. -/
theorem Placed.writeAll_reserved (h : v.Placed) (m : Medium) (n : Nat) :
    (m.writeAll v.layout.sectorSize
      ((0, Buffer.zeros (v.layout.reservedSectors * v.layout.sectorSize)) :: (0, v.bootBytes) ::
        v.specialContents)).sector v.layout.sectorSize n =
      if n < v.layout.reservedSectors then v.reservedSector n
      else m.sector v.layout.sectorSize n := by
  have hpos := h.sound.reservedSectors_pos
  rw [Medium.writeAll_cons, Medium.writeAll_cons]
  unfold reservedSector
  cases hinfo : v.info with
  | none =>
    unfold specialContents
    rw [hinfo]
    refine (h.sector_bootBytes m n).trans ?_
    by_cases hn : n = 0
    · rw [if_pos hn, if_pos (by omega), if_pos hn]
    · rw [if_neg hn, if_neg hn]
  | some info =>
    obtain ⟨e, hfat⟩ : ∃ e, v.boot.fat32 = some e := by
      refine Option.ne_none_iff_exists'.1 fun hnone => ?_
      rw [h.info_eq_none_iff.2 hnone] at hinfo
      cases hinfo
    have hbackup := h.backupSector e hfat
    have hwidth : v.layout.width = .fat32 := by
      have hsome := h.isSome_info
      rw [hinfo] at hsome
      exact of_decide_eq_true hsome.symm
    have htwo := h.sound.two_le_reservedSectors hwidth
    rw [h.writeAll_special hinfo hfat, h.sector_bootBytes, hfat]
    dsimp only
    simp only [BootSector.infoSectorNumber] at hbackup ⊢
    grind

/-- The parts of a volume end up side by side. -/
theorem Placed.writeAll_contents (h : v.Placed) (m : Medium) (n : Nat) :
    (m.writeAll v.layout.sectorSize v.contents).sector v.layout.sectorSize n =
      v.imageSector (m.sector v.layout.sectorSize) n := by
  have hroot := h.tableStart_le_rootFirst
  rw [tableStart_tableCount] at hroot
  unfold contents tableContents imageSector Layout.tableStart
  rw [Medium.writeAll_append, Medium.writeAll_append]
  show ((_ : Medium).write _ _).sector _ n = _
  rw [Medium.sector_write h.size_rootDirectory, Medium.sector_writeAll_copies (size_tableBytes v),
    h.writeAll_reserved]
  dsimp only
  by_cases hreserved : n < v.layout.reservedSectors
  · rw [if_neg (by omega), if_neg (by omega), if_pos hreserved, if_pos hreserved]
  · rw [if_neg hreserved, if_neg hreserved]
    by_cases htable : n < v.layout.reservedSectors + v.layout.tableCount * v.layout.tableSectors
    · rw [if_neg (by omega), if_pos ⟨by omega, htable⟩, if_pos htable]
    · rw [if_neg htable, if_neg (by omega : ¬(v.layout.reservedSectors ≤ n ∧ _))]

/-- The first sector of the root directory is found. -/
theorem Placed.rootStart_eq (h : v.Placed) :
    v.layout.rootStart (v.boot.rootCluster.getD firstRootCluster) = .ok v.rootFirst := by
  unfold Layout.rootStart rootFirst Layout.rootFirst
  cases hw : v.layout.width with
  | fat12 => rfl
  | fat16 => rfl
  | fat32 =>
    have hfat := h.isSome_fat32
    rw [decide_eq_true hw] at hfat
    obtain ⟨e, he⟩ := Option.isSome_iff_exists.1 hfat
    have hroot : v.boot.rootCluster = some e.rootCluster.toNat := by
      unfold BootSector.rootCluster
      rw [he, Option.map_some]
    dsimp only
    rw [hroot, Option.getD_some]
    exact h.sound.clusterToSector_eq (h.rootCluster _ hroot)

/-- The information sector and the backups are sections of their own. -/
theorem Placed.backupPlacements_eq (h : v.Placed) {info : InfoSector} {e : Fat32Extension}
    (hinfo : v.info = some info) (hfat : v.boot.fat32 = some e) :
    v.backupPlacements v.bootBytes (v.infoBytes info) e =
      v.specialStretches.map Stretch.placement := by
  have hpos := h.sound.reservedSectors_pos
  have hreserved : v.layout.reservedRegion = .ok ⟨0, v.layout.reservedSectors - 1⟩ :=
    Region.initial_of_pos hpos
  unfold backupPlacements specialStretches
  rw [hreserved, hinfo, hfat]
  dsimp only
  by_cases hb : e.backupSector.toNat = 0
  · rw [if_pos hb, if_pos hb]
    simp only [List.map_cons, List.map_nil, Stretch.placement, Stretch.content]
  · rw [if_neg hb, if_neg hb]
    by_cases hin : e.backupSector.toNat + e.infoSector.toNat < v.layout.reservedSectors
    · rw [if_pos ((Region.contains_initial_iff hpos).2 hin), if_pos hin]
      simp only [List.map_cons, List.map_nil, Stretch.placement, Stretch.content]
    · rw [if_neg fun hn => hin ((Region.contains_initial_iff hpos).1 hn), if_neg hin]
      simp only [List.map_cons, List.map_nil, Stretch.placement, Stretch.content]

/-- The sections of a volume are found. -/
theorem Placed.placements_eq (h : v.Placed) :
    v.placements = .ok (v.stretches.map Stretch.placement) := by
  have hrecord : recordBytes ≤ v.layout.sectorSize := h.sound.sectorSize.2.1
  have htables : v.tablePlacements = v.tableStretches.map Stretch.placement := by
    unfold tablePlacements tableStretches
    rw [List.map_map]
    rfl
  unfold placements stretches structures
  dsimp only
  rw [v.boot.toSector_of_le hrecord, ok_bind, h.rootStart_eq, htables]
  simp only [List.map_cons, List.map_append, List.map_nil, Stretch.placement, Stretch.content]
  cases hinfo : v.info with
  | none =>
    have hspecial : v.specialStretches = [] := by
      unfold specialStretches
      rw [hinfo]
    rw [hspecial]
    rfl
  | some info =>
    cases hfat : v.boot.fat32 with
    | none =>
      have hspecial : v.specialStretches = [] := by
        unfold specialStretches
        rw [hinfo, hfat]
      rw [hspecial]
      rfl
    | some e =>
      have hspecial := h.backupPlacements_eq hinfo hfat
      dsimp only
      rw [info.toSector_of_le hrecord, ok_bind, pure_eq_ok, ok_bind]
      unfold bootBytes infoBytes at hspecial
      rw [hspecial]
      rfl

section OfBad

variable {l : Layout} {boot : BootSector} {media : UInt8} {rootDirectory : ByteArray}
  {bad : Finset Nat}

theorem codeStart_withRoot (boot : BootSector) (root : Nat) :
    (withRoot boot root).codeStart = boot.codeStart := by
  unfold BootSector.codeStart withRoot
  rw [Option.isSome_map]

theorem readable_withRoot (h : boot.Readable) (root : Nat) : (withRoot boot root).Readable where
  sectorBytes := h.sectorBytes
  clusterSectors := h.clusterSectors
  tableCount := h.tableCount
  isSome_fat32 := Option.isSome_map.trans h.isSome_fat32
  length_code := by
    rw [codeStart_withRoot]
    exact h.length_code

/-- A boot sector is read back as before when the root directory is moved. -/
theorem faithful_withRoot (h : boot.Faithful) (root : Nat) : (withRoot boot root).Faithful where
  readable := readable_withRoot h.readable root
  partitionTable := by
    rw [codeStart_withRoot]
    exact h.partitionTable

/-- The boot sector of a volume with bad clusters takes 512 bytes as that of the fresh one. -/
theorem readable_ofBad (h : boot.Readable) :
    (ofBad l boot media rootDirectory bad).boot.Readable := by
  show ((l.rootFor bad).elim boot (withRoot boot)).Readable
  cases l.rootFor bad with
  | none => exact h
  | some root => exact readable_withRoot h root

/-- The boot sector of a volume with bad clusters is read back as that of the fresh one. -/
theorem faithful_ofBad (h : boot.Faithful) :
    (ofBad l boot media rootDirectory bad).boot.Faithful := by
  show ((l.rootFor bad).elim boot (withRoot boot)).Faithful
  cases l.rootFor bad with
  | none => exact h
  | some root => exact faithful_withRoot h root

/-- Bad clusters change the cluster of the root directory alone in the parameters of FAT32. -/
theorem fat32_ofBad {e : Fat32Extension}
    (he : (ofBad l boot media rootDirectory bad).boot.fat32 = some e) :
    ∃ start, boot.fat32 = some start ∧ e.infoSector = start.infoSector ∧
      e.backupSector = start.backupSector := by
  change ((l.rootFor bad).elim boot (withRoot boot)).fat32 = some e at he
  cases hroot : l.rootFor bad with
  | none =>
    rw [hroot] at he
    exact ⟨e, he, rfl, rfl⟩
  | some root =>
    rw [hroot] at he
    obtain ⟨start, hstart, rfl⟩ := Option.map_eq_some_iff.1 he
    exact ⟨start, hstart, rfl, rfl⟩

theorem size_rootDirectoryOf (bytes : Nat) (v : VolumeInfo) :
    (rootDirectoryOf bytes v).size = bytes := by
  unfold rootDirectoryOf Buffer.zeros Buffer.ofList
  split
  · rename_i h
    have hle := h.2
    rw [ByteArray.size_append, List.size_toByteArray, v.label.length_entry, Buffer.size_filled]
    simp only [directoryEntryBytes] at hle ⊢
    omega
  · exact Buffer.size_filled _ _

/-- A root directory that has room for an entry holds the label if the volume has a name. -/
theorem rootDirectoryOf_of_le {bytes : Nat} (h : directoryEntryBytes ≤ bytes) (v : VolumeInfo) :
    rootDirectoryOf bytes v =
      if v.label = Label.unnamed then Buffer.zeros bytes
      else Buffer.ofList (v.label.entry v.created) ++
        Buffer.zeros (bytes - directoryEntryBytes) := by
  unfold rootDirectoryOf
  by_cases hname : v.label = Label.unnamed
  · rw [if_neg fun hn => hn.1 hname, if_pos hname]
  · rw [if_pos ⟨hname, h⟩, if_neg hname]

/-- A volume with bad clusters lies where its layout has it, if a backup has a place. -/
theorem placed_ofBad (h : l.Sound) (hboot : boot.Readable) {g : Geometry} {info : VolumeInfo}
    {backup : UInt16} (hfat32 : boot.fat32 = (BootSector.fresh l g info backup).fat32)
    (hbackup : l.width = .fat32 → backup ≠ 0 →
      BootSector.infoSectorNumber < backup.toNat ∧ backup.toNat < l.reservedSectors)
    (hroom : ¬l.Exhausts bad) (v : VolumeInfo) :
    (ofBad l boot media (rootDirectoryOf (l.rootWriteSectors * l.sectorSize) v) bad).Placed := by
  have hsome : boot.fat32.isSome = decide (l.width = .fat32) := by
    rw [hfat32]
    exact BootSector.isSome_fat32_fresh l g info backup
  have hroot := BootSector.rootCluster_of_fat32_eq hfat32
  have hparameters : ∀ e, (ofBad l boot media
      (rootDirectoryOf (l.rootWriteSectors * l.sectorSize) v) bad).boot.fat32 = some e →
      l.width = .fat32 ∧ e.infoSector.toNat = BootSector.infoSectorNumber ∧
        e.backupSector = backup := by
    intro e he
    obtain ⟨start, hstart, hinfo, hsame⟩ := fat32_ofBad he
    rw [hinfo, hsame]
    exact BootSector.fat32_fresh (hfat32 ▸ hstart)
  exact {
    sound := h
    readable := readable_ofBad hboot
    isSome_info := by
      by_cases hw : l.width = .fat32
      · obtain ⟨root, hleast⟩ := exists_leastGood hw hroom
        rw [ofBad_wide hw hleast]
        exact (decide_eq_true hw).symm
      · rw [ofBad_narrow hw]
        exact (decide_eq_false hw).symm
    isSome_fat32 := by
      by_cases hw : l.width = .fat32
      · obtain ⟨root, hleast⟩ := exists_leastGood hw hroom
        rw [ofBad_wide hw hleast]
        exact Option.isSome_map.trans hsome
      · rw [ofBad_narrow hw]
        exact hsome
    infoSector := fun e he => (hparameters e he).2.1
    backupSector := fun e he hne => by
      obtain ⟨hw, -, hsame⟩ := hparameters e he
      rw [hsame] at hne ⊢
      exact hbackup hw hne
    rootCluster := fun root hr => by
      rw [rootCluster_ofBad h hroot hroom] at hr
      by_cases hw : l.width = .fat32
      · rw [Layout.rootFor_wide hw] at hr
        exact (Layout.leastGood_eq_some_iff.1 hr).1.1
      · rw [Layout.rootFor_narrow hw] at hr
        cases hr
    width_table := rfl
    entryCount_table := Table.entryCount_withDefects
    size_rootDirectory := size_rootDirectoryOf _ v }

end OfBad

end FreshVolume

namespace RamDisk

/-- A disk with other contents and another log, and the same in everything else. -/
structure IsRewritten (before after : RamDisk) : Prop where
  /-- The sectors have as many bytes. -/
  sectorSize_eq : after.sectorSize = before.sectorSize
  /-- There are as many bytes. -/
  size_eq : after.medium.size = before.medium.size
  /-- The disk reports the same type. -/
  mediaType_eq : after.mediaType = before.mediaType
  /-- The disk takes writes as before. -/
  readOnly_eq : after.readOnly = before.readOnly
  /-- The medium is present as before. -/
  mediaPresent_eq : after.mediaPresent = before.mediaPresent
  /-- The same sectors cannot be read. -/
  unreadable_eq : after.unreadable = before.unreadable
  /-- The same sectors cannot be written. -/
  unwritable_eq : after.unwritable = before.unwritable

theorem IsRewritten.refl (d : RamDisk) : d.IsRewritten d := ⟨rfl, rfl, rfl, rfl, rfl, rfl, rfl⟩

theorem IsRewritten.trans {a b c : RamDisk} (hab : a.IsRewritten b) (hbc : b.IsRewritten c) :
    a.IsRewritten c where
  sectorSize_eq := hbc.sectorSize_eq.trans hab.sectorSize_eq
  size_eq := hbc.size_eq.trans hab.size_eq
  mediaType_eq := hbc.mediaType_eq.trans hab.mediaType_eq
  readOnly_eq := hbc.readOnly_eq.trans hab.readOnly_eq
  mediaPresent_eq := hbc.mediaPresent_eq.trans hab.mediaPresent_eq
  unreadable_eq := hbc.unreadable_eq.trans hab.unreadable_eq
  unwritable_eq := hbc.unwritable_eq.trans hab.unwritable_eq

theorem IsRewritten.sectorCount_eq {before after : RamDisk} (h : before.IsRewritten after) :
    after.sectorCount = before.sectorCount := by
  unfold sectorCount
  rw [h.size_eq, h.sectorSize_eq]

/-- A write that succeeds rewrites the disk. -/
theorem write_eq_ok {d after : RamDisk} {start : Nat} {data : ByteArray}
    (h : d.write start data = (.ok (), after)) :
    d.IsRewritten after ∧
      after.medium = d.medium.write (start * d.sectorSize.toNat) data := by
  unfold write at h
  split at h
  · cases h
  · cases h
    exact ⟨⟨rfl, rfl, rfl, rfl, rfl, rfl, rfl⟩, rfl⟩

/-- A sector of a disk is read whatever its condition. -/
theorem sector_eq {d : RamDisk} {n : Nat} (h : n < d.sectorCount) :
    d.sector n = .ok (d.medium.sector d.sectorSize.toNat n) := by
  have hmul := Nat.mul_le_mul_right d.sectorSize.toNat (by omega : n + 1 ≤ d.sectorCount)
  have hlt := d.size_lt
  rw [d.sectorCount_mul, Nat.add_mul, Nat.one_mul] at hmul
  unfold sector
  rw [within_of_lt (by omega), ok_bind, if_pos hmul]
  rfl

end RamDisk

namespace Device

/-- Sections that are all written leave a memory disk on which their contents are written one after
the other. -/
theorem writeSections_ram {d : RamDisk} {stretches : List Stretch}
    (hok : ((ram d).writeSections (stretches.map Stretch.placement)).1 = .ok ()) :
    ∃ after, ((ram d).writeSections (stretches.map Stretch.placement)).2 = ram after ∧
      d.IsRewritten after ∧
      after.medium = d.medium.writeAll d.sectorSize.toNat (stretches.map Stretch.content) := by
  induction stretches generalizing d with
  | nil => exact ⟨d, rfl, .refl d, rfl⟩
  | cons s rest ih =>
    rw [List.map_cons, writeSections] at hok ⊢
    dsimp only [Stretch.placement, Stretch.content, Device.write] at hok ⊢
    cases hwrite : d.write s.first s.data with
    | mk result written =>
      rw [hwrite] at hok
      cases result with
      | error stop => cases hok
      | ok _ =>
        obtain ⟨hsame, hmedium⟩ := RamDisk.write_eq_ok hwrite
        obtain ⟨after, hafter, hrewritten, hall⟩ := ih hok
        refine ⟨after, hafter, hsame.trans hrewritten, ?_⟩
        rw [hall, hmedium, hsame.sectorSize_eq]
        rfl

/-- A volume that is written to a memory disk with its sector size is on it, sector by sector. -/
theorem writeVolume_ram {d : RamDisk} {v : FreshVolume} (h : v.Placed)
    (hsize : v.layout.sectorSize = d.sectorSize.toNat)
    (hok : ((ram d).writeVolume v).1 = .ok ()) :
    ∃ after, ((ram d).writeVolume v).2 = ram after ∧ d.IsRewritten after ∧
      ∀ n, after.medium.sector d.sectorSize.toNat n =
        v.imageSector (d.medium.sector d.sectorSize.toNat) n := by
  unfold writeVolume at hok ⊢
  rw [h.placements_eq] at hok ⊢
  obtain ⟨after, hafter, hrewritten, hall⟩ := writeSections_ram hok
  refine ⟨after, hafter, hrewritten, fun n => ?_⟩
  rw [hall, ← FreshVolume.contents_eq, ← hsize]
  exact h.writeAll_contents d.medium n

end Device

end FatVolume
