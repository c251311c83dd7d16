import FatVolume.Proofs.Boot.Message
import FatVolume.Proofs.Layout.Recount

/-!
# Boot sectors of fresh volumes

The boot sector of a sound layout is readable and loses nothing of the layout in its fields. What a
driver works out from it is what `Layout.recount` counts, which says when a driver finds the
clusters and the width of the layout.
-/

namespace FatVolume

namespace Layout.Sound

variable {l : Layout}

/-- A copy of the table lies on the device. -/
theorem tableSectors_le_totalSectors (h : l.Sound) : l.tableSectors ≤ l.totalSectors := by
  have hdata := h.dataStart_eq
  have hend := h.dataEnd_le
  have hmul := Nat.mul_le_mul_right l.tableSectors h.tableCount.1
  omega

end Layout.Sound

namespace BootSector

variable {l : Layout}

/-- The boot sector of a fresh volume without its message. -/
def blank (l : Layout) (g : Geometry) (v : VolumeInfo) (backup : UInt16) : BootSector :=
  { fresh l g v backup with code := List.replicate (codeEnd - codeOffset (l.width = .fat32)) 0 }

/-- A fresh volume has the default message. -/
theorem fresh_eq (l : Layout) (g : Geometry) (v : VolumeInfo) (backup : UInt16) :
    fresh l g v backup = (blank l g v backup).setMessage Message.default := rfl

/-- Only FAT32 has parameters of its own. -/
theorem isSome_fat32_fresh (l : Layout) (g : Geometry) (v : VolumeInfo) (backup : UInt16) :
    (fresh l g v backup).fat32.isSome = decide (l.width = .fat32) := by
  show (if l.width = .fat32 then some _ else none).isSome = _
  by_cases hw : l.width = .fat32 <;> simp [hw]

/-- The parameters of FAT32 name the information sector and the backup. -/
theorem fat32_fresh {g : Geometry} {v : VolumeInfo} {backup : UInt16} {e : Fat32Extension}
    (he : (fresh l g v backup).fat32 = some e) :
    l.width = .fat32 ∧ e.infoSector.toNat = infoSectorNumber ∧ e.backupSector = backup := by
  by_cases hw : l.width = .fat32
  · cases (show (fresh l g v backup).fat32 = _ from if_pos hw).symm.trans he
    exact ⟨hw, rfl, rfl⟩
  · cases (show (fresh l g v backup).fat32 = _ from if_neg hw).symm.trans he

/-- Nothing is lost of the sizes of a layout in the fields of a boot sector. -/
structure Records (s : BootSector) (l : Layout) : Prop where
  /-- The sector size is that of the layout. -/
  sectorBytes : s.sectorBytes.toNat = l.sectorSize
  /-- So is the cluster size. -/
  clusterSectors : s.clusterSectors.toNat = l.clusterSectors
  /-- So is the number of tables. -/
  tableCount : s.tableCount.toNat = l.tableCount
  /-- So is the length of the reserved area. -/
  reservedSectors : s.reservedSectors.toNat = l.reservedSectors

/-- The boot sector of a sound layout records its sizes. -/
theorem records_blank (h : l.Sound) (g : Geometry) (v : VolumeInfo) (backup : UInt16) :
    (blank l g v backup).Records l := by
  have hsector := h.sectorSize.2.2
  have hcluster := h.clusterSectors.2
  have htables := h.tableCount.2
  have hreserved := h.reservedSectors_le
  simp only [Layout.maxField16, Layout.maxClusterSectors] at hcluster hreserved
  exact {
    sectorBytes := UInt16.toNat_ofNat_of_lt' (by simp only [UInt16.size]; omega)
    clusterSectors := UInt8.toNat_ofNat_of_lt' (by simp only [UInt8.size]; omega)
    tableCount := UInt8.toNat_ofNat_of_lt' (by simp only [UInt8.size]; omega)
    reservedSectors := UInt16.toNat_ofNat_of_lt' (by simp only [UInt16.size]; omega) }

/-- The message of a fresh boot sector changes none of its sizes. -/
theorem records_fresh (h : l.Sound) (g : Geometry) (v : VolumeInfo) (backup : UInt16) :
    (fresh l g v backup).Records l where
  sectorBytes := (records_blank h g v backup).sectorBytes
  clusterSectors := (records_blank h g v backup).clusterSectors
  tableCount := (records_blank h g v backup).tableCount
  reservedSectors := (records_blank h g v backup).reservedSectors

/-- The entries of the root directory are recorded if their number fits its field. -/
theorem rootEntries_fresh (hroot : l.rootEntries ≤ Layout.maxField16) (g : Geometry)
    (v : VolumeInfo) (backup : UInt16) :
    (fresh l g v backup).rootEntries.toNat = l.rootEntries :=
  UInt16.toNat_ofNat_of_lt' (Nat.lt_succ_of_le hroot)

/-- The boot sector of a sound layout is readable, with or without its message. -/
theorem readable_blank (h : l.Sound) (g : Geometry) (v : VolumeInfo) (backup : UInt16) :
    (blank l g v backup).Readable where
  sectorBytes := by
    rw [(records_blank h g v backup).sectorBytes]
    exact h.sectorSize.1
  clusterSectors := by
    rw [(records_blank h g v backup).clusterSectors]
    exact h.clusterSectors.1
  tableCount := by
    intro hzero
    have hcount := (records_blank h g v backup).tableCount
    rw [hzero] at hcount
    exact Nat.ne_of_lt h.tableCount.1 hcount
  isSome_fat32 := by
    refine (isSome_fat32_fresh l g v backup).trans (decide_eq_decide.2 ?_)
    show _ ↔ (if l.width = .fat32 then 0 else UInt16.ofNat l.tableSectors) = 0
    by_cases hw : l.width = .fat32
    · exact iff_of_true hw (if_pos hw)
    · have hle := h.tableSectors_le hw
      have hpos := h.tableSectors_pos
      simp only [Layout.maxField16] at hle
      refine iff_of_false hw ?_
      rw [if_neg hw]
      intro hzero
      have hvalue : (UInt16.ofNat l.tableSectors).toNat = 0 := congrArg UInt16.toNat hzero
      rw [UInt16.toNat_ofNat_of_lt' (by simp only [UInt16.size]; omega)] at hvalue
      omega
  length_code := by
    rw [codeStart, show (blank l g v backup).fat32 = (fresh l g v backup).fat32 from rfl,
      isSome_fat32_fresh]
    exact List.length_replicate

theorem readable_fresh (h : l.Sound) (g : Geometry) (v : VolumeInfo) (backup : UInt16) :
    (fresh l g v backup).Readable := by
  rw [fresh_eq]
  exact (readable_blank h g v backup).setMessage _

theorem totalSectors_fresh (h : l.Sound) (g : Geometry) (v : VolumeInfo) (backup : UInt16) :
    (fresh l g v backup).totalSectors = l.totalSectors := by
  have hle := h.totalSectors_le
  simp only [Layout.maxField32] at hle
  unfold totalSectors
  show (if (if l.totalSectors < 65536 then UInt16.ofNat l.totalSectors else 0) ≠ 0
    then (if l.totalSectors < 65536 then UInt16.ofNat l.totalSectors else 0).toNat
    else (if l.totalSectors < 65536 then 0 else UInt32.ofNat l.totalSectors).toNat) = _
  by_cases hsmall : l.totalSectors < 65536
  · have hvalue := UInt16.toNat_ofNat_of_lt' (n := l.totalSectors)
      (by simp only [UInt16.size]; omega)
    simp only [if_pos hsmall]
    split
    · exact hvalue
    · rename_i hzero
      rw [Decidable.not_not.1 hzero] at hvalue
      exact hvalue
  · simp only [if_neg hsmall]
    rw [if_neg (by decide), UInt32.toNat_ofNat_of_lt' (by simp only [UInt32.size]; omega)]

theorem tableSectors_fresh (h : l.Sound) (g : Geometry) (v : VolumeInfo) (backup : UInt16) :
    (fresh l g v backup).tableSectors = l.tableSectors := by
  have htotal := h.totalSectors_le
  have hle := h.tableSectors_le_totalSectors
  simp only [Layout.maxField32] at htotal
  unfold tableSectors
  by_cases hw : l.width = .fat32
  · have hfat : (fresh l g v backup).fat32 = some ⟨UInt32.ofNat l.tableSectors, 0, 0,
        UInt32.ofNat firstRootCluster, UInt16.ofNat infoSectorNumber, backup⟩ := if_pos hw
    rw [hfat]
    exact UInt32.toNat_ofNat_of_lt' (by simp only [UInt32.size]; omega)
  · have hfat : (fresh l g v backup).fat32 = none := if_neg hw
    have hfield : (fresh l g v backup).tableSectors16 = UInt16.ofNat l.tableSectors := if_neg hw
    have hshort := h.tableSectors_le hw
    simp only [Layout.maxField16] at hshort
    rw [hfat, hfield]
    exact UInt16.toNat_ofNat_of_lt' (by simp only [UInt16.size]; omega)

/-- A driver works out from the boot sector of a sound layout what the areas of the layout say, if
the entries of the root directory fit their field. -/
theorem readerClusterCount_fresh (h : l.Sound) (hroot : l.rootEntries ≤ Layout.maxField16)
    (g : Geometry) (v : VolumeInfo) (backup : UInt16) :
    (fresh l g v backup).readerClusterCount = l.recount := by
  have hrecords := records_fresh h g v backup
  unfold readerClusterCount Layout.recount
  rw [totalSectors_fresh h, tableSectors_fresh h, rootEntries_fresh hroot, hrecords.sectorBytes,
    hrecords.clusterSectors, hrecords.tableCount, hrecords.reservedSectors]

/-- What a driver works out from a readable boot sector is the same after reading it. -/
theorem Readable.exists_decode {s : BootSector} (h : s.Readable) :
    ∃ read, decode s.encode = some read ∧ read.readerClusterCount = s.readerClusterCount := by
  have hdecode := h.decode_encode []
  rw [List.append_nil] at hdecode
  exact ⟨_, hdecode, rfl⟩

/-- For every device, all options whose root directory entries fit 16 bits, and whatever else the
boot sector of the computed layout records: a driver reads the boot sector from its bytes and finds
the clusters of the layout, and one more just if the layout has a spare cluster. The width that the
driver derives is that of the layout, unless the spare cluster is one more than the width allows. -/
theorem readerClusterCount_of_compute (g : Geometry) (o : Layout.Options) (l : Layout)
    (v : VolumeInfo) (backup : UInt16) (hroot : o.rootEntries.toNat ≤ 65535)
    (h : Layout.compute g o = .ok l) :
    ∃ s, decode (fresh l g v backup).encode = some s ∧
      s.readerClusterCount = l.clusterCount + (if l.HasSpareCluster then 1 else 0) ∧
      (Width.ofClusterCount s.readerClusterCount = l.width ↔
        ¬(l.HasSpareCluster ∧ l.clusterCount = l.width.maxClusters)) := by
  have hsound := Layout.sound_of_compute h
  obtain ⟨s, hdecode, hread⟩ := (readable_fresh hsound g v backup).exists_decode
  have hcount : (fresh l g v backup).readerClusterCount =
      l.clusterCount + (if l.HasSpareCluster then 1 else 0) :=
    (readerClusterCount_fresh hsound (Layout.rootEntries_of_compute h hroot) g v backup).trans
      (Layout.recount_of_compute h)
  rw [← hread] at hcount
  refine ⟨s, hdecode, hcount, ?_⟩
  rw [hcount]
  exact hsound.ofClusterCount_iff

/-- On a device of 8239 sectors of 32 KiB a root directory of 64000 entries makes a driver find 4085
clusters, and so FAT16, where the layout has 4084 clusters of FAT12. -/
theorem readerClusterCount_of_compute_spare :
    ∃ l, Layout.compute ⟨32768, 8239, ⟨64, 32⟩, 0⟩
        { rootEntries := 64000, clusterSectors := some 2 } = .ok l ∧
      l.clusterCount = 4084 ∧ l.width = .fat12 ∧
      ∃ s, decode (fresh l ⟨32768, 8239, ⟨64, 32⟩, 0⟩
          ⟨Label.unnamed, 0, 0x80, 0xF8, Moment.epoch⟩ 0).encode = some s ∧
        s.readerClusterCount = 4085 ∧ Width.ofClusterCount s.readerClusterCount = .fat16 := by
  have hl : Layout.compute ⟨32768, 8239, ⟨64, 32⟩, 0⟩
      { rootEntries := 64000, clusterSectors := some 2 } =
        .ok ⟨.fat12, 32768, 2, 4084, 2, 2, 2, 64000, 63, 69, 8239, true⟩ :=
    eq_ok_of_toOption (by decide)
  obtain ⟨s, hdecode, hcount, -⟩ := readerClusterCount_of_compute ⟨32768, 8239, ⟨64, 32⟩, 0⟩
    { rootEntries := 64000, clusterSectors := some 2 } _
    ⟨Label.unnamed, 0, 0x80, 0xF8, Moment.epoch⟩ 0 (by decide) hl
  exact ⟨_, hl, rfl, rfl, s, hdecode, hcount, by rw [hcount]; decide⟩

end BootSector

end FatVolume
