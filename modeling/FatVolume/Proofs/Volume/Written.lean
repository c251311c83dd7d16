import FatVolume.Proofs.Device.Medium
import FatVolume.Proofs.Volume.Image

/-!
# Writing section by section

The sections of a volume are whole sectors of its device (`Placed.fits`). A disk in memory takes one
after the other (`TakesAll`) until one of them meets a sector that cannot be written, which ends the
writing (`writeSections_of_meets`). Nothing stops the writing of a volume of which every sector can be
written (`writeVolume_eq_ok`).
-/

namespace FatVolume

namespace Stretch

/-- The bytes of a section fill its sectors, which lie on a device of so many sectors. -/
structure Fits (s : Stretch) (size total : Nat) : Prop where
  /-- The bytes fill the sectors. -/
  size_data : s.data.size = s.count * size
  /-- The sectors lie on the device. -/
  le_total : s.first + s.count ≤ total

/-- A section has a sector. -/
def Has (s : Stretch) (n : Nat) : Prop := s.first ≤ n ∧ n < s.first + s.count

instance (s : Stretch) (n : Nat) : Decidable (s.Has n) := inferInstanceAs (Decidable (_ ∧ _))

/-- A section has a sector of a set. -/
def Meets (s : Stretch) (set : SectorSet) : Prop :=
  ∃ sector ∈ set, s.first ≤ sector ∧ sector < s.first + s.count

/-- The first sector of a section that lies in a set. -/
def IsFirstIn (s : Stretch) (set : SectorSet) (sector : Nat) : Prop :=
  IsLeast {sector | sector ∈ set ∧ s.first ≤ sector ∧ sector < s.first + s.count} sector

variable {s : Stretch} {set : SectorSet}

/-- A section has no sector of a set just if the search for one finds none. -/
theorem firstFrom_eq_none_iff : set.firstFrom s.first s.count = none ↔ ¬s.Meets set := by
  rw [SectorSet.firstFrom_eq_none_iff]
  constructor
  · rintro hnone ⟨sector, hmem, hle, hlt⟩
    have := hnone sector hmem hle
    omega
  · intro hmeets sector hmem hle
    exact Nat.not_lt.1 fun hlt => hmeets ⟨sector, hmem, hle, hlt⟩

/-- The search for a sector of a section finds the first one in the set. -/
theorem isFirstIn_of_firstFrom {sector : Nat}
    (h : set.firstFrom s.first s.count = some sector) : s.IsFirstIn set sector := by
  obtain ⟨hmem, hleast⟩ := SectorSet.firstFrom_eq_some_iff.1 h
  exact ⟨hmem, fun other hother => hleast other hother.1 hother.2.1⟩

/-- Among sections some of which have a sector of a set there is a first one. -/
theorem exists_first_meets {stretches : List Stretch} (h : ∃ s ∈ stretches, s.Meets set) :
    ∃ before s rest, stretches = before ++ s :: rest ∧ (∀ t ∈ before, ¬t.Meets set) ∧
      s.Meets set := by
  induction stretches with
  | nil =>
    obtain ⟨s, hs, -⟩ := h
    cases hs
  | cons first rest ih =>
    by_cases hfirst : first.Meets set
    · exact ⟨[], first, rest, rfl, fun t ht => absurd ht List.not_mem_nil, hfirst⟩
    · rw [List.exists_mem_cons_iff, or_iff_right hfirst] at h
      obtain ⟨before, s, after, hsplit, hclear, hmeets⟩ := ih h
      refine ⟨first :: before, s, after, congrArg _ hsplit, fun t ht => ?_, hmeets⟩
      rcases List.mem_cons.1 ht with rfl | ht
      · exact hfirst
      · exact hclear t ht

end Stretch

namespace FreshVolume

variable {v : FreshVolume}

/-- The reserved area lies on the device. -/
theorem Placed.reservedSectors_le (h : v.Placed) :
    v.layout.reservedSectors ≤ v.layout.totalSectors := by
  have hstart := h.sound.dataStart_eq
  have hend := h.sound.dataEnd_le
  omega

theorem Placed.specialStretches_narrow (h : v.Placed) (hw : v.layout.width ≠ .fat32) :
    v.specialStretches = [] := by
  have hnone := h.isSome_info
  rw [decide_eq_false hw, Option.isSome_eq_false_iff, Option.isNone_iff_eq_none] at hnone
  unfold specialStretches
  rw [hnone]

/-- What the sections of FAT32 alone are made of is there. -/
theorem Placed.exists_special (h : v.Placed) (hw : v.layout.width = .fat32) :
    ∃ info e, v.info = some info ∧ v.boot.fat32 = some e := by
  have hinfo := h.isSome_info
  have hfat := h.isSome_fat32
  rw [decide_eq_true hw] at hinfo hfat
  obtain ⟨info, hinfo⟩ := Option.isSome_iff_exists.1 hinfo
  obtain ⟨e, hfat⟩ := Option.isSome_iff_exists.1 hfat
  exact ⟨info, e, hinfo, hfat⟩

/-- The sections of FAT32 alone. -/
theorem Placed.specialStretches_wide (h : v.Placed) {info : InfoSector} {e : Fat32Extension}
    (hinfo : v.info = some info) (hfat : v.boot.fat32 = some e) :
    v.specialStretches = ⟨.infoSector, BootSector.infoSectorNumber, 1, v.infoBytes info⟩ ::
      if e.backupSector.toNat = 0 then []
      else ⟨.backupBootSector, e.backupSector.toNat, 1, v.bootBytes⟩ ::
        if e.backupSector.toNat + BootSector.infoSectorNumber < v.layout.reservedSectors then
          [⟨.backupInfoSector, e.backupSector.toNat + BootSector.infoSectorNumber, 1,
            v.infoBytes info⟩]
        else [] := by
  unfold specialStretches
  rw [hinfo, hfat]
  dsimp only
  rw [h.infoSector e hfat]

/-- The information sector and the backups are sectors of the reserved area. -/
theorem Placed.of_mem_specialStretches (h : v.Placed) {s : Stretch}
    (hmem : s ∈ v.specialStretches) :
    s.data.size = v.layout.sectorSize ∧ s.count = 1 ∧ 0 < s.first ∧
      s.first < v.layout.reservedSectors := by
  by_cases hw : v.layout.width = .fat32
  · obtain ⟨info, e, hinfo, hfat⟩ := h.exists_special hw
    rw [h.specialStretches_wide hinfo hfat, List.mem_cons] at hmem
    rcases hmem with rfl | hmem
    · dsimp only
      exact ⟨h.size_infoBytes info, rfl, Nat.one_pos, h.sound.two_le_reservedSectors hw⟩
    · by_cases hzero : e.backupSector.toNat = 0
      · rw [if_pos hzero] at hmem
        exact absurd hmem List.not_mem_nil
      · have hbackup := h.backupSector e hfat fun he => hzero (by rw [he]; rfl)
        rw [if_neg hzero, List.mem_cons] at hmem
        rcases hmem with rfl | hmem
        · exact ⟨h.size_bootBytes, rfl, Nat.zero_lt_of_lt hbackup.1, hbackup.2⟩
        · obtain ⟨hroom, hmem⟩ := List.mem_ite_nil_right.1 hmem
          rw [List.mem_singleton.1 hmem]
          dsimp only
          exact ⟨h.size_infoBytes info, rfl, Nat.succ_pos _, hroom⟩
  · rw [h.specialStretches_narrow hw] at hmem
    exact absurd hmem List.not_mem_nil

/-- The copies of the table lie between the reserved area and the data, and the bytes of each fill its
sectors. -/
theorem of_mem_tableStretches {s : Stretch} (hmem : s ∈ v.tableStretches) :
    s.data.size = s.count * v.layout.sectorSize ∧ v.layout.reservedSectors ≤ s.first ∧
      s.first + s.count ≤ v.layout.tableStart v.layout.tableCount := by
  obtain ⟨copy, hcopy, rfl⟩ := List.mem_map.1 hmem
  have hmul := Nat.mul_le_mul_right v.layout.tableSectors (List.mem_range.1 hcopy)
  rw [Nat.succ_mul] at hmul
  refine ⟨v.size_tableBytes, Nat.le_add_right _ _, ?_⟩
  simp only [Layout.tableStart]
  omega

/-- The root directory lies on the device. -/
theorem Placed.rootFirst_add_le (h : v.Placed) :
    v.rootFirst + v.layout.rootWriteSectors ≤ v.layout.totalSectors := by
  have hstart := h.sound.dataStart_eq
  have hend := h.sound.dataEnd_le
  unfold rootFirst Layout.rootFirst Layout.rootWriteSectors
  cases hw : v.layout.width with
  | fat12 =>
    simp only [Layout.tableStart]
    omega
  | fat16 =>
    simp only [Layout.tableStart]
    omega
  | fat32 =>
    obtain ⟨e, he⟩ := Option.isSome_iff_exists.1 (h.isSome_fat32.trans (decide_eq_true hw))
    have hroot : v.boot.rootCluster = some e.rootCluster.toNat := by
      rw [BootSector.rootCluster, he, Option.map_some]
    obtain ⟨hle, hlt⟩ := Layout.mem_clusters_iff.1 (h.rootCluster _ hroot)
    have hmul := Nat.mul_le_mul_right v.layout.clusterSectors
      (by omega : e.rootCluster.toNat - reservedEntries + 1 ≤ v.layout.clusterCount)
    rw [Nat.succ_mul] at hmul
    simp only [hroot, Option.getD_some, Layout.clusterStart]
    omega

/-- The sections of a volume are whole sectors of its device. -/
theorem Placed.fits (h : v.Placed) {s : Stretch} (hmem : s ∈ v.stretches) :
    s.Fits v.layout.sectorSize v.layout.totalSectors := by
  have hle := h.reservedSectors_le
  have hpos := h.sound.reservedSectors_pos
  have hroot := h.rootFirst_add_le
  simp only [stretches, structures, List.mem_append, List.mem_cons, List.not_mem_nil, or_false,
    or_assoc] at hmem
  rcases hmem with rfl | rfl | hspecial | htable | rfl
  · exact ⟨Buffer.size_filled _ _, (Nat.zero_add _).trans_le hle⟩
  · exact ⟨h.size_bootBytes.trans (Nat.one_mul _).symm, hpos.trans_le hle⟩
  · obtain ⟨hsize, hcount, -, hlt⟩ := h.of_mem_specialStretches hspecial
    exact ⟨by rw [hsize, hcount, Nat.one_mul], by omega⟩
  · obtain ⟨hsize, -, hend⟩ := of_mem_tableStretches htable
    have htables := h.tableStart_le_rootFirst
    exact ⟨hsize, by omega⟩
  · exact ⟨h.size_rootDirectory, hroot⟩

end FreshVolume

namespace RamDisk

variable {d : RamDisk} {start length count : Nat} {data : ByteArray}

/-- A transfer that does not pass is not written. -/
theorem checkWrite_of_error (hready : d.readOnly = false) {stop : Stop TransferError}
    (hcheck : checkTransfer d.sectorSize.toNat d.sectorCount start length = .error stop) :
    d.checkWrite start length = .error stop := by
  unfold checkWrite
  rw [hready, hcheck]
  rfl

/-- A transfer that passes is written unless one of its sectors cannot be. -/
theorem checkWrite_of_ok (hready : d.readOnly = false)
    (hcheck : checkTransfer d.sectorSize.toNat d.sectorCount start length = .ok count) :
    d.checkWrite start length =
      (d.unwritable.firstFrom start count).elim (.ok count) fun bad => refuse (.unwritable bad) := by
  unfold checkWrite
  rw [hready, hcheck]
  cases hbad : d.unwritable.firstFrom start count <;> simp [hbad]

/-- A disk takes a write: its contents have the bytes, its log the sectors. -/
structure Takes (d after : RamDisk) (start count : Nat) (data : ByteArray) : Prop where
  /-- The rest of the disk is the same. -/
  rewritten : d.IsRewritten after
  /-- The bytes lie from the first sector on. -/
  medium : after.medium = d.medium.write (start * d.sectorSize.toNat) data
  /-- The write is logged. -/
  log : after.log = d.log ++ [(start, count)]

/-- The sectors of a section that is taken hold its bytes, and the others what they held before. -/
theorem Takes.sector {after : RamDisk} {s : Stretch} (h : d.Takes after s.first s.count s.data)
    (hsize : s.data.size = s.count * d.sectorSize.toNat) (n : Nat) :
    after.medium.sector d.sectorSize.toNat n =
      if s.Has n then Buffer.sector s.data d.sectorSize.toNat (n - s.first)
      else d.medium.sector d.sectorSize.toNat n := by
  rw [h.medium]
  exact Medium.sector_write hsize n

/-- A write that is checked is taken. -/
theorem write_of_checkWrite (h : d.checkWrite start data.size = .ok count) :
    ∃ after, d.write start data = (.ok (), after) ∧ d.Takes after start count data := by
  unfold write
  rw [h]
  exact ⟨_, rfl, ⟨rfl, rfl, rfl, rfl, rfl, rfl, rfl⟩, rfl, rfl⟩

/-- A write changes the contents and the log at most. -/
theorem isRewritten_write (d : RamDisk) (start : Nat) (data : ByteArray) :
    d.IsRewritten (d.write start data).2 := by
  cases hcheck : d.checkWrite start data.size with
  | error stop =>
    unfold write
    rw [hcheck]
    exact .refl d
  | ok count =>
    obtain ⟨after, hwrite, htakes⟩ := write_of_checkWrite hcheck
    rw [hwrite]
    exact htakes.rewritten

/-- A disk takes sections one after the other. -/
structure TakesAll (d after : RamDisk) (stretches : List Stretch) : Prop where
  /-- The rest of the disk is the same. -/
  rewritten : d.IsRewritten after
  /-- The bytes of the sections are written one over the other. -/
  medium : after.medium = d.medium.writeAll d.sectorSize.toNat (stretches.map Stretch.content)
  /-- A sector holds its part of the last section that has it. -/
  written : ∀ before s rest, stretches = before ++ s :: rest → ∀ n, s.Has n →
    (∀ t ∈ rest, ¬t.Has n) → after.medium.sector d.sectorSize.toNat n =
      Buffer.sector s.data d.sectorSize.toNat (n - s.first)
  /-- A sector that no section has holds what it held before. -/
  kept : ∀ n, (∀ s ∈ stretches, ¬s.Has n) →
    after.medium.sector d.sectorSize.toNat n = d.medium.sector d.sectorSize.toNat n
  /-- Each section is one write in the log. -/
  log : after.log = d.log ++ stretches.map fun s => (s.first, s.count)

theorem TakesAll.nil (d : RamDisk) : d.TakesAll d [] where
  rewritten := .refl d
  medium := rfl
  written _ _ _ hsplit := absurd hsplit.symm (List.append_ne_nil_of_right_ne_nil _ nofun)
  kept _ _ := rfl
  log := (List.append_nil _).symm

/-- A disk takes a section before those that follow. The sectors of the section hold its bytes until a
later one is written over them. -/
theorem TakesAll.cons {middle after : RamDisk} {s : Stretch} {rest : List Stretch}
    (hsize : s.data.size = s.count * d.sectorSize.toNat)
    (hfirst : d.Takes middle s.first s.count s.data) (hrest : middle.TakesAll after rest) :
    d.TakesAll after (s :: rest) where
  rewritten := hfirst.rewritten.trans hrest.rewritten
  medium := by
    rw [hrest.medium, hfirst.medium, hfirst.rewritten.sectorSize_eq]
    rfl
  written := by
    intro before t later hsplit n hn hlater
    have hmiddle := hfirst.sector hsize n
    rw [← hfirst.rewritten.sectorSize_eq] at hmiddle ⊢
    cases before with
    | nil =>
      obtain ⟨rfl, rfl⟩ := List.cons.inj hsplit
      rw [hrest.kept n hlater, hmiddle, if_pos hn]
    | cons u before => exact hrest.written before t later (List.cons.inj hsplit).2 n hn hlater
  kept := by
    intro n hn
    have hmiddle := hfirst.sector hsize n
    rw [if_neg (hn s List.mem_cons_self)] at hmiddle
    rw [← hmiddle, ← hfirst.rewritten.sectorSize_eq]
    exact hrest.kept n fun t ht => hn t (List.mem_cons_of_mem s ht)
  log := by
    rw [hrest.log, hfirst.log, List.append_assoc]
    rfl

/-- A section that fits is written unless one of its sectors cannot be. -/
theorem checkWrite_stretch (hready : d.readOnly = false) {s : Stretch}
    (hfits : s.Fits d.sectorSize.toNat d.sectorCount) :
    d.checkWrite s.first s.data.size =
      (d.unwritable.firstFrom s.first s.count).elim (.ok s.count)
        fun bad => refuse (.unwritable bad) := by
  rw [hfits.size_data, checkWrite_of_ok hready (checkTransfer_of_fits d.sectorSize_pos
    hfits.le_total)]

end RamDisk

namespace Device

variable {d : RamDisk} {s : Stretch} {stretches : List Stretch}

/-- Sections of writable sectors are written before the ones that follow, since a write changes neither
the sizes of a disk nor its unwritable sectors. -/
theorem writeSections_of_clear (hready : d.readOnly = false)
    (hfits : ∀ s ∈ stretches, s.Fits d.sectorSize.toNat d.sectorCount)
    (hclear : ∀ s ∈ stretches, ¬s.Meets d.unwritable) :
    ∃ after, d.TakesAll after stretches ∧ ∀ rest,
      (ram d).writeSections (stretches.map Stretch.placement ++ rest) =
        (ram after).writeSections rest := by
  induction stretches generalizing d with
  | nil => exact ⟨d, .nil d, fun _ => rfl⟩
  | cons s stretches ih =>
    have hcheck := RamDisk.checkWrite_stretch hready (hfits s List.mem_cons_self)
    rw [Stretch.firstFrom_eq_none_iff.2 (hclear s List.mem_cons_self), Option.elim_none] at hcheck
    obtain ⟨middle, hwrite, htakes⟩ := RamDisk.write_of_checkWrite hcheck
    have hsame := htakes.rewritten
    obtain ⟨after, hafter, hrun⟩ := ih (hsame.readOnly_eq.trans hready)
      (fun other hother => by
        rw [hsame.sectorSize_eq, hsame.sectorCount_eq]
        exact hfits other (List.mem_cons_of_mem _ hother))
      (fun other hother => by
        rw [hsame.unwritable_eq]
        exact hclear other (List.mem_cons_of_mem _ hother))
    have hsize := (hfits s List.mem_cons_self).size_data
    refine ⟨after, .cons hsize htakes hafter, fun rest => ?_⟩
    rw [List.map_cons, List.cons_append, writeSections]
    dsimp only [Stretch.placement, Stretch.content, Device.write]
    rw [hwrite]
    exact hrun rest

/-- A section that meets an unwritable sector ends the writing, and the disk is as it was. -/
theorem writeSections_of_meets (hready : d.readOnly = false)
    (hfits : s.Fits d.sectorSize.toNat d.sectorCount) (hmeets : s.Meets d.unwritable)
    (rest : List Placement) :
    ∃ sector, s.IsFirstIn d.unwritable sector ∧
      (ram d).writeSections (s.placement :: rest) =
        (refuse ⟨s.part, .unwritable sector⟩, ram d) := by
  have hcheck := RamDisk.checkWrite_stretch hready hfits
  cases hbad : d.unwritable.firstFrom s.first s.count with
  | none => exact absurd hmeets (Stretch.firstFrom_eq_none_iff.1 hbad)
  | some sector =>
    rw [hbad, Option.elim_some] at hcheck
    refine ⟨sector, Stretch.isFirstIn_of_firstFrom hbad, ?_⟩
    unfold writeSections
    dsimp only [Stretch.placement, Stretch.content, Device.write, RamDisk.write]
    rw [hcheck]
    rfl

/-- A volume without unwritable sectors is written section by section. -/
theorem writeVolume_of_clear {v : FreshVolume} (hv : v.Placed) (hready : d.readOnly = false)
    (hsize : d.sectorSize.toNat = v.layout.sectorSize)
    (htotal : d.sectorCount = v.layout.totalSectors)
    (hclear : ∀ s ∈ v.stretches, ¬s.Meets d.unwritable) :
    ∃ after, d.TakesAll after v.stretches ∧ (ram d).writeVolume v = (.ok (), ram after) := by
  obtain ⟨after, htakes, hrun⟩ := writeSections_of_clear hready
    (fun s hs => by
      rw [hsize, htotal]
      exact hv.fits hs) hclear
  refine ⟨after, htakes, ?_⟩
  unfold writeVolume
  rw [hv.placements_eq]
  dsimp only
  rw [← List.append_nil (v.stretches.map _), hrun]
  rfl

/-- The writing of a volume ends at the first section that meets an unwritable sector, and the sections
before it are written. -/
theorem writeVolume_of_meets {v : FreshVolume} (hv : v.Placed) (hready : d.readOnly = false)
    (hsize : d.sectorSize.toNat = v.layout.sectorSize)
    (htotal : d.sectorCount = v.layout.totalSectors) {before rest : List Stretch}
    (hsplit : v.stretches = before ++ s :: rest)
    (hclear : ∀ t ∈ before, ¬t.Meets d.unwritable) (hmeets : s.Meets d.unwritable) :
    ∃ after sector, s.IsFirstIn d.unwritable sector ∧ d.TakesAll after before ∧
      (ram d).writeVolume v = (refuse ⟨s.part, .unwritable sector⟩, ram after) := by
  have hfits : ∀ t ∈ before ++ s :: rest, t.Fits d.sectorSize.toNat d.sectorCount := by
    rw [← hsplit, hsize, htotal]
    exact fun t ht => hv.fits ht
  obtain ⟨after, htakes, hrun⟩ := writeSections_of_clear hready
    (fun t ht => hfits t (List.mem_append_left _ ht)) hclear
  have hsame := htakes.rewritten
  have hlast := hfits s (List.mem_append_right _ List.mem_cons_self)
  rw [← hsame.sectorSize_eq, ← hsame.sectorCount_eq] at hlast
  rw [← hsame.unwritable_eq] at hmeets
  obtain ⟨sector, hsector, hstop⟩ := writeSections_of_meets (hsame.readOnly_eq.trans hready) hlast
    hmeets (rest.map Stretch.placement)
  rw [hsame.unwritable_eq] at hsector
  refine ⟨after, sector, hsector, htakes, ?_⟩
  unfold writeVolume
  rw [hv.placements_eq, hsplit, List.map_append, List.map_cons]
  exact (hrun _).trans hstop

/-- A volume of a disk that takes writes, and of which every sector can be written, is written. -/
theorem writeVolume_eq_ok (hready : d.readOnly = false) (hunwritable : d.unwritable = ∅)
    {v : FreshVolume} (hv : v.Placed) (hsize : v.layout.sectorSize = d.sectorSize.toNat)
    (htotal : v.layout.totalSectors = d.sectorCount) :
    ((ram d).writeVolume v).1 = .ok () := by
  obtain ⟨after, -, hwrite⟩ := writeVolume_of_clear hv hready hsize.symm htotal.symm
    fun s _ ⟨sector, hmem, _⟩ => Std.ExtTreeSet.not_mem_empty (hunwritable ▸ hmem)
  rw [hwrite]

end Device

end FatVolume
