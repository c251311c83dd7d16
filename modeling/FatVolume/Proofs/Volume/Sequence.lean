import Mathlib.Data.List.Range
import FatVolume.Proofs.Boot.Edits
import FatVolume.Proofs.Volume.Written

/-!
# The sequence of writes

A fresh volume is written in the order of the device: zeros over the reserved area, and then its
structures, each of which starts where the one before it has ended or later
(`Placed.pairwise_structures`). Where they start follows from the layout, the backup and the root
cluster alone (`Layout.places`). A sector that cannot be written stops the writing at the first section
that has it, and at no other (`writeVolume_sequence`).
-/

namespace FatVolume

/-- The section with its first sector and its number of sectors. -/
def Stretch.place (s : Stretch) : Section × Nat × Nat := (s.part, s.first, s.count)

/-- The places of sections tell which sectors they have not. -/
theorem Stretch.not_has_of_place {stretches : List Stretch} {places : List (Section × Nat × Nat)}
    (h : stretches.map Stretch.place = places) {n : Nat}
    (hn : ∀ place ∈ places, ¬(place.2.1 ≤ n ∧ n < place.2.1 + place.2.2)) :
    ∀ s ∈ stretches, ¬s.Has n := by
  subst h
  exact fun s hs => hn s.place (List.mem_map_of_mem hs)

/-- The sections in which a volume with a backup and a root cluster is written. -/
def Layout.places (l : Layout) (backup : UInt16) (root : Option Nat) : List (Section × Nat × Nat) :=
  let backups :=
    if backup = 0 then []
    else (.backupBootSector, backup.toNat, 1) ::
      if backup.toNat + 1 < l.reservedSectors then [(.backupInfoSector, backup.toNat + 1, 1)] else []
  let special := if l.width = .fat32 then (.infoSector, 1, 1) :: backups else []
  (.reservedArea, 0, l.reservedSectors) :: (.bootSector, 0, 1) :: special ++
    (List.range l.tableCount).map (fun copy => (.table copy, l.tableStart copy, l.tableSectors)) ++
      [(.rootDirectory, l.rootFirst root, l.rootWriteSectors)]

namespace FreshVolume

variable {v : FreshVolume}

/-- The information sector and the backups follow one another. -/
theorem Placed.pairwise_specialStretches (h : v.Placed) :
    v.specialStretches.Pairwise fun a b => a.first + a.count ≤ b.first := by
  by_cases hw : v.layout.width = .fat32
  · obtain ⟨info, e, hinfo, hfat⟩ := h.exists_special hw
    have hbackup := h.backupSector e hfat
    rw [h.specialStretches_wide hinfo hfat]
    by_cases hzero : e.backupSector.toNat = 0
    · rw [if_pos hzero]
      exact List.pairwise_singleton _ _
    · have hlt := (hbackup fun he => hzero (by rw [he]; rfl)).1
      rw [if_neg hzero]
      by_cases hin : e.backupSector.toNat + BootSector.infoSectorNumber < v.layout.reservedSectors
      · rw [if_pos hin]
        simp only [BootSector.infoSectorNumber, List.pairwise_cons, List.mem_cons,
          List.not_mem_nil, or_false, forall_eq_or_imp, forall_eq, IsEmpty.forall_iff,
          implies_true, List.Pairwise.nil, and_true] at hlt ⊢
        omega
      · rw [if_neg hin]
        exact List.pairwise_pair.2 hlt
  · rw [h.specialStretches_narrow hw]
    exact List.Pairwise.nil

/-- The copies of the table follow one another. -/
theorem pairwise_tableStretches (v : FreshVolume) :
    v.tableStretches.Pairwise fun a b => a.first + a.count ≤ b.first := by
  unfold tableStretches
  rw [List.pairwise_map]
  refine List.pairwise_lt_range.imp fun {a b} hlt => ?_
  have hmul := Nat.mul_le_mul_right v.layout.tableSectors (Nat.succ_le_of_lt hlt)
  rw [Nat.succ_mul] at hmul
  simp only [Layout.tableStart]
  omega

/-- The structures of a volume follow one another. The boot sector and the special sectors are
reserved, then come the tables, then the root directory. -/
theorem Placed.pairwise_structures (h : v.Placed) :
    v.structures.Pairwise fun a b => a.first + a.count ≤ b.first := by
  have hpos := h.sound.reservedSectors_pos
  have hroot := h.tableStart_le_rootFirst
  have htable : v.layout.reservedSectors ≤ v.layout.tableStart v.layout.tableCount :=
    Nat.le_add_right _ _
  unfold structures
  rw [List.pairwise_append, List.pairwise_append, List.pairwise_cons]
  refine ⟨⟨⟨fun s hs => ?_, h.pairwise_specialStretches⟩, v.pairwise_tableStretches,
    fun a ha b hb => ?_⟩, List.pairwise_singleton _ _, fun a ha b hb => ?_⟩
  · obtain ⟨-, -, hfirst, -⟩ := h.of_mem_specialStretches hs
    exact hfirst
  · obtain ⟨-, hstart, -⟩ := of_mem_tableStretches hb
    rcases List.mem_cons.1 ha with rfl | ha
    · exact hpos.trans_le hstart
    · obtain ⟨-, hcount, -, hlt⟩ := h.of_mem_specialStretches ha
      omega
  · rw [List.mem_singleton.1 hb]
    dsimp only
    rcases List.mem_append.1 ha with ha | ha
    · rcases List.mem_cons.1 ha with rfl | ha
      · dsimp only
        omega
      · obtain ⟨-, hcount, -, hlt⟩ := h.of_mem_specialStretches ha
        omega
    · obtain ⟨-, -, hend⟩ := of_mem_tableStretches ha
      omega

/-- The sections of a volume lie where the layout, the backup and the root cluster have them. -/
theorem Placed.map_place (h : v.Placed) {backup : UInt16}
    (hbackup : ∀ e, v.boot.fat32 = some e → e.backupSector = backup) :
    v.stretches.map Stretch.place = v.layout.places backup v.boot.rootCluster := by
  have htables : v.tableStretches.map Stretch.place = (List.range v.layout.tableCount).map
      fun copy => (Section.table copy, v.layout.tableStart copy, v.layout.tableSectors) := by
    unfold tableStretches
    rw [List.map_map]
    rfl
  unfold stretches structures Layout.places
  simp only [List.map_cons, List.map_append, List.map_nil, htables, Stretch.place,
    List.cons_append]
  by_cases hw : v.layout.width = .fat32
  · obtain ⟨info, e, hinfo, hfat⟩ := h.exists_special hw
    have hzero : backup.toNat = 0 ↔ backup = 0 := by
      rw [← UInt16.toNat_inj]
      rfl
    rw [if_pos hw, h.specialStretches_wide hinfo hfat, hbackup e hfat]
    by_cases hb : backup = 0
    · rw [if_pos hb, if_pos (hzero.2 hb)]
      rfl
    · rw [if_neg hb, if_neg (mt hzero.1 hb)]
      by_cases hin : backup.toNat + BootSector.infoSectorNumber < v.layout.reservedSectors
      · rw [if_pos hin, if_pos (show backup.toNat + 1 < _ from hin)]
        rfl
      · rw [if_neg hin, if_neg (show ¬backup.toNat + 1 < _ from hin)]
        rfl
  · rw [h.specialStretches_narrow hw, if_neg hw]
    rfl

/-- A fresh volume lies where its layout has it, also after requests to mark sectors bad, and its
backup is the one that was asked for. -/
theorem placed_afterRequests {l : Layout} (h : l.Sound) {boot : BootSector} (hboot : boot.Readable)
    {g : Geometry} {info : VolumeInfo} {backup : UInt16}
    (hfat32 : boot.fat32 = (BootSector.fresh l g info backup).fat32)
    (hbackup : l.width = .fat32 → backup ≠ 0 →
      BootSector.infoSectorNumber < backup.toNat ∧ backup.toNat < l.reservedSectors)
    (v : VolumeInfo) :
    ∃ start, make l boot v = .ok start ∧ ∀ requests,
      (start.afterRequests requests).Placed ∧ (start.afterRequests requests).layout = l ∧
        ∀ e, (start.afterRequests requests).boot.fat32 = some e → e.backupSector = backup := by
  have hroot := BootSector.rootCluster_of_fat32_eq hfat32
  have hsome : boot.fat32.isSome = decide (l.width = .fat32) := by
    rw [hfat32]
    exact BootSector.isSome_fat32_fresh l g info backup
  refine ⟨_, make_eq h hroot v, fun requests => ?_⟩
  obtain ⟨hafter, -, hroom⟩ := afterRequests_ofBad h hsome v.media
    (rootDirectoryOf (l.rootWriteSectors * l.sectorSize) v) requests (Finset.empty_subset _)
    (not_exhausts_empty h)
  rw [hafter]
  refine ⟨placed_ofBad h hboot hfat32 hbackup hroom v, rfl, fun e he => ?_⟩
  obtain ⟨start, hstart, -, hsame⟩ := fat32_ofBad he
  exact hsame.trans (BootSector.fat32_fresh (hfat32 ▸ hstart)).2.2

/-- How a disk takes a volume: section by section, up to the first one that meets an unwritable
sector. -/
structure IsWrittenInOrder (v : FreshVolume) (d : RamDisk) : Prop where
  /-- The writing fails just if a section meets an unwritable sector. -/
  fails_iff : (∃ stop, ((Device.ram d).writeVolume v).1 = .error stop) ↔
    ∃ s ∈ v.stretches, s.Meets d.unwritable
  /-- All sections are taken if none does. -/
  of_clear : (∀ s ∈ v.stretches, ¬s.Meets d.unwritable) → ∃ after,
    d.TakesAll after v.stretches ∧ (Device.ram d).writeVolume v = (.ok (), .ram after)
  /-- The first section that does is refused for its first unwritable sector, and only the sections
  before it are taken. -/
  of_meets : ∀ before s rest, v.stretches = before ++ s :: rest →
    (∀ t ∈ before, ¬t.Meets d.unwritable) → s.Meets d.unwritable →
    ∃ after sector, s.IsFirstIn d.unwritable sector ∧ d.TakesAll after before ∧
      (Device.ram d).writeVolume v = (refuse ⟨s.part, .unwritable sector⟩, .ram after)

/-- A disk of the size of a volume takes it section by section. -/
theorem Placed.isWrittenInOrder (h : v.Placed) {d : RamDisk} (hready : d.readOnly = false)
    (hsize : d.sectorSize.toNat = v.layout.sectorSize)
    (htotal : d.sectorCount = v.layout.totalSectors) : v.IsWrittenInOrder d := by
  have hclear := Device.writeVolume_of_clear h hready hsize htotal
  refine ⟨⟨?_, fun hsome => ?_⟩, hclear, fun before s rest hsplit hbefore hs =>
    Device.writeVolume_of_meets h hready hsize htotal hsplit hbefore hs⟩
  · rintro ⟨stop, hstop⟩
    by_contra hnone
    obtain ⟨after, -, hwrite⟩ := hclear fun s hs hmeets => hnone ⟨s, hs, hmeets⟩
    rw [hwrite] at hstop
    cases hstop
  · obtain ⟨before, s, rest, hsplit, hbefore, hs⟩ := Stretch.exists_first_meets hsome
    obtain ⟨after, sector, -, -, hwrite⟩ :=
      Device.writeVolume_of_meets h hready hsize htotal hsplit hbefore hs
    exact ⟨_, congrArg Prod.fst hwrite⟩

/-- **The first section that cannot be written ends the writing.** For every device, all options and
whatever the volume and its boot sector record: the volume of a computed layout is made, and also after
requests to mark sectors bad, and with any messages and partition tables,

* its sections are those of its layout, its backup and its root cluster, each is whole sectors of the
  device, and its structures follow one another;
* a disk of its size that takes writes takes it section by section (`IsWrittenInOrder`): it refuses the
  first section that meets an unwritable sector. Each of its sectors then holds its part of the last
  section before that which has it, or else what it held before (`RamDisk.TakesAll`). -/
theorem writeVolume_sequence (g : Geometry) (o : Layout.Options) (l : Layout)
    (h : Layout.compute g o = .ok l) (recorded : Geometry) (bootInfo info : VolumeInfo)
    (backup : UInt16) (hbackup : l.width = .fat32 → backup ≠ 0 →
      2 ≤ backup.toNat ∧ backup.toNat < l.reservedSectors) (edits : List BootSector.Edit) :
    ∃ start, make l ((BootSector.fresh l recorded bootInfo backup).afterEdits edits) info =
      .ok start ∧ ∀ requests, let v := start.afterRequests requests
        v.stretches.map Stretch.place = l.places backup v.boot.rootCluster ∧
        (∀ s ∈ v.stretches, s.Fits l.sectorSize l.totalSectors) ∧
        v.structures.Pairwise (fun a b => a.first + a.count ≤ b.first) ∧
        ∀ d : RamDisk, d.readOnly = false → d.sectorSize.toNat = l.sectorSize →
          d.sectorCount = l.totalSectors → v.IsWrittenInOrder d := by
  have hsound := Layout.sound_of_compute h
  have hreadable := (BootSector.readable_fresh hsound recorded bootInfo backup).afterEdits edits
  have hfat32 : ((BootSector.fresh l recorded bootInfo backup).afterEdits edits).fat32 =
      (BootSector.fresh l recorded bootInfo backup).fat32 := by
    rw [BootSector.afterEdits_eq]
  obtain ⟨start, hstart, hplaced⟩ := placed_afterRequests hsound hreadable hfat32 hbackup info
  refine ⟨start, hstart, fun requests => ?_⟩
  obtain ⟨hv, hlayout, hsame⟩ := hplaced requests
  dsimp only
  rw [← hlayout]
  exact ⟨hv.map_place hsame, fun s hs => hv.fits hs, hv.pairwise_structures,
    fun d hready hsize htotal => hv.isWrittenInOrder hready hsize htotal⟩

variable {d after : RamDisk} {reserved boot : Stretch} {more rest : List Stretch}

/-- A disk that took the boot sector of a volume has it on its first sector, whatever structures it
took after it. -/
theorem Placed.bootSector_of_takesAll (h : v.Placed)
    (hsize : d.sectorSize.toNat = v.layout.sectorSize)
    (hsplit : v.stretches = reserved :: boot :: more ++ rest)
    (htakes : d.TakesAll after (reserved :: boot :: more)) :
    after.medium.sector v.layout.sectorSize 0 = v.bootBytes := by
  have hstructures : v.structures = boot :: more ++ rest := (List.cons.inj hsplit).2
  have hpairwise := h.pairwise_structures
  rw [hstructures, List.cons_append] at hpairwise
  obtain ⟨rfl, -⟩ := List.cons.inj hstructures
  have hlater : ∀ t ∈ more, ¬t.Has 0 := fun t ht hin => by
    have hfirst := List.rel_of_pairwise_cons hpairwise (List.mem_append_left rest ht)
    exact Nat.not_succ_le_zero 0 (hfirst.trans hin.1)
  rw [← hsize, htakes.written [reserved] _ more rfl 0 ⟨le_rfl, Nat.one_pos⟩ hlater, hsize]
  exact Buffer.sector_zero h.size_bootBytes

/-- A disk that took the zeros of the reserved area has them on every reserved sector that no section
after them has. -/
theorem zeros_of_takesAll (hsize : d.sectorSize.toNat = v.layout.sectorSize)
    (hsplit : v.stretches = reserved :: more ++ rest)
    (htakes : d.TakesAll after (reserved :: more)) {n : Nat} (hn : n < v.layout.reservedSectors)
    (hnone : ∀ t ∈ more, ¬t.Has n) :
    after.medium.sector v.layout.sectorSize n = Buffer.zeros v.layout.sectorSize := by
  obtain ⟨rfl, -⟩ := List.cons.inj hsplit
  rw [← hsize, htakes.written [] _ more rfl n ⟨Nat.zero_le n, (Nat.zero_add _).symm ▸ hn⟩ hnone,
    hsize]
  exact Buffer.sector_zeros hn

/-- A disk of 70000 sectors one of which cannot be written. -/
def wornDisk : RamDisk := .worn 70000 (by decide) 0xE5 [] [600]

/-- The sector lies in the second copy of the table, before which six sections are written. The boot
sector then stands over the zeros of the reserved area, and the first sector of the second copy holds
what it held before. -/
theorem writeVolume_sequence_fat32 :
    let g : Geometry := ⟨512, 70000, ⟨255, 63⟩, 0⟩
    let info : VolumeInfo := ⟨Label.unnamed, 0, 0x80, 0xF8, Moment.epoch⟩
    ∃ l start after, Layout.compute g { width := some .fat32 } = .ok l ∧
      make l (BootSector.fresh l g info 6) info = .ok start ∧
      (Device.ram wornDisk).writeVolume start =
        (refuse ⟨.table 1, .unwritable 600⟩, .ram after) ∧
      after.log = [(0, 32), (0, 1), (1, 1), (6, 1), (7, 1), (32, 539)] ∧
      after.medium.sector 512 0 = start.bootBytes ∧
      after.medium.sector 512 3 = Buffer.zeros 512 ∧
      after.medium.sector 512 571 = Buffer.filled 512 0xE5 := by
  intro g info
  have hl : Layout.compute g { width := some .fat32 } =
      .ok ⟨.fat32, 512, 1, 68890, 539, 2, 32, 0, 0, 1110, 70000, true⟩ :=
    eq_ok_of_toOption (by decide)
  obtain ⟨start, hstart, hrun⟩ := writeVolume_sequence _ _ _ hl g info info 6
    (fun _ _ => by decide) []
  obtain ⟨hplaces, -, -, hdisk⟩ := hrun []
  have hsound := Layout.sound_of_compute hl
  obtain ⟨volume, hvolume, hall⟩ := placed_afterRequests hsound
    (BootSector.readable_fresh hsound g info 6) rfl (fun _ _ => by decide) info
  obtain rfl : start = volume := Except.ok.inj (hstart.symm.trans hvolume)
  have hcount : wornDisk.sectorCount = 70000 := RamDisk.sectorCount_worn _ _ _ _ _
  have hmem : ∀ sector, sector ∈ wornDisk.unwritable ↔ sector = 600 := fun sector =>
    SectorSet.mem_ofList.trans List.mem_singleton
  obtain ⟨before, tail, hsplit, hbefore, htail⟩ := List.map_eq_append_iff.1
    (show start.stretches.map Stretch.place =
      [(.reservedArea, 0, 32), (.bootSector, 0, 1), (.infoSector, 1, 1), (.backupBootSector, 6, 1),
        (.backupInfoSector, 7, 1), (.table 0, 32, 539)] ++ [(.table 1, 571, 539), _] from hplaces)
  obtain ⟨s, rest, rfl, hs, -⟩ := List.map_eq_cons_iff.1 htail
  obtain ⟨hpart, hfirst, hlength⟩ : s.part = .table 1 ∧ s.first = 571 ∧ s.count = 539 := by
    simpa [Stretch.place] using hs
  have hclear : ∀ t ∈ before, ¬t.Meets wornDisk.unwritable := by
    rintro t ht ⟨sector, hsector, hin⟩
    exact Stretch.not_has_of_place hbefore (n := 600) (by decide) t ht ((hmem sector).1 hsector ▸ hin)
  obtain ⟨after, sector, hsector, htakes, hwrite⟩ := (hdisk wornDisk rfl rfl hcount).of_meets before
    s rest hsplit hclear ⟨600, (hmem 600).2 rfl, by omega, by omega⟩
  have hlog := congrArg (List.map Prod.snd) hbefore
  rw [List.map_map] at hlog
  rw [hpart, (hmem sector).1 hsector.1.1] at hwrite
  refine ⟨_, start, after, hl, hstart, hwrite, htakes.log.trans hlog, ?_⟩
  obtain ⟨reserved, later, rfl, -, hlater⟩ := List.map_eq_cons_iff.1 hbefore
  obtain ⟨boot, more, rfl, -⟩ := List.map_eq_cons_iff.1 hlater
  obtain ⟨hplaced, hlayout⟩ : start.Placed ∧ start.layout = _ := ⟨(hall []).1, (hall []).2.1⟩
  have hsize : wornDisk.sectorSize.toNat = start.layout.sectorSize := by
    rw [hlayout]
    rfl
  have hfirstSector := hplaced.bootSector_of_takesAll hsize hsplit htakes
  have hthird := zeros_of_takesAll hsize hsplit htakes (n := 3) (by rw [hlayout]; decide)
    (Stretch.not_has_of_place hlater (by decide))
  have hkept := htakes.kept 571 (Stretch.not_has_of_place hbefore (by decide))
  rw [hlayout] at hfirstSector hthird
  exact ⟨hfirstSector, hthird, hkept⟩

end FreshVolume

end FatVolume
