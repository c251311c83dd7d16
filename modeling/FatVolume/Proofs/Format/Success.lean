import FatVolume.Proofs.Calendar.Stamp
import FatVolume.Proofs.Format.Image
import FatVolume.Proofs.Layout.Recount

/-!
# Formats that succeed

A format succeeds just if the request and the device settle on a plan and its volume is written
(`format_eq_ok_iff`). On a disk in memory the result is known to the last byte (`format_image`):
what the report says and what the volume holds follows from what was settled, the volume lies where
the reported layout has its parts, and a driver reads back what was written.
-/

namespace FatVolume

namespace Request

variable {r : Request} {d : Device} {s : Settled} {now : Clock} {created : Moment}

/-- The report of a plan that is carried out. -/
def Settled.report (s : Settled) (r : Request) (now : Clock) : Report :=
  (Plan.mk (s.volume r now) (s.info r now) s.backup).report

/-- A format that settles on a plan writes its volume and reports the plan if that succeeds. -/
theorem Settles.format_eq (h : r.Settles d s) (now : Clock) :
    (format d r now).1.outcome = (Guarded.widen Error.write (d.writeVolume (s.volume r now)).1).map
        (fun _ => s.report r now) ∧
      (format d r now).2 = (d.writeVolume (s.volume r now)).2 := by
  unfold format
  dsimp only
  rw [h.plan_eq now]
  exact ⟨rfl, rfl⟩

/-- A format succeeds just if a plan is settled on and its volume is written. -/
theorem format_eq_ok_iff {report : Report} :
    (format d r now).1.outcome = .ok report ↔
      ∃ s, r.Settles d s ∧ (d.writeVolume (s.volume r now)).1 = .ok () ∧
        report = s.report r now := by
  constructor
  · intro h
    cases hplan : (r.plan d now).outcome with
    | error stop =>
      unfold format at h
      dsimp only at h
      rw [hplan] at h
      cases h
    | ok p =>
      obtain ⟨s, hs, -⟩ := plan_eq_ok hplan
      rw [(hs.format_eq now).1] at h
      cases hwrite : (d.writeVolume (s.volume r now)).1 with
      | error stop =>
        rw [hwrite] at h
        cases h
      | ok _ =>
        rw [hwrite] at h
        exact ⟨s, hs, hwrite, (Except.ok.inj h).symm⟩
  · rintro ⟨s, hs, hwrite, rfl⟩
    rw [(hs.format_eq now).1, hwrite]
    rfl

/-- A request with a moment of creation does not look at the clock. -/
theorem Settled.info_eq (hcreated : r.created = some created) (s : Settled) (now : Clock) :
    s.info r now = s.info r created := by
  unfold Settled.info volumeInfo
  rw [hcreated]
  rfl

/-- The volume of a plan lies where its layout has it. -/
theorem Settles.placed (h : r.Settles d s) (now : Clock) : (s.volume r now).Placed := by
  have hsound := Layout.sound_of_compute h.layout
  exact FreshVolume.placed_ofBad hsound (faithful_bootOf r hsound _ _ _).readable (fat32_bootOf _ _ _ _ _)
    (fun _ hne => (h.valid.backup hsound h.backup hne).2) h.room _

/-- The layout of a plan has the sectors of a disk in memory. -/
theorem Settles.sectors_eq {d : RamDisk} (h : r.Settles (.ram d) s) :
    s.layout.sectorSize = d.sectorSize.toNat ∧ s.layout.totalSectors = d.sectorCount := by
  obtain ⟨hsize, htotal⟩ := Layout.sectors_of_compute h.layout
  obtain ⟨hblock, hcount⟩ := geometry_eq_ok h.geometry
  rw [hblock] at hsize
  rw [hcount] at htotal
  exact ⟨hsize, htotal.trans (UInt64.toNat_ofNat_of_lt' d.sectorCount_lt)⟩

/-- The backup that is reported is the one that the boot sector names. -/
theorem Settles.backupSector_eq (h : r.Settles d s) (now : Clock) :
    (s.report r now).backupSector = (s.volume r now).boot.backupPlace := by
  have hsound := Layout.sound_of_compute h.layout
  have hwidth := (h.placed now).isSome_fat32
  unfold BootSector.backupPlace
  cases hfat : (s.volume r now).boot.fat32 with
  | none =>
    rw [hfat] at hwidth
    have hzero : s.backup = 0 := by
      by_contra hne
      exact of_decide_eq_false hwidth.symm (h.valid.backup hsound h.backup hne).1
    exact if_pos hzero
  | some e =>
    obtain ⟨start, hstart, -, hsame⟩ := FreshVolume.fat32_ofBad hfat
    have hstart : (r.bootOf s.layout s.geometry (s.info r now) s.backup).fat32 = some start :=
      hstart
    rw [fat32_bootOf] at hstart
    rw [Option.bind_some, hsame, (BootSector.fat32_fresh hstart).2.2]
    rfl

/-- The floppy format of a plan has entries of the root directory. -/
theorem Settles.rootEntries_floppy (h : r.Settles d s) {f : FloppyFormat} (hf : s.floppy = some f) :
    IsPositiveField16 f.rootEntries.toNat := by
  have hall : ∀ f ∈ FloppyFormat.all, IsPositiveField16 f.rootEntries.toNat := by decide
  have hfloppy := h.floppy
  rw [hf] at hfloppy
  exact hall f (mem_all_of_floppyFormat hfloppy)

/-- The root directory of a plan has room for a label. -/
theorem Settles.directoryEntryBytes_le (h : r.Settles d s) :
    directoryEntryBytes ≤ s.layout.rootWriteSectors * s.layout.sectorSize := by
  have hsound := Layout.sound_of_compute h.layout
  have hsector := hsound.sectorSize.2.1
  have hentries := h.valid.rootEntries_options fun f hf => h.rootEntries_floppy hf
  have hpos : 0 < s.layout.rootWriteSectors := by
    have hroot := fun hw =>
      Layout.rootSectors_pos_of_compute h.layout hw (Nat.pos_of_ne_zero hentries.1)
    unfold Layout.rootWriteSectors
    cases hw : s.layout.width with
    | fat12 => exact hroot (by rw [hw]; decide)
    | fat16 => exact hroot (by rw [hw]; decide)
    | fat32 => exact hsound.clusterSectors.1.pos
  have hmul := Nat.mul_le_mul_right s.layout.sectorSize hpos
  simp only [directoryEntryBytes]
  omega

/-- What the report of a plan says and what its volume holds. -/
structure Settled.Describes (s : Settled) (r : Request) (created : Moment) (report : Report)
    (v : FreshVolume) : Prop where
  /-- The layout is reported. -/
  layout_report : report.layout = s.layout
  /-- The volume number is the one asked for, or that of the moment of creation. -/
  volumeId : report.volumeId = r.volumeId.getD created.volumeId
  /-- The label is reported. -/
  label : report.label = s.label
  /-- The clusters that hold a bad sector are counted. -/
  badClusters : report.badClusters = s.badClusters.card
  /-- The clusters that are left are counted, without that of the root directory. -/
  freeClusters : report.freeClusters =
    s.layout.clusterCount - s.badClusters.card - (if s.layout.width = .fat32 then 1 else 0)
  /-- The backup is reported if there is one. -/
  backupSector : report.backupSector = if s.backup = 0 then none else some s.backup.toNat
  /-- The volume has the layout. -/
  layout : v.layout = s.layout
  /-- The boot sector is that of the request, with the root directory where it is reported. -/
  boot : v.boot = report.rootCluster.elim (s.boot r created)
    (FreshVolume.withRoot (s.boot r created))
  /-- On FAT12 and FAT16 the root directory is on no cluster, and there is no information sector. -/
  narrow : s.layout.width ≠ .fat32 → report.rootCluster = none ∧ v.info = none
  /-- On FAT32 the root directory is on the least cluster without a bad sector. The information
  sector counts the free clusters and names the first of them. -/
  wide : s.layout.width = .fat32 → ∃ root info, report.rootCluster = some root ∧
    IsLeast {c | c ∈ s.layout.clusters ∧ c ∉ s.badClusters} root ∧ v.info = some info ∧
    info.freeClusters.toNat = report.freeClusters ∧
    (IsLeast {c | c ∈ s.layout.clusters ∧ c ∉ s.badClusters ∧ c ≠ root} info.nextFree.toNat ∨
      (∀ c ∈ s.layout.clusters, c ∉ s.badClusters → c = root) ∧
        info.nextFree = InfoSector.unknown)
  /-- The table has the width of the layout. -/
  width_table : v.table.width = s.layout.width
  /-- The table has the entries of all clusters and the reserved ones. -/
  entryCount_table : v.table.entryCount = s.layout.clusterCount + reservedEntries
  /-- The first two entries are reserved, clusters with bad sectors are marked, the root directory
  ends a chain, and all other clusters are free. -/
  entry : ∀ i, i < s.layout.clusterCount + reservedEntries → v.table.entries[i]? = some (
    if i = 0 then s.layout.width.mask - 255 + (s.info r created).media.toNat
    else if i = 1 then s.layout.width.mask
    else if i ∈ s.badClusters then s.layout.width.badMarker
    else if report.rootCluster = some i then s.layout.width.endMarker
    else 0)
  /-- The root directory holds the label if the volume has a name, and zeros. -/
  rootDirectory : let bytes := s.layout.rootWriteSectors * s.layout.sectorSize
    v.rootDirectory =
      if s.label = Label.unnamed then Buffer.zeros bytes
      else Buffer.ofList (s.label.entry created) ++ Buffer.zeros (bytes - directoryEntryBytes)

/-- The boot sector of a plan has its root directory on the first cluster, before it is moved. -/
theorem Settled.rootCluster_boot (s : Settled) (r : Request) (now : Clock) :
    (s.boot r now).rootCluster =
      if s.layout.width = .fat32 then some firstRootCluster else none :=
  BootSector.rootCluster_of_fat32_eq (r.fat32_bootOf _ _ _ _)

/-- The root directory that is reported is on the least cluster without a bad sector. -/
theorem Settles.rootCluster_eq (h : r.Settles d s) (now : Clock) :
    (s.report r now).rootCluster = s.layout.rootFor s.badClusters :=
  FreshVolume.rootCluster_ofBad (Layout.sound_of_compute h.layout) (s.rootCluster_boot r now) h.room
    _ _

/-- The volume of a plan has the bad clusters of the plan. -/
theorem Settles.hasDefects (h : r.Settles d s) (now : Clock) :
    ∃ start, FreshVolume.HasDefects start (s.info r now).media s.badClusters (s.volume r now) ∧
      start.layout = s.layout ∧ start.boot = s.boot r now := by
  have hsound := Layout.sound_of_compute h.layout
  have hstart := s.rootCluster_boot r now
  exact ⟨_, FreshVolume.hasDefects_ofBad hsound hstart (s.layout.hit_subset s.bad) h.room, rfl,
    FreshVolume.boot_ofBad_empty hsound hstart _ _⟩

/-- The free clusters of a plan are neither bad nor that of the root directory. -/
theorem Settles.freeClusters_eq (h : r.Settles d s) (now : Clock) :
    (s.report r now).freeClusters =
      s.layout.clusterCount - s.badClusters.card - (if s.layout.width = .fat32 then 1 else 0) := by
  have hbad : s.badClusters ⊆ s.layout.clusters := s.layout.hit_subset s.bad
  have hfree : (s.report r now).freeClusters =
      (Table.free s.layout s.badClusters (s.layout.rootFor s.badClusters)).card :=
    Table.freeClusters_withDefects
  rw [hfree]
  by_cases hw : s.layout.width = .fat32
  · obtain ⟨root, hleast⟩ := FreshVolume.exists_leastGood hw h.room
    rw [Layout.rootFor_wide hw, hleast, if_pos hw, FreshVolume.card_free _ hbad fun c hc =>
      Option.some.inj hc ▸ (Layout.leastGood_eq_some_iff.1 hleast).1]
    rfl
  · rw [Layout.rootFor_narrow hw, if_neg hw,
      FreshVolume.card_free none hbad fun root hroot => (Option.some_ne_none root hroot.symm).elim]
    rfl

/-- The report of a plan and its volume are as they are described. -/
theorem Settles.describes (h : r.Settles d s) (hcreated : r.created = some created) (now : Clock) :
    s.Describes r created (s.report r now) (s.volume r now) := by
  have hinfo := s.info_eq hcreated now
  have hboot : s.boot r now = s.boot r created := by
    unfold Settled.boot
    rw [hinfo]
  have hfree := h.freeClusters_eq now
  obtain ⟨start, hdefects, hlayout, hstart⟩ := h.hasDefects now
  have hnarrow := hdefects.narrow
  have hwide := hdefects.wide
  rw [hlayout, hstart] at hnarrow hwide
  exact {
    layout_report := rfl
    volumeId := by
      show (s.info r now).volumeId = _
      rw [hinfo]
      show r.volumeId.getD (r.created.getD created).volumeId = _
      rw [hcreated]
      rfl
    label := rfl
    badClusters := rfl
    freeClusters := hfree
    backupSector := rfl
    layout := rfl
    boot := by
      show (s.volume r now).boot =
        (s.volume r now).boot.rootCluster.elim (s.boot r created) _
      rw [← hboot]
      by_cases hw : s.layout.width = .fat32
      · obtain ⟨root, info, -, hmoved, hroot, -⟩ := hwide hw
        rw [hroot]
        exact hmoved
      · obtain ⟨hsame, hnone, -⟩ := hnarrow hw
        rw [hnone]
        exact hsame
    narrow := fun hw => (hnarrow hw).2
    wide := fun hw => by
      obtain ⟨root, info, hleast, -, hroot, -, hsome, hcount, hnext⟩ := hwide hw
      rw [if_pos hw] at hfree
      exact ⟨root, info, hroot, hleast, hsome, hcount.trans hfree.symm, hnext⟩
    width_table := rfl
    entryCount_table := Table.entryCount_withDefects
    entry := fun i hi => by
      rw [h.rootCluster_eq, ← hinfo]
      exact (Table.getElem?_withDefects i).trans (if_pos hi)
    rootDirectory := by
      have hlabel : (s.info r created).label = s.label := rfl
      have hmoment : (s.info r created).created = created := by
        show r.created.getD created = created
        rw [hcreated]
        rfl
      show FreshVolume.rootDirectoryOf _ (s.info r now) = _
      rw [hinfo, FreshVolume.rootDirectoryOf_of_le h.directoryEntryBytes_le, hlabel, hmoment] }

/-- The bytes of the root directory are the entry of the label, if there is one, and zeros. -/
theorem Settled.Describes.toList_rootDirectory {report : Report} {v : FreshVolume}
    (h : s.Describes r created report v) : ∃ n, v.rootDirectory.data.toList =
      (if s.label = Label.unnamed then [] else s.label.entry created) ++ List.replicate n 0 := by
  rw [h.rootDirectory]
  split
  · exact ⟨_, by rw [Buffer.zeros, Buffer.data_filled, Array.toList_replicate, List.nil_append]⟩
  · exact ⟨_, by rw [ByteArray.data_append, Array.toList_append, Buffer.zeros, Buffer.data_filled,
      Array.toList_replicate, Buffer.ofList, List.data_toByteArray]⟩

end Request

namespace RamDisk

/-- The bytes of the root directory of a volume on a disk. -/
def rootBytes (d : RamDisk) (v : FreshVolume) : List UInt8 :=
  (d.medium.read (v.rootFirst * v.layout.sectorSize)
    (v.layout.rootWriteSectors * v.layout.sectorSize)).data.toList

/-- A driver reads from a disk what was written of a volume. -/
structure ReadsBack (d : RamDisk) (v : FreshVolume) (label : Label) (created : Moment) : Prop where
  /-- The boot sector is read back, with its boot code as it lies under a partition table. -/
  bootSector : ∃ bytes, d.sector 0 = .ok bytes ∧
    BootSector.decode bytes.data.toList = some { v.boot with code := v.boot.codeOnDisk }
  /-- The information sector is read back. -/
  infoSector : ∀ info, v.info = some info → ∃ bytes,
    d.sector BootSector.infoSectorNumber = .ok bytes ∧
      InfoSector.decode bytes.data.toList = some info
  /-- The table is read back from each copy. -/
  table : ∀ copy, copy < v.layout.tableCount →
    Table.unpack v.layout.width (v.layout.clusterCount + reservedEntries)
      (d.medium.read (v.layout.tableStart copy * v.layout.sectorSize) v.layout.tableAreaBytes) =
        .ok v.table
  /-- The root directory of a volume with a name starts with the entry that names it. -/
  volumeEntry : label ≠ Label.unnamed → label.NamesVolume created ((d.rootBytes v).take 32)
  /-- All other bytes of the root directory are zeros. -/
  rootZeros : ∀ b ∈ (d.rootBytes v).drop (if label = Label.unnamed then 0 else 32), b = 0

/-- What a plan wrote is read back. -/
theorem IsFormatted.readsBack {before after : RamDisk} {r : Request} {d : Device}
    {s : Request.Settled} {now : Clock} {created : Moment}
    (h : before.IsFormatted after (s.report r now) (s.volume r now)) (hs : r.Settles d s)
    (hcreated : r.created = some created) :
    after.ReadsBack (s.volume r now) s.label created := by
  have hsound := Layout.sound_of_compute hs.layout
  have hplaced := hs.placed now
  obtain ⟨n, hroot⟩ := (hs.describes hcreated now).toList_rootDirectory
  have hbytes : after.rootBytes (s.volume r now) = _ :=
    (congrArg (·.data.toList) h.rootDirectory).trans hroot
  exact {
    bootSector := by
      refine ⟨_, h.bootSector, ?_⟩
      have hfaithful : (s.volume r now).boot.Faithful :=
        FreshVolume.faithful_ofBad (Request.faithful_bootOf r hsound _ _ _)
      unfold FreshVolume.bootBytes Buffer.ofList
      rw [List.data_toByteArray]
      exact hfaithful.decode_encode _
    infoSector := fun info hinfo => by
      refine ⟨_, h.infoSector info hinfo, ?_⟩
      unfold FreshVolume.infoBytes Buffer.ofList
      rw [List.data_toByteArray]
      exact info.decode_encode _
    table := fun copy hcopy => by
      refine (congrArg (Table.unpack _ _) ((h.table copy hcopy).trans
        (Buffer.resize_of_le hplaced.size_pack_le).symm)).trans ?_
      exact Table.unpack_withDefects hsound (s.layout.hit_subset s.bad) _ _
    volumeEntry := fun hnamed => by
      rw [hbytes, if_neg hnamed, List.take_left' (s.label.length_entry created)]
      exact s.label.namesVolume_entry created
    rootZeros := fun b hb => by
      rw [hbytes] at hb
      split at hb
      · exact List.eq_of_mem_replicate hb
      · rw [List.drop_left' (s.label.length_entry created)] at hb
        exact List.eq_of_mem_replicate hb }

end RamDisk

/-- The disk after a format that succeeds, for every disk in memory and every request with a moment
of creation. The request and the disk settled on a layout, a label, a boot sector and the bad
sectors, and

* the report and the volume are as they follow from that (`Describes`);
* the parts of the volume lie on the disk where the reported layout has them, and every other sector
  is as it was (`IsFormatted`);
* a driver reads back the boot sector, the information sector, each copy of the table and the entry
  that names the volume (`ReadsBack`). -/
theorem format_image (d : RamDisk) (r : Request) (now : Clock) (created : Moment) (report : Report)
    (hcreated : r.created = some created)
    (h : (format (.ram d) r now).1.outcome = .ok report) :
    ∃ s v after, r.Settles (.ram d) s ∧ (format (.ram d) r now).2 = .ram after ∧
      s.layout.sectorSize = d.sectorSize.toNat ∧ s.layout.totalSectors = d.sectorCount ∧
      s.Describes r created report v ∧ d.IsFormatted after report v ∧
      after.ReadsBack v s.label created := by
  obtain ⟨s, hs, hwrite, rfl⟩ := Request.format_eq_ok_iff.1 h
  obtain ⟨hsize, htotal⟩ := hs.sectors_eq
  have hplaced := hs.placed now
  obtain ⟨after, hafter, hrewritten, himage⟩ := Device.writeVolume_ram hplaced hsize hwrite
  have hformatted : d.IsFormatted after (s.report r now) (s.volume r now) :=
    RamDisk.isFormatted_of_imageSector hplaced hsize htotal hrewritten himage rfl rfl
      (hs.backupSector_eq now)
  exact ⟨s, s.volume r now, after, hs, (hs.format_eq now).2.trans hafter, hsize, htotal,
    hs.describes hcreated now, hformatted, hformatted.readsBack hs hcreated⟩

/-- A disk of 160 sectors that held 0xE5 everywhere is formatted with a label, a partition table and
a bad block on two clusters. -/
theorem format_image_listed :
    ∃ d report s v after, RamDisk.filled 512 160 0xE5 = .ok d ∧
      let r : Request := {
        created := some Moment.epoch, rootEntries := some 16, label := "DATA"
        badBlocks := some "50", partitionTable := true }
      (format (.ram d) r Moment.epoch).1.outcome = .ok report ∧
        (report.badClusters, report.freeClusters) = (2, 154) ∧ r.Settles (.ram d) s ∧
        s.Describes r Moment.epoch report v ∧ d.IsFormatted after report v ∧
        after.ReadsBack v s.label Moment.epoch ∧
        (Label.padded "DATA".toList).NamesVolume Moment.epoch ((after.rootBytes v).take 32) := by
  have hd : RamDisk.filled 512 160 0xE5 = .ok ⟨512, Medium.filled (512 * 160) 0xE5, .hard, false,
      true, ∅, ∅, [], by decide, by decide, by decide⟩ := rfl
  have hrun : ((format (.ram ⟨512, Medium.filled (512 * 160) 0xE5, .hard, false, true, ∅, ∅, [],
      by decide, by decide, by decide⟩) {
        created := some Moment.epoch, rootEntries := some 16, label := "DATA"
        badBlocks := some "50", partitionTable := true } Moment.epoch).1.outcome.toOption.map
      fun report => (report.badClusters, report.freeClusters, report.label)) =
        some (2, 154, Label.padded "DATA".toList) := by
    decide +kernel
  obtain ⟨report, hreport, hvalues⟩ := Option.map_eq_some_iff.1 hrun
  simp only [Prod.mk.injEq] at hvalues
  obtain ⟨hbad, hfree, hlabel⟩ := hvalues
  have hok := eq_ok_of_toOption hreport
  obtain ⟨s, v, after, hs, -, -, -, hdescribes, hformatted, hreads⟩ :=
    format_image _ _ Moment.epoch Moment.epoch report rfl hok
  have hentry := hreads.volumeEntry
  rw [← hdescribes.label, hlabel] at hentry
  exact ⟨_, report, s, v, after, hd, hok, by rw [hbad, hfree], hs, hdescribes, hformatted, hreads,
    hentry (by decide)⟩

end FatVolume
