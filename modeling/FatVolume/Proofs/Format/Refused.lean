import FatVolume.Proofs.Boot.Foreign
import FatVolume.Proofs.Format.Stops
import FatVolume.Proofs.Format.Success
import FatVolume.Proofs.Volume.Written

/-!
# Formats that are refused

A format stops while it is planned or while the volume is written, and nothing is written before
planning is over (`format_refused`). On a disk in memory that can be written only planning stops, and
for a foreseen reason (`format_ram_foreseen`).

The sectors of a volume are counted in 32 bits, and a device that has more is refused. Its bytes
are counted before that, in a word of 64 bits: a device whose bytes that word does not hold breaks
the computation down (`format_oversized`). Nothing is written in either case.
-/

namespace FatVolume

namespace Request

/-- A device that a request can be carried out on, as far as they know of each other. -/
structure Suits (r : Request) (d : Device) : Prop where
  /-- A medium is present. -/
  mediaPresent : d.mediaPresent = true
  /-- The device takes writes. -/
  readOnly : d.readOnly = false
  /-- The sector size that is asked for is that of the device. -/
  sectorSize : ∀ n, r.sectorSize = some n → n = d.blockSize
  /-- A partition table is asked for on fixed media. -/
  partitionTable : r.partitionTable = true → (r.mediaType.getD d.mediaType).isFixed = true

variable {r : Request} {d : Device} {now : Clock}

/-- The boot sectors that are changed on the way to that of a request: the blank one takes the default
message, the fresh one a message of the request, and the last one a partition table. -/
def bootStages (r : Request) (l : Layout) (g : Geometry) (v : VolumeInfo) (backup : UInt16) :
    List BootSector :=
  let fresh := BootSector.fresh l g v backup
  [BootSector.blank l g v backup, fresh, r.message.elim fresh fresh.setMessage]

/-- The boot sectors of a sound layout have room for what changes them. -/
theorem isRoomy_bootStages (r : Request) {l : Layout} (h : l.Sound) (g : Geometry) (v : VolumeInfo)
    (backup : UInt16) : ∀ b ∈ r.bootStages l g v backup, b.IsRoomy := by
  have hfresh := BootSector.readable_fresh h g v backup
  have hlast : (r.message.elim (BootSector.fresh l g v backup)
      (BootSector.fresh l g v backup).setMessage).Readable := by
    cases r.message with
    | none => exact hfresh
    | some message => exact hfresh.setMessage message
  intro b hb
  simp only [bootStages, List.mem_cons, List.not_mem_nil, or_false] at hb
  obtain rfl | rfl | rfl := hb
  · exact (BootSector.readable_blank h g v backup).isRoomy
  · exact hfresh.isRoomy
  · exact hlast.isRoomy

/-- The checks of a request against a device pass just if it suits the device. -/
theorem checkDevice_eq_ok_iff {media : MediaType} :
    r.checkDevice d = .ok media ↔ r.Suits d ∧ media = r.mediaType.getD d.mediaType := by
  unfold checkDevice misconfigured
  simp only [refuse_bind, if_refuse_eq_ok_iff, check_bind_eq_ok_iff, checkSome_eq_ok_iff,
    checkPartitionTable_eq_ok_iff, pure_eq_ok, Except.ok.injEq, Decidable.not_not, and_true]
  constructor
  · rintro ⟨hpresent, hready, hsector, htable, hmedia⟩
    exact ⟨⟨hpresent, Bool.eq_false_iff.2 hready, hsector, htable⟩, hmedia.symm⟩
  · rintro ⟨h, hmedia⟩
    exact ⟨h.mediaPresent, Bool.eq_false_iff.1 h.readOnly, h.sectorSize, h.partitionTable,
      hmedia.symm⟩

/-- A device that a request goes with takes writes. -/
theorem readOnly_of_checkDevice {media : MediaType} (h : r.checkDevice d = .ok media) :
    d.readOnly = false :=
  (checkDevice_eq_ok_iff.1 h).1.readOnly

/-- A plan for a disk in memory that can be written is carried out. -/
theorem Settles.format_ram {d : RamDisk} {s : Settled} (h : r.Settles (.ram d) s)
    (hunwritable : d.unwritable = ∅) (now : Clock) :
    (format (.ram d) r now).1.outcome = .ok (s.report r now) := by
  obtain ⟨hsize, htotal⟩ := h.sectors_eq
  exact format_eq_ok_iff.2 ⟨s, h, Device.writeVolume_eq_ok (readOnly_of_checkDevice h.device)
    hunwritable (h.placed now) hsize htotal, rfl⟩

end Request

/-- A plan that is not made is the end of the format. -/
theorem format_of_plan_eq_error {d : Device} {r : Request} {now : Clock} {stop : Stop Error}
    (h : (r.plan d now).outcome = .error stop) :
    (format d r now).1.outcome = .error stop ∧ (format d r now).2 = d := by
  unfold format
  dsimp only
  rw [h]
  exact ⟨rfl, rfl⟩

/-- A plan that is made is written. -/
theorem format_of_plan_eq_ok {d : Device} {r : Request} {now : Clock} {p : Plan}
    (h : (r.plan d now).outcome = .ok p) :
    (format d r now).1.outcome =
        (Guarded.widen Error.write (d.writeVolume p.volume).1).map (fun _ => p.report) ∧
      (format d r now).2 = (d.writeVolume p.volume).2 := by
  unfold format
  dsimp only
  rw [h]
  exact ⟨rfl, rfl⟩

/-- A format is refused before anything is written, or while the volume is written. -/
theorem format_eq_refused {d : Device} {r : Request} {now : Clock} {e : Error}
    (h : (format d r now).1.outcome = .error (.refused e)) :
    (r.Stops d (.refused e) ∧ (format d r now).2 = d) ∨ ∃ cause, e = .write cause := by
  cases hplan : (r.plan d now).outcome with
  | error stop =>
    obtain ⟨hstop, hsame⟩ := format_of_plan_eq_error hplan
    cases h.symm.trans hstop
    exact Or.inl ⟨Request.plan_stops hplan, hsame⟩
  | ok p =>
    obtain ⟨s, hs, -⟩ := Request.plan_eq_ok hplan
    rw [(hs.format_eq now).1] at h
    refine Or.inr ?_
    cases hwrite : (d.writeVolume (s.volume r now)).1 with
    | ok _ =>
      rw [hwrite] at h
      cases h
    | error stop =>
      rw [hwrite] at h
      cases stop with
      | fault cause => cases h
      | refused cause =>
        cases h
        exact ⟨cause, rfl⟩

/-- **Nothing is written before the point of no return.** A format of any device that is refused, but
not because a part of the volume could not be written, was stopped while it was planned, by one of
the stages and for a foreseen reason, and the device is as it was. -/
theorem format_refused {d : Device} {r : Request} {now : Clock} {e : Error}
    (h : (format d r now).1.outcome = .error (.refused e)) (hwrite : ∀ cause, e ≠ .write cause) :
    (format d r now).2 = d ∧ r.Stops d (.refused e) ∧ e.IsForeseen := by
  obtain ⟨hstops, hsame⟩ | ⟨cause, hcause⟩ := format_eq_refused h
  · obtain hforeseen | ⟨-, cause, hcause⟩ := hstops.isForeseen
    · exact ⟨hsame, hstops, hforeseen⟩
    · cases hcause
  · exact absurd hcause (hwrite cause)

/-- A window of a disk, the first sector of which cannot be read. -/
def frontlessWindow : Device :=
  .window (.ram ⟨512, Medium.filled (512 * 200) 0xE5, .hard, false, true, SectorSet.ofList [20], ∅,
    [], by decide, by decide, by decide⟩) 20 160

/-- A scan that finds the first sector of a window bad ends the format, and the disk is as it was. -/
theorem format_refused_scan :
    let r : Request := { scan := true, created := some Moment.epoch, rootEntries := some 16 }
    (format frontlessWindow r Moment.epoch).1.outcome =
        .error (.refused (.defect (.beforeData 0))) ∧
      (format frontlessWindow r Moment.epoch).2 = frontlessWindow ∧
      r.Stops frontlessWindow (.refused (.defect (.beforeData 0))) := by
  intro r
  have hrun : (format frontlessWindow r Moment.epoch).1.outcome =
      .error (.refused (.defect (.beforeData 0))) := by
    decide +kernel
  obtain ⟨hsame, hstops, -⟩ := format_refused hrun nofun
  exact ⟨hrun, hsame, hstops⟩

/-- **Internal errors are unreachable.** A format of a disk in memory that has no unwritable sector
succeeds or is refused for a foreseen reason, and never breaks down. The boot sectors on its way have
room for what changes them, and the last one fills its sector. -/
theorem format_ram_foreseen (d : RamDisk) (hunwritable : d.unwritable = ∅) (r : Request)
    (now : Clock) :
    ((∃ report, (format (.ram d) r now).1.outcome = .ok report) ∨
      ∃ e, (format (.ram d) r now).1.outcome = .error (.refused e) ∧ e.IsForeseen) ∧
    ∀ s, r.Settles (.ram d) s →
      (∀ b ∈ r.bootStages s.layout s.geometry (s.info r now) s.backup, b.IsRoomy) ∧
        (s.volume r now).boot.Fits := by
  constructor
  · cases hplan : (r.plan (.ram d) now).outcome with
    | ok p =>
      obtain ⟨s, hs, -⟩ := Request.plan_eq_ok hplan
      exact Or.inl ⟨_, hs.format_ram hunwritable now⟩
    | error stop =>
      refine Or.inr ?_
      obtain hforeseen | ⟨hd, -⟩ := (Request.plan_stops hplan).isForeseen
      · cases stop with
        | fault cause => exact hforeseen.elim
        | refused e => exact ⟨e, (format_of_plan_eq_error hplan).1, hforeseen⟩
      · exact absurd d.isSteady hd
  · intro s hs
    exact ⟨Request.isRoomy_bootStages r (Layout.sound_of_compute hs.layout) _ _ _,
      (hs.placed now).readable.fits⟩

/-- A disk of so many sectors that held 0xE5 everywhere, two of which cannot be read. -/
def blemishedDisk (sectors : Nat) (h : sectors < 2 ^ 54) : RamDisk := .worn sectors h 0xE5 [60, 61] []

/-- A disk of 160 sectors is formatted with a label, a message, a partition table and the two bad clusters
that a scan finds, and the boot sectors on the way are roomy. A disk without a sector is refused. -/
theorem format_ram_foreseen_scanned :
    let r : Request := {
      scan := true, created := some Moment.epoch, rootEntries := some 16, label := "DATA"
      message := some [0x48, 0x69, 0x0A], partitionTable := true }
    (blemishedDisk 160 (by decide)).unwritable = ∅ ∧
    (∃ report s, (format (.ram (blemishedDisk 160 (by decide))) r Moment.epoch).1.outcome =
        .ok report ∧ (report.badClusters, report.freeClusters) = (2, 154) ∧
      r.Settles (.ram (blemishedDisk 160 (by decide))) s ∧
      (∀ b ∈ r.bootStages s.layout s.geometry (s.info r Moment.epoch) s.backup, b.IsRoomy) ∧
      (s.volume r Moment.epoch).boot.Fits) ∧
    ∃ e, (format (.ram (blemishedDisk 0 (by decide))) r Moment.epoch).1.outcome =
      .error (.refused e) ∧ e.IsForeseen := by
  intro r
  have hrun : (format (.ram (blemishedDisk 160 (by decide))) r Moment.epoch).1.outcome.toOption.map
      (fun report => (report.badClusters, report.freeClusters)) = some (2, 154) := by
    decide +kernel
  have hnone : (format (.ram (blemishedDisk 0 (by decide))) r Moment.epoch).1.outcome.toOption =
      none := by
    decide +kernel
  obtain ⟨report, hreport, hcounts⟩ := Option.map_eq_some_iff.1 hrun
  have hok := eq_ok_of_toOption hreport
  obtain ⟨s, hs, -⟩ := Request.format_eq_ok_iff.1 hok
  obtain ⟨-, hroomy⟩ := format_ram_foreseen (blemishedDisk 160 (by decide)) rfl r Moment.epoch
  obtain ⟨hend, -⟩ := format_ram_foreseen (blemishedDisk 0 (by decide)) rfl r Moment.epoch
  refine ⟨rfl, ⟨report, s, hok, hcounts, hs, hroomy s hs⟩, hend.resolve_left ?_⟩
  rintro ⟨other, hother⟩
  rw [hother] at hnone
  cases hnone

namespace Layout

/-- Options that pass their own checks, whatever the device. -/
structure Options.IsValid (o : Options) : Prop where
  /-- The number of table copies is one of a volume. -/
  tableCount : IsTableCount o.tableCount.toNat
  /-- The cluster size that is asked for is one of a volume. -/
  clusterSectors : ∀ n, o.clusterSectors = some n → IsClusterSize n.toNat
  /-- The cluster size at which the search is to start is one of a volume. -/
  clusterHint : ∀ n, o.clusterHint = some n → IsClusterSize n.toNat

/-- A cluster size passes if it is not there or one of a volume. -/
theorem checkClusterSize_of_forall {sectors : Option UInt32}
    (h : ∀ n, sectors = some n → IsClusterSize n.toNat) : checkClusterSize sectors = .ok () := by
  cases sectors with
  | none => rfl
  | some n => exact checkClusterSize_eq_ok_iff.2 (h n rfl)

/-- Valid options leave nothing to refuse but the sectors. -/
theorem Options.IsValid.compute_eq {o : Options} (h : o.IsValid) {g : Geometry}
    (hsize : IsSectorSize g.sectorSize.toNat) (hmany : maxField32 < g.totalSectors.toNat) :
    compute g o = refuse (.tooManySectors g.totalSectors.toNat) := by
  have hcheck : checkOptions g o = .error (.tooManySectors g.totalSectors.toNat) := by
    unfold checkOptions
    rw [checkClusterSize_of_forall h.clusterSectors, checkClusterSize_of_forall h.clusterHint]
    simp [hsize, h.tableCount, hmany]
  unfold compute Parameters.resolve
  rw [hcheck]
  rfl

end Layout

namespace Request

variable {r : Request} {d : Device}

/-- The options of a valid request are valid. -/
theorem IsValid.options (hr : r.IsValid) {media : MediaType} {floppy : Option FloppyFormat}
    (hfloppy : floppyFormat d media = .ok floppy) : (r.options floppy).IsValid where
  tableCount := hr.tableCount
  clusterSectors := hr.clusterSectors
  clusterHint := fun n hn => by
    have hall : ∀ f ∈ FloppyFormat.all, Layout.IsClusterSize f.clusterSectors.toNat := by decide
    obtain ⟨f, rfl, rfl⟩ := Option.map_eq_some_iff.1 hn
    exact hall f (mem_all_of_floppyFormat hfloppy)

/-- The geometry of a device breaks down if a word does not hold its bytes. -/
theorem geometry_of_overflow {size : UInt32} {n : UInt64} (h : 2 ^ 64 ≤ size.toNat * n.toNat)
    (floppy : Option FloppyFormat) : r.geometry size n floppy = .error .overflow := by
  unfold geometry Geometry.ofSectors
  rw [within_eq_error_iff.2 ⟨h, rfl⟩]
  rfl

/-- A valid request is not planned on a device that suits it but has too many sectors. -/
theorem IsValid.plan_of_many (hr : r.IsValid) (hd : r.Suits d) {n : UInt64}
    (hcount : d.blockCount = n.toNat) (hsize : Layout.IsSectorSize d.blockSize.toNat)
    (hmany : Layout.maxField32 < n.toNat) (now : Clock) :
    (r.plan d now).outcome =
      if d.blockSize.toNat * n.toNat < 2 ^ 64 then refuse (.layout (.tooManySectors n.toNat))
      else .error (.fault .overflow) := by
  have hbytes : d.blockCount * d.blockSize.toNat = d.blockSize.toNat * n.toNat := by
    rw [hcount, Nat.mul_comm]
  have hword : UInt64.ofNat d.blockCount = n := by rw [hcount, UInt64.ofNat_toNat]
  unfold plan
  simp only [Attempt.outcome_bind, Attempt.outcome_liftM, Attempt.outcome_liftM_checked,
    Attempt.outcome_warn, ok_bind]
  rw [validate_eq_ok_iff.2 hr, ok_bind, checkDevice_eq_ok_iff.2 ⟨hd, rfl⟩, ok_bind]
  cases hfloppy : floppyFormat d (r.mediaType.getD d.mediaType) with
  | error cause =>
    obtain ⟨hover, rfl⟩ := floppyFormat_eq_error hfloppy
    rw [if_neg (by omega)]
    rfl
  | ok floppy =>
    rw [liftM_ok, ok_bind]
    cases hgeometry : r.geometry d.blockSize (UInt64.ofNat d.blockCount) floppy with
    | error cause =>
      obtain ⟨hover, rfl⟩ := geometry_eq_error hgeometry
      rw [if_neg (by omega)]
      rfl
    | ok g =>
      obtain ⟨hsector, htotal⟩ := geometry_eq_ok hgeometry
      have hfits : d.blockSize.toNat * n.toNat < 2 ^ 64 := Nat.lt_of_not_le fun hover => by
        rw [hword, geometry_of_overflow hover] at hgeometry
        cases hgeometry
      have hlayout := (hr.options hfloppy).compute_eq (g := g) (hsector ▸ hsize)
        (htotal.trans hword ▸ hmany)
      rw [htotal.trans hword] at hlayout
      rw [liftM_ok, ok_bind, hlayout, if_pos hfits]
      rfl

end Request

/-- **Devices with too many sectors are refused, if a word holds their bytes.** On every device of
more sectors than 32 bits count, valid options have no layout and a valid request is not carried
out: the reason is the number of sectors, and nothing is written. The one exception is a device of
`2 ^ 64` bytes or more. The product of its sectors and their size leaves its word before the sectors
are counted, both where heads and sectors of a track are derived from the size and where a floppy
format is looked up by it. A geometry that is given as a whole is always refused. -/
theorem format_oversized {size : UInt32} {n : UInt64} (hsize : Layout.IsSectorSize size.toNat)
    (hmany : Layout.maxField32 < n.toNat) :
    (∀ o : Layout.Options, o.IsValid →
      (∀ g : Geometry, g.sectorSize = size → g.totalSectors = n →
        Layout.compute g o = refuse (.tooManySectors n.toNat)) ∧
      (do Layout.compute (← Geometry.ofSectors size n) o : Guarded LayoutError Layout) =
        if size.toNat * n.toNat < 2 ^ 64 then refuse (.tooManySectors n.toNat)
        else .error (.fault .overflow)) ∧
    ∀ d : Device, d.blockSize = size → d.blockCount = n.toNat →
      ∀ r : Request, r.IsValid → r.Suits d → ∀ now,
        (format d r now).1.outcome =
            (if size.toNat * n.toNat < 2 ^ 64 then refuse (.layout (.tooManySectors n.toNat))
            else .error (.fault .overflow)) ∧
          (format d r now).2 = d := by
  constructor
  · intro o ho
    have hcompute : ∀ g : Geometry, g.sectorSize = size → g.totalSectors = n →
        Layout.compute g o = refuse (.tooManySectors n.toNat) := by
      rintro g rfl rfl
      exact ho.compute_eq hsize hmany
    refine ⟨hcompute, ?_⟩
    unfold Geometry.ofSectors
    by_cases hfits : size.toNat * n.toNat < 2 ^ 64
    · rw [if_pos hfits, within_of_lt hfits]
      exact hcompute _ rfl rfl
    · rw [if_neg hfits, within_eq_error_iff.2 ⟨Nat.le_of_not_lt hfits, rfl⟩]
      rfl
  · rintro d rfl hcount r hr hd now
    have hplan := hr.plan_of_many hd hcount hsize hmany now
    by_cases hfits : d.blockSize.toNat * n.toNat < 2 ^ 64
    · rw [if_pos hfits] at hplan ⊢
      exact format_of_plan_eq_error hplan
    · rw [if_neg hfits] at hplan ⊢
      exact format_of_plan_eq_error hplan

/-- A disk of `2 ^ 55` sectors of 512 bytes has more bytes than a word holds, one of a sector less
has not: the first one breaks the computation down, the second one is refused. -/
theorem format_oversized_word :
    Layout.IsSectorSize (512 : UInt32).toNat ∧
      Layout.maxField32 < (36028797018963967 : UInt64).toNat ∧
      Layout.maxField32 < (36028797018963968 : UInt64).toNat ∧
      ({} : Layout.Options).IsValid ∧ ({} : Request).IsValid ∧
      (∀ total, ({} : Request).Suits (.raw ⟨.sound (.filled 0 0) 4096, 512, total, .hard, false⟩)) ∧
      (do Layout.compute (← Geometry.ofSectors 512 36028797018963967) {} :
          Guarded LayoutError Layout) =
        refuse (.tooManySectors 36028797018963967) ∧
      (do Layout.compute (← Geometry.ofSectors 512 36028797018963968) {} :
          Guarded LayoutError Layout) =
        .error (.fault .overflow) ∧
      (format (.raw ⟨.sound (.filled 0 0) 4096, 512, 36028797018963967, .hard, false⟩) {}
          Moment.epoch).1.outcome = refuse (.layout (.tooManySectors 36028797018963967)) ∧
      (format (.raw ⟨.sound (.filled 0 0) 4096, 512, 36028797018963968, .hard, false⟩) {}
          Moment.epoch).1.outcome = .error (.fault .overflow) := by
  have hsize : Layout.IsSectorSize (512 : UInt32).toNat := by decide
  have hless : Layout.maxField32 < (36028797018963967 : UInt64).toNat := by decide
  have hmore : Layout.maxField32 < (36028797018963968 : UInt64).toNat := by decide
  have hoptions : ({} : Layout.Options).IsValid := ⟨by decide, nofun, nofun⟩
  have hrequest : ({} : Request).IsValid := Request.validate_eq_ok_iff.1 (by decide)
  have hsuits : ∀ total,
      ({} : Request).Suits (.raw ⟨.sound (.filled 0 0) 4096, 512, total, .hard, false⟩) :=
    fun _ => ⟨rfl, rfl, nofun, nofun⟩
  obtain ⟨hlayout, hformat⟩ := format_oversized hsize hless
  obtain ⟨hlayout', hformat'⟩ := format_oversized hsize hmore
  exact ⟨hsize, hless, hmore, hoptions, hrequest, hsuits, (hlayout {} hoptions).2,
    (hlayout' {} hoptions).2, (hformat _ rfl rfl {} hrequest (hsuits _) Moment.epoch).1,
    (hformat' _ rfl rfl {} hrequest (hsuits _) Moment.epoch).1⟩

end FatVolume
