import FatVolume.Proofs.Device.Window
import FatVolume.Proofs.Format.Refused

/-!
# Formats of windows

A format of a window is the format of a disk of its own that holds the same sectors
(`format_window`). Planning asks a device for what it says of itself and reads it, and both are the
same for the two (`Device.Resembles`); every section is then written to both (`Device.Selects.write`).
-/

namespace FatVolume

/-- The same failure on a disk on which a device starts at sector `a`. -/
def WriteError.shifted (a : Nat) (e : WriteError) : WriteError := ⟨e.part, e.cause.shifted a⟩

/-- The same error on a disk on which a device starts at sector `a`. -/
def Error.shifted (a : Nat) : Error → Error
  | .write reason => .write (reason.shifted a)
  | e => e

namespace Device.Resembles

variable {f : TransferError → TransferError} {d e : Device}

/-- A scan of blocks finds the same on devices that resemble each other. -/
theorem outcome_blocks (h : d.Resembles f e) (l : Layout) (start last : Nat) (bad : SectorSet) :
    (Scan.blocks d l start last bad).outcome = (Scan.blocks e l start last bad).outcome := by
  fun_induction Scan.blocks e l start last bad with
  | case1 start bad hlt count data hread ih =>
    rw [Scan.blocks, dif_pos hlt]
    dsimp only
    rw [h.read, hread]
    exact ih
  | case2 start bad hlt count fault hread =>
    rw [Scan.blocks, dif_pos hlt]
    dsimp only
    rw [h.read, hread]
    rfl
  | case3 start bad hlt count reason hread ih =>
    rw [Scan.blocks, dif_pos hlt]
    dsimp only
    rw [h.read, hread]
    dsimp only [widen_error, Stop.map]
    simp only [Attempt.outcome_bind, Attempt.outcome_warn, ok_bind]
    split
    · rfl
    · exact ih
  | case4 start bad hge =>
    rw [Scan.blocks, dif_neg hge]

/-- A scan of batches finds the same on devices that resemble each other. -/
theorem outcome_batches (h : d.Resembles f e) (l : Layout) (start last : Nat) (bad : SectorSet) :
    (Scan.batches d l start last bad).outcome = (Scan.batches e l start last bad).outcome := by
  fun_induction Scan.batches e l start last bad with
  | case1 start bad hlt count data hread ih =>
    rw [Scan.batches, dif_pos hlt]
    dsimp only
    rw [h.read, hread]
    exact ih
  | case2 start bad hlt count fault hread =>
    rw [Scan.batches, dif_pos hlt]
    dsimp only
    rw [h.read, hread]
    rfl
  | case3 start bad hlt count reason hread ih =>
    rw [Scan.batches, dif_pos hlt]
    dsimp only
    rw [h.read, hread]
    dsimp only [widen_error, Stop.map]
    rw [Attempt.outcome_bind, Attempt.outcome_bind, h.outcome_blocks]
    exact congrArg _ (funext ih)
  | case4 start bad hge =>
    rw [Scan.batches, dif_neg hge]

/-- The bad sectors are the same on devices that resemble each other. -/
theorem outcome_badSectors (h : d.Resembles f e) (r : Request) (l : Layout)
    (listed : Option SectorSet) :
    (r.badSectors d l listed).outcome = (r.badSectors e l listed).outcome := by
  have hscan : (Scan.sectors d l).outcome = (Scan.sectors e l).outcome := by
    unfold Scan.sectors
    simp only [Attempt.outcome_bind, h.outcome_batches]
  unfold Request.badSectors
  cases listed with
  | some sectors => rfl
  | none =>
    dsimp only
    split
    · rw [Attempt.outcome_widen, Attempt.outcome_widen, hscan]
    · rfl

/-- A request goes with both of two devices that resemble each other, or with neither. -/
theorem checkDevice_eq (h : d.Resembles f e) (r : Request) : r.checkDevice d = r.checkDevice e := by
  unfold Request.checkDevice
  rw [h.mediaPresent, h.readOnly, h.blockSize, h.mediaType]

/-- Devices that resemble each other have the same floppy format. -/
theorem floppyFormat_eq (h : d.Resembles f e) (media : MediaType) :
    Request.floppyFormat d media = Request.floppyFormat e media := by
  unfold Request.floppyFormat Device.sizeBytes
  rw [h.blockSize, h.blockCount]

/-- A request with a moment of creation is planned in the same way for devices that resemble each
other. -/
theorem outcome_plan (h : d.Resembles f e) {r : Request} {created : Moment}
    (hcreated : r.created = some created) (now now' : Clock) :
    (r.plan d now).outcome = (r.plan e now').outcome := by
  have hinfo : ∀ label media floppy,
      r.volumeInfo label media floppy now = r.volumeInfo label media floppy now' := by
    intro label media floppy
    unfold Request.volumeInfo
    rw [hcreated]
    rfl
  unfold Request.plan
  simp only [Attempt.outcome_bind, Attempt.outcome_warn_if, h.checkDevice_eq, h.floppyFormat_eq,
    h.blockSize, h.blockCount, h.outcome_badSectors, hinfo]

end Device.Resembles

namespace Device.Selects

variable {p q : RamDisk} {d : Device} {a n : Nat}

/-- Sections are written through a chain of windows as to an excerpt. The step of the induction is
that a section leaves a chain and an excerpt of it again, whether it is taken or not. -/
theorem writeSections (h : Selects p d a n) (hq : q.IsExcerpt p a n) (hready : p.readOnly = false)
    (sections : List Placement) :
    (d.writeSections sections).1 =
        Guarded.widen (WriteError.shifted a) ((ram q).writeSections sections).1 ∧
      ∃ p' q', Selects p' (d.writeSections sections).2 a n ∧
        ((ram q).writeSections sections).2 = ram q' ∧ RamDisk.Follows p p' q q' a n := by
  induction sections generalizing p q d with
  | nil =>
    have hflush : d.flush = .ok () := h.apply_eq flush fun _ _ _ => rfl
    refine ⟨?_, p, q, h, rfl, hq.follows_self⟩
    unfold Device.writeSections
    rw [hflush]
    rfl
  | cons part rest ih =>
    unfold Device.writeSections
    cases part.content with
    | error fault => exact ⟨rfl, p, q, h, rfl, hq.follows_self⟩
    | ok content =>
      have hstep := h.write hq hready content.1 content.2
      dsimp only [Device.write]
      cases hwrite : q.write content.1 content.2 with
      | mk result q' =>
        rw [hwrite] at hstep
        obtain ⟨hresult, p', hchain, hfollows⟩ := hstep
        have hpair : d.write content.1 content.2 =
            (Guarded.widen (TransferError.shifted a) result, (d.write content.1 content.2).2) :=
          Prod.ext hresult rfl
        rw [hpair]
        cases result with
        | error stop =>
          refine ⟨?_, p', q', hchain, rfl, hfollows⟩
          cases stop <;> rfl
        | ok _ =>
          obtain ⟨hrest, p'', q'', hchain', hafter, hfollows'⟩ :=
            ih hchain hfollows.excerpt (hfollows.rewritten.readOnly_eq.trans hready)
          exact ⟨hrest, p'', q'', hchain', hafter, hfollows.trans hfollows'⟩

/-- A volume is written through a chain of windows as to an excerpt. -/
theorem writeVolume (h : Selects p d a n) (hq : q.IsExcerpt p a n) (hready : p.readOnly = false)
    (v : FreshVolume) :
    (d.writeVolume v).1 = Guarded.widen (WriteError.shifted a) ((ram q).writeVolume v).1 ∧
      ∃ p' q', Selects p' (d.writeVolume v).2 a n ∧ ((ram q).writeVolume v).2 = ram q' ∧
        RamDisk.Follows p p' q q' a n := by
  unfold Device.writeVolume
  cases v.placements with
  | error fault => exact ⟨rfl, p, q, h, rfl, hq.follows_self⟩
  | ok sections => exact h.writeSections hq hready sections

end Device.Selects

/-- What stops planning is no part that could not be written. -/
theorem Request.Stops.map_shifted {r : Request} {d : Device} {stop : Stop Error}
    (h : r.Stops d stop) (a : Nat) : stop.map (Error.shifted a) = stop := by
  cases stop with
  | fault cause => rfl
  | refused e =>
    obtain hforeseen | ⟨-, cause, hcause⟩ := h.isForeseen
    · cases e with
      | write reason => exact hforeseen.elim
      | configuration reason | layout reason | table reason | defect reason | list reason
      | label reason | invalidBootSector | invalidInfoSector => rfl
    · cases hcause

/-- **A window is like a disk of its own.** A format of sectors of a disk in memory, through any chain
of windows that selects them, ends as the format of a disk of its own that holds the same sectors:
with the same report, or with the same error, in which a sector that failed is counted from the start
of the disk. The window then holds what the disk of its own holds, the sectors outside of it hold
what they held, and the writes that were logged are the same, counted from the start of the disk. -/
theorem format_window {p q : RamDisk} {d : Device} {a n : Nat} (hd : Device.Selects p d a n)
    (hq : q.IsExcerpt p a n) {r : Request} {created : Moment} (hcreated : r.created = some created)
    (now now' : Clock) :
    (format d r now).1.outcome =
        Guarded.widen (Error.shifted a) (format (.ram q) r now').1.outcome ∧
      ∃ p' q', Device.Selects p' (format d r now).2 a n ∧ (format (.ram q) r now').2 = .ram q' ∧
        RamDisk.Follows p p' q q' a n := by
  have hplan := (hd.resembles hq).outcome_plan hcreated now now'
  cases hmade : (r.plan (.ram q) now').outcome with
  | error stop =>
    obtain ⟨hout, hsame⟩ := format_of_plan_eq_error (hplan.trans hmade)
    obtain ⟨hout', hsame'⟩ := format_of_plan_eq_error hmade
    rw [hout, hsame, hout', hsame', widen_error, (Request.plan_stops hmade).map_shifted]
    exact ⟨rfl, p, q, hd, rfl, hq.follows_self⟩
  | ok plan =>
    obtain ⟨hout, hafter⟩ := format_of_plan_eq_ok (hplan.trans hmade)
    obtain ⟨hout', hafter'⟩ := format_of_plan_eq_ok hmade
    obtain ⟨s, hs, -⟩ := Request.plan_eq_ok hmade
    have hready : p.readOnly = false :=
      hq.readOnly.symm.trans (Request.readOnly_of_checkDevice hs.device)
    obtain ⟨hresult, hwritten⟩ := hd.writeVolume hq hready plan.volume
    rw [hout, hafter, hout', hafter', hresult]
    refine ⟨?_, hwritten⟩
    cases ((Device.ram q).writeVolume plan.volume).1 with
    | error stop => cases stop <;> rfl
    | ok _ => rfl

/-- A disk with a sector that cannot be read and one that cannot be written. -/
def scratchedDisk : RamDisk :=
  ⟨1024, Medium.filled (1024 * 200) 0xE5, .hard, false, true, SectorSet.ofList [3],
    SectorSet.ofList [21], [], by decide, by decide, by decide⟩

/-- A window of a window of the disk. -/
def nestedWindow : Device := .window (.window (.ram scratchedDisk) 10 180) 10 160

/-- The sectors that the inner window shows. -/
theorem selects_nestedWindow : Device.Selects scratchedDisk nestedWindow 20 160 :=
  (Device.Selects.whole.window (Device.window?_eq_ok_iff.2 ⟨by decide, rfl⟩)).window
    (Device.window?_eq_ok_iff.2 ⟨by decide, rfl⟩)

/-- The second sector of the reserved area cannot be written, neither through the windows nor on a disk
of its own. -/
theorem format_window_nested :
    let q := scratchedDisk.excerpt 20 160 selects_nestedWindow.le_sectorCount
    let r : Request := { created := some Moment.epoch, reservedSectors := some 2 }
    let stop : Stop Error := .refused (.write ⟨.reservedArea, .unwritable 21⟩)
    (format nestedWindow r Moment.epoch).1.outcome = .error stop ∧
      Guarded.widen (Error.shifted 20) (format (.ram q) r Moment.epoch).1.outcome = .error stop ∧
      ∃ p' q', Device.Selects p' (format nestedWindow r Moment.epoch).2 20 160 ∧
        (format (.ram q) r Moment.epoch).2 = .ram q' ∧
        RamDisk.Follows scratchedDisk p' q q' 20 160 := by
  intro q r stop
  have hrun : (format nestedWindow r Moment.epoch).1.outcome = .error stop := by
    decide +kernel
  obtain ⟨hsame, hfollows⟩ := format_window selects_nestedWindow
    (RamDisk.isExcerpt_excerpt selects_nestedWindow.le_sectorCount) (r := r) rfl Moment.epoch
    Moment.epoch
  exact ⟨hrun, hsame.symm.trans hrun, hfollows⟩

end FatVolume
