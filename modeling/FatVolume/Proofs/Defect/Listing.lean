import Mathlib.Data.List.Basic
import FatVolume.Defect
import FatVolume.Proofs.Device.Medium
import FatVolume.Proofs.Guard
import FatVolume.Proofs.Layout.Sound
import FatVolume.Proofs.Text

/-!
# Lists of bad blocks

A block covers the sectors with which it shares a byte (`BlockList.Covers`), whatever the size of a
sector. The blocks of a list are marked when each of them fits into the data area, and then just the
sectors that they cover are found (`sectors_of_fits`). Otherwise the list is refused for the first
block that does not fit (`sectors_of_misfit`).

The entries of a list are its lines that are not blank (`BlockList.HasEntries`). Reading goes through
them in order and ends at the first one that is no number, whatever range the numbers before it lie
in (`BlockList.parse_eq_ok_iff`, `BlockList.parse_eq_error_iff`). The range is checked afterwards. So
a list is marked as a whole or refused as a whole (`mark_allOrNothing`).
-/

namespace FatVolume

namespace BlockList

/-- A block shares a byte with a sector. -/
def Covers (sectorSize block sector : Nat) : Prop :=
  block * blockBytes < (sector + 1) * sectorSize ∧ sector * sectorSize < (block + 1) * blockBytes

/-- The whole blocks of a volume. -/
def blockCount (l : Layout) : Nat := l.totalSectors * l.sectorSize / blockBytes

/-- A block lies on the volume, and its first sector is not before the data area. -/
def Fits (l : Layout) (block : Nat) : Prop :=
  block < blockCount l ∧ l.dataStart ≤ block * blockBytes / l.sectorSize

instance (l : Layout) (block : Nat) : Decidable (Fits l block) :=
  inferInstanceAs (Decidable (_ ∧ _))

variable {l : Layout} {block sectorSize s : Nat} {blocks : List Nat}

/-- A block covers the sectors from the one of its first byte to the one of its last byte. -/
theorem covers_iff (hpos : 0 < sectorSize) :
    Covers sectorSize block s ↔
      block * blockBytes / sectorSize ≤ s ∧ s < ceilDiv ((block + 1) * blockBytes) sectorSize := by
  have hlow := Nat.div_lt_iff_lt_mul hpos (x := block * blockBytes) (y := s + 1)
  have hhigh := ceilDiv_le_iff_le_mul hpos (b := (block + 1) * blockBytes) (c := s)
  rw [← ceilDiv_eq, Nat.mul_comm sectorSize] at hhigh
  unfold Covers
  omega

/-- A block covers the sector of its first byte. -/
theorem covers_first (hpos : 0 < sectorSize) (block : Nat) :
    Covers sectorSize block (block * blockBytes / sectorSize) := by
  constructor
  · exact (Nat.div_lt_iff_lt_mul hpos).1 (Nat.lt_succ_self _)
  · refine (Nat.div_mul_le_self _ _).trans_lt ?_
    rw [Nat.succ_mul]
    exact Nat.lt_add_of_pos_right (by decide)

/-- A word counts the bytes of a sound layout, with one sector to spare. -/
theorem size_lt (h : l.Sound) : l.totalSectors * l.sectorSize + l.sectorSize < 2 ^ 64 := by
  have hmost := h.sectorSize.2.2
  have hsize := Nat.mul_le_mul h.totalSectors_le hmost
  simp only [Layout.maxField32] at hsize
  omega

/-- The sectors of a block on the volume are found. -/
theorem blockSectors_eq (h : l.Sound) (hblock : block < blockCount l) :
    blockSectors block l.sectorSize = .ok
      (block * blockBytes / l.sectorSize, ceilDiv ((block + 1) * blockBytes) l.sectorSize) := by
  have hpos := h.sectorSize.1.pos
  have hsize := size_lt h
  have hend : (block + 1) * blockBytes ≤ l.totalSectors * l.sectorSize :=
    (Nat.mul_le_mul_right _ hblock).trans (Nat.div_mul_le_self _ _)
  have hstart : block * blockBytes < (block + 1) * blockBytes := by
    rw [Nat.succ_mul]
    exact Nat.lt_add_of_pos_right (by decide)
  unfold blockSectors
  rw [within_of_lt (by omega), ok_bind, within_of_lt (by omega), ok_bind, quotient_of_pos hpos,
    ok_bind, roundedQuotient_of_pos hpos (by omega)]
  rfl

/-- Blocks that fit are added, with the sectors that they cover. -/
theorem addBlocks_of_fits (h : l.Sound) (hfits : ∀ block ∈ blocks, Fits l block)
    (sectors : SectorSet) :
    ∃ grown, addBlocks l (blockCount l) sectors blocks = .ok grown ∧ ∀ s, s ∈ grown ↔
      s ∈ sectors ∨ ∃ block ∈ blocks, Covers l.sectorSize block s := by
  induction blocks generalizing sectors with
  | nil => exact ⟨sectors, rfl, fun s => by simp⟩
  | cons block rest ih =>
    obtain ⟨hblock, hdata⟩ := hfits block List.mem_cons_self
    unfold addBlocks
    rw [if_neg (Nat.not_le.2 hblock), blockSectors_eq h hblock, liftM_ok, ok_bind]
    dsimp only
    rw [if_neg (Nat.not_lt.2 hdata)]
    obtain ⟨grown, hgrown, hmem⟩ := ih (fun b hb => hfits b (List.mem_cons_of_mem _ hb)) _
    refine ⟨grown, hgrown, fun s => ?_⟩
    have hstretch : ∀ first last, first ≤ s ∧ s < first + (last - first) ↔ first ≤ s ∧ s < last := by
      omega
    rw [hmem, SectorSet.mem_addRange, hstretch, ← covers_iff h.sectorSize.1.pos,
      List.exists_mem_cons_iff, or_assoc]

/-- The first block that does not fit ends the list. -/
theorem addBlocks_of_misfit (h : l.Sound)
    (hmisfit : blocks.find? (fun block => ¬Fits l block) = some block) (sectors : SectorSet) :
    addBlocks l (blockCount l) sectors blocks = refuse (.outOfRange block) := by
  induction blocks generalizing sectors with
  | nil => cases hmisfit
  | cons first rest ih =>
    unfold addBlocks
    by_cases hfirst : Fits l first
    · rw [List.find?_cons_of_neg (by simpa using hfirst)] at hmisfit
      rw [if_neg (Nat.not_le.2 hfirst.1), blockSectors_eq h hfirst.1, liftM_ok, ok_bind]
      dsimp only
      rw [if_neg (Nat.not_lt.2 hfirst.2)]
      exact ih hmisfit _
    · rw [List.find?_cons_of_pos (by simpa using hfirst), Option.some.injEq] at hmisfit
      subst hmisfit
      by_cases hout : blockCount l ≤ first
      · rw [if_pos hout]
        rfl
      · have hbefore : first * blockBytes / l.sectorSize < l.dataStart :=
          Nat.not_le.1 fun hle => hfirst ⟨Nat.not_le.1 hout, hle⟩
        rw [if_neg hout, blockSectors_eq h (Nat.not_le.1 hout), liftM_ok, ok_bind]
        dsimp only
        rw [if_pos hbefore]
        rfl

/-- Blocks that fit are marked by the sectors that they cover. -/
theorem sectors_of_fits (h : l.Sound) (hfits : ∀ block ∈ blocks, Fits l block) :
    ∃ found, sectors l blocks = .ok found ∧
      ∀ s, s ∈ found ↔ ∃ block ∈ blocks, Covers l.sectorSize block s := by
  have hsize := size_lt h
  obtain ⟨found, hfound, hmem⟩ := addBlocks_of_fits h hfits ∅
  unfold sectors
  rw [within_of_lt (by omega), liftM_ok, ok_bind]
  refine ⟨found, hfound, fun s => ?_⟩
  rw [hmem]
  exact or_iff_right Std.ExtTreeSet.not_mem_empty

/-- Blocks are refused for the first one that does not fit. -/
theorem sectors_of_misfit (h : l.Sound)
    (hmisfit : blocks.find? (fun block => ¬Fits l block) = some block) :
    sectors l blocks = refuse (.outOfRange block) := by
  have hsize := size_lt h
  unfold sectors
  rw [within_of_lt (by omega), liftM_ok, ok_bind]
  exact addBlocks_of_misfit h hmisfit ∅

/-- Blocks are marked if all of them fit, and refused for one that does not otherwise. -/
theorem sectors_cases (h : l.Sound) (blocks : List Nat) :
    (∀ block ∈ blocks, Fits l block) ∨ ∃ block ∈ blocks, ¬Fits l block ∧
      sectors l blocks = refuse (.outOfRange block) := by
  cases hfind : blocks.find? (fun block => ¬Fits l block) with
  | none =>
    left
    simpa using hfind
  | some block =>
    right
    exact ⟨block, List.mem_of_find?_eq_some hfind, by simpa using List.find?_some hfind,
      sectors_of_misfit h hfind⟩

/-- A list whose lines are read is marked as its blocks are. -/
theorem mark_of_parse {text : String} (h : parse text = .ok blocks) :
    mark text l = sectors l blocks := by
  unfold mark
  rw [h, orRefuse_ok, ok_bind]

/-- A list of bad blocks is marked or refused. -/
theorem mark_ne_fault (h : l.Sound) (text : String) (cause : Fault) :
    mark text l ≠ .error (.fault cause) := by
  cases hparse : parse text with
  | error reason =>
    unfold mark
    rw [hparse]
    nofun
  | ok blocks =>
    rw [mark_of_parse hparse]
    rcases sectors_cases h blocks with hfits | ⟨block, -, -, hrefused⟩
    · obtain ⟨found, hfound, -⟩ := sectors_of_fits h hfits
      rw [hfound]
      nofun
    · rw [hrefused]
      nofun

end BlockList

namespace BlockList

/-- The lines of a list as far as anything but blanks is on them, without their outer blanks, each
with its number. -/
def HasEntries (text : String) (entries : List (List Char × Nat)) : Prop :=
  ∃ lines, List.Forall₂ Text.IsTrimmed (text.toList.splitOn '\n') lines ∧
    entries = (lines.zipIdx 1).filter fun entry => entry.1 ≠ []

/-- A line is a number of a 64-bit word. -/
def Names (line : List Char) (block : Nat) : Prop :=
  Numeral.IsDecimal line block ∧ block < 2 ^ 64

/-- Every entry of a list is the number of a block. -/
def Lists (entries : List (List Char × Nat)) (blocks : List Nat) : Prop :=
  List.Forall₂ (fun entry block => Names entry.1 block) entries blocks

/-- An entry is the first one of a list that is no number. -/
def FirstUnread (entries : List (List Char × Nat)) (entry : List Char × Nat) : Prop :=
  ∃ before after, entries = before ++ entry :: after ∧
    (∀ e ∈ before, ∃ block, Names e.1 block) ∧ ¬∃ block, Names entry.1 block

/-- All sectors that a block covers lie in the data area or behind it on the volume. -/
def InData (l : Layout) (block : Nat) : Prop :=
  ∀ s, Covers l.sectorSize block s → l.dataStart ≤ s ∧ s < l.totalSectors

/-- A block is the first one of a list that does not lie in the data area. -/
def FirstOutside (l : Layout) (blocks : List Nat) (block : Nat) : Prop :=
  ∃ before after, blocks = before ++ block :: after ∧ (∀ b ∈ before, InData l b) ∧ ¬InData l block

variable {l : Layout} {block : Nat} {blocks : List Nat} {text : String}
  {entries : List (List Char × Nat)} {lines : List (List Char)}

/-- The entries of lines, the first of which has the given number. -/
def entriesFrom (number : Nat) (lines : List (List Char)) : List (List Char × Nat) :=
  ((lines.map Text.trim).zipIdx number).filter fun entry => entry.1 ≠ []

/-- The first line is an entry unless it is blank. -/
theorem entriesFrom_cons (number : Nat) (line : List Char) (rest : List (List Char)) :
    entriesFrom number (line :: rest) =
      if Text.trim line = [] then entriesFrom (number + 1) rest
      else (Text.trim line, number) :: entriesFrom (number + 1) rest := by
  unfold entriesFrom
  rw [List.map_cons, List.zipIdx_cons]
  split
  · exact List.filter_cons_of_neg (by simpa using ‹_›)
  · exact List.filter_cons_of_pos (by simpa using ‹_›)

/-- The entries of a list are those of its lines. -/
theorem hasEntries_iff :
    HasEntries text entries ↔ entries = entriesFrom 1 (Text.lines text.toList) := by
  have hrel : Text.IsTrimmed = fun line text => Text.trim line = text :=
    funext₂ fun _ _ => propext Text.isTrimmed_iff
  have hlines : ∀ trimmed, List.Forall₂ Text.IsTrimmed (text.toList.splitOn '\n') trimmed ↔
      trimmed = (Text.lines text.toList).map Text.trim := fun trimmed => by
    rw [hrel, ← List.forall₂_map_left_iff, List.forall₂_eq_eq_eq, eq_comm, Text.lines,
      Text.pieces_eq_splitOn]
  unfold HasEntries entriesFrom
  simp only [hlines, exists_eq_left]

/-- The number of an entry. -/
def readEntry (entry : List Char × Nat) : Except ListError Nat :=
  (Numeral.read 10 64 entry.1).mapError fun _ => .notNumber entry.2 (String.ofList entry.1)

/-- Lines are read by going through their entries. -/
theorem readLines_eq (number : Nat) (lines : List (List Char)) :
    readLines number lines = (entriesFrom number lines).mapM readEntry := by
  induction lines generalizing number with
  | nil => rfl
  | cons line rest ih =>
    rw [entriesFrom_cons, readLines]
    by_cases hblank : Text.trim line = []
    · rw [if_pos hblank, if_pos hblank, ih]
    · rw [if_neg hblank, if_neg hblank, List.mapM_cons, ← ih, readEntry]
      cases Numeral.read 10 64 (Text.trim line) with
      | error e => rfl
      | ok block => cases readLines (number + 1) rest <;> rfl

/-- An entry is read just if it is a number of a word. -/
theorem readEntry_eq_ok_iff {entry : List Char × Nat} :
    readEntry entry = .ok block ↔ Names entry.1 block := by
  unfold Names
  rw [← Numeral.read_ten_eq_ok_iff, readEntry]
  cases Numeral.read 10 64 entry.1 with
  | error e => exact iff_of_false nofun nofun
  | ok n => exact ⟨congrArg _ ∘ Except.ok.inj, congrArg _ ∘ Except.ok.inj⟩

/-- An entry that is no number of a word is the error. -/
theorem readEntry_eq_error_iff {entry : List Char × Nat} {reason : ListError} :
    readEntry entry = .error reason ↔
      (¬∃ block, Names entry.1 block) ∧ reason = .notNumber entry.2 (String.ofList entry.1) := by
  simp only [← readEntry_eq_ok_iff]
  unfold readEntry
  cases Numeral.read 10 64 entry.1 with
  | error e =>
    rw [and_iff_right (by nofun)]
    exact ⟨fun h => (Except.error.inj h).symm, fun h => congrArg Except.error h.symm⟩
  | ok n => exact iff_of_false nofun fun h => h.1 ⟨n, rfl⟩

/-- A block lies on the volume behind the start of the data just if all its sectors do. -/
theorem fits_iff_inData (hpos : 0 < l.sectorSize) : Fits l block ↔ InData l block := by
  have hfirst := (covers_iff hpos).1 (covers_first hpos block)
  have hlast : block < blockCount l ↔
      ceilDiv ((block + 1) * blockBytes) l.sectorSize ≤ l.totalSectors := by
    rw [ceilDiv_eq, ceilDiv_le_iff_le_mul hpos, Nat.mul_comm l.sectorSize]
    exact Nat.le_div_iff_mul_le (by decide)
  unfold Fits InData
  simp only [hlast, covers_iff hpos]
  constructor
  · rintro ⟨hle, hdata⟩ s ⟨hs, hlt⟩
    exact ⟨hdata.trans hs, hlt.trans_le hle⟩
  · intro h
    have hstart := h _ hfirst
    have hend := h (ceilDiv ((block + 1) * blockBytes) l.sectorSize - 1) (by omega)
    omega

/-- The lines of a list are all read just if its entries are numbers. -/
theorem parse_eq_ok_iff (h : HasEntries text entries) :
    parse text = .ok blocks ↔ Lists entries blocks := by
  rw [hasEntries_iff.1 h, parse, readLines_eq, mapM_eq_ok_iff]
  simp only [readEntry_eq_ok_iff]
  rfl

/-- The lines of a list are not all read because of the first entry that is no number. -/
theorem parse_eq_error_iff (h : HasEntries text entries) {reason : ListError} :
    parse text = .error reason ↔ ∃ entry, FirstUnread entries entry ∧
      reason = .notNumber entry.2 (String.ofList entry.1) := by
  rw [hasEntries_iff.1 h, parse, readLines_eq, mapM_eq_error_iff]
  simp only [readEntry_eq_ok_iff, readEntry_eq_error_iff]
  constructor
  · rintro ⟨before, entry, after, hsplit, hbefore, hunread, hreason⟩
    exact ⟨entry, ⟨before, after, hsplit, hbefore, hunread⟩, hreason⟩
  · rintro ⟨entry, ⟨before, after, hsplit, hbefore, hunread⟩, hreason⟩
    exact ⟨before, entry, after, hsplit, hbefore, hunread, hreason⟩

/-- The first block that does not fit is the first one that does not lie in the data area. -/
theorem find?_misfit_iff (hpos : 0 < l.sectorSize) :
    blocks.find? (fun block => ¬Fits l block) = some block ↔ FirstOutside l blocks block := by
  unfold FirstOutside
  rw [List.find?_eq_some_iff_append]
  simp only [decide_not, Bool.not_eq_true', decide_eq_false_iff_not, Bool.not_not,
    decide_eq_true_eq, fits_iff_inData hpos]
  constructor
  · rintro ⟨hout, before, after, hsplit, hbefore⟩
    exact ⟨before, after, hsplit, hbefore, hout⟩
  · rintro ⟨before, after, hsplit, hbefore, hout⟩
    exact ⟨hout, before, after, hsplit, hbefore⟩

/-- Blocks that are marked all lie in the data area, and are marked by the sectors that they cover. -/
theorem inData_of_sectors (h : l.Sound) {found : SectorSet} (hfound : sectors l blocks = .ok found) :
    (∀ block ∈ blocks, InData l block) ∧
      ∀ s, s ∈ found ↔ ∃ block ∈ blocks, Covers l.sectorSize block s := by
  rcases sectors_cases h blocks with hfits | ⟨block, -, -, hrefused⟩
  · obtain ⟨marked, hmarked, hmem⟩ := sectors_of_fits h hfits
    cases hfound.symm.trans hmarked
    exact ⟨fun block hblock => (fits_iff_inData h.sectorSize.1.pos).1 (hfits block hblock), hmem⟩
  · cases hfound.symm.trans hrefused

/-- Blocks are marked just if all of them lie in the data area. -/
theorem exists_sectors_iff (h : l.Sound) :
    (∃ found, sectors l blocks = .ok found) ↔ ∀ block ∈ blocks, InData l block := by
  constructor
  · rintro ⟨found, hfound⟩
    exact (inData_of_sectors h hfound).1
  · intro hdata
    obtain ⟨found, hfound, -⟩ := sectors_of_fits h fun block hblock =>
      (fits_iff_inData h.sectorSize.1.pos).2 (hdata block hblock)
    exact ⟨found, hfound⟩

/-- Blocks are refused just for the first one that does not lie in the data area. -/
theorem sectors_eq_refuse_iff (h : l.Sound) {reason : ListError} :
    sectors l blocks = refuse reason ↔
      ∃ block, FirstOutside l blocks block ∧ reason = .outOfRange block := by
  simp only [← find?_misfit_iff h.sectorSize.1.pos]
  constructor
  · intro hrefused
    cases hfind : blocks.find? (fun block => ¬Fits l block) with
    | none =>
      have hfits : ∀ block ∈ blocks, Fits l block := by simpa using hfind
      obtain ⟨found, hfound, -⟩ := sectors_of_fits h hfits
      cases hfound.symm.trans hrefused
    | some block =>
      cases (sectors_of_misfit h hfind).symm.trans hrefused
      exact ⟨block, rfl, rfl⟩
  · rintro ⟨block, hfind, rfl⟩
    exact sectors_of_misfit h hfind

/-- A list is marked just if it is read and its blocks are marked. -/
theorem mark_eq_ok_iff {found : SectorSet} :
    mark text l = .ok found ↔ ∃ blocks, parse text = .ok blocks ∧ sectors l blocks = .ok found := by
  unfold mark
  simp only [bind_eq_ok_iff, orRefuse_eq_ok_iff]

/-- A list is refused because it is not read, or else because its blocks are. -/
theorem mark_eq_refuse_iff {reason : ListError} :
    mark text l = refuse reason ↔ parse text = .error reason ∨
      ∃ blocks, parse text = .ok blocks ∧ sectors l blocks = refuse reason := by
  unfold mark refuse
  simp only [bind_eq_error_iff, orRefuse_eq_ok_iff]
  refine or_congr_left ?_
  cases parse text with
  | error e => rw [orRefuse_error, Except.error.injEq, Stop.refused.injEq, Except.error.injEq]
  | ok blocks => exact iff_of_false nofun nofun

/-- **All or nothing.** For every text and every computed layout a list of bad blocks is marked just
if all its entries are numbers of 64-bit words and every sector that one of these blocks covers lies
on the volume behind the start of the data. Just the sectors covered are found then, in whatever order
and however often their blocks are named. Otherwise the list is refused for the first entry that is no
number, if there is one, and else for the first block that lies elsewhere. No block number leads to a
breakdown. -/
theorem mark_allOrNothing (g : Geometry) (o : Layout.Options) (l : Layout)
    (h : Layout.compute g o = .ok l) (text : String) :
    ∃ entries, HasEntries text entries ∧
      ((∃ found, mark text l = .ok found) ↔
        ∃ blocks, Lists entries blocks ∧ ∀ block ∈ blocks, InData l block) ∧
      (∀ found blocks, mark text l = .ok found → Lists entries blocks →
        ∀ s, s ∈ found ↔ ∃ block ∈ blocks, Covers l.sectorSize block s) ∧
      (∀ n line, mark text l = refuse (.notNumber n line) ↔
        ∃ entry, FirstUnread entries entry ∧ n = entry.2 ∧ line = String.ofList entry.1) ∧
      (∀ block, mark text l = refuse (.outOfRange block) ↔
        ∃ blocks, Lists entries blocks ∧ FirstOutside l blocks block) ∧
      ∀ cause, mark text l ≠ .error (.fault cause) := by
  have hsound := Layout.sound_of_compute h
  have hentries : HasEntries text (entriesFrom 1 (Text.lines text.toList)) := hasEntries_iff.2 rfl
  refine ⟨_, hentries, ?_, fun found blocks hmark hlists => ?_, fun n line => ?_, fun block => ?_,
    mark_ne_fault hsound text⟩
  · simp only [mark_eq_ok_iff, parse_eq_ok_iff hentries, ← exists_sectors_iff hsound]
    constructor
    · rintro ⟨found, blocks, hlists, hfound⟩
      exact ⟨blocks, hlists, found, hfound⟩
    · rintro ⟨blocks, hlists, found, hfound⟩
      exact ⟨found, blocks, hlists, hfound⟩
  · rw [mark_of_parse ((parse_eq_ok_iff hentries).2 hlists)] at hmark
    exact (inData_of_sectors hsound hmark).2
  · simp only [mark_eq_refuse_iff, parse_eq_error_iff hentries, sectors_eq_refuse_iff hsound,
      ListError.notNumber.injEq, reduceCtorEq, and_false, exists_false, or_false]
  · simp only [mark_eq_refuse_iff, parse_eq_error_iff hentries, parse_eq_ok_iff hentries,
      sectors_eq_refuse_iff hsound, ListError.outOfRange.injEq, reduceCtorEq, and_false,
      exists_false, false_or, exists_eq_right']

/-- On a floppy disk of 1440 KiB block 10 lies before the data, but a list with a line behind it that
is no number is refused for this line. -/
theorem mark_allOrNothing_floppy :
    ∃ l, Layout.compute ⟨512, 2880, ⟨2, 18⟩, 0⟩ {} = .ok l ∧ ¬InData l 10 ∧
      mark "10\n\n +34x\r\n" l = refuse (.notNumber 3 "+34x") := by
  have hl := Layout.compute_floppy
  have hten : Names ['1', '0'] 10 :=
    ⟨⟨['1', '0'], Or.inl rfl, by decide, List.all_eq_true.1 rfl, rfl⟩, by decide⟩
  have hodd : ¬∃ block, Names ['+', '3', '4', 'x'] block := by
    rintro ⟨block, hblock⟩
    have hread : Numeral.read 10 64 ['+', '3', '4', 'x'] = .error .badDigit := rfl
    cases hread.symm.trans (Numeral.read_ten_eq_ok_iff.2 hblock)
  obtain ⟨entries, hentries, -, -, hunread, -⟩ := mark_allOrNothing _ _ _ hl "10\n\n +34x\r\n"
  have hlist : entries = [(['1', '0'], 1), (['+', '3', '4', 'x'], 3)] :=
    (hasEntries_iff.1 hentries).trans (by decide)
  refine ⟨_, hl, fun h => absurd (h 20 ⟨by decide, by decide⟩).1 (by decide), (hunread _ _).2 ?_⟩
  refine ⟨(['+', '3', '4', 'x'], 3), ⟨[(['1', '0'], 1)], [], hlist, ?_, hodd⟩, rfl, rfl⟩
  rintro entry hentry
  cases List.mem_singleton.1 hentry
  exact ⟨10, hten⟩

end BlockList

end FatVolume
