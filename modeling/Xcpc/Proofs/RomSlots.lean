import Xcpc.Cpc.Roms

/-!
# The ROM slots

A load that succeeds puts the image of the file into the bank, whatever was
there. A load that fails throws, but what it has changed until then stays: the
bytes read before the end of the file, and the bank that an empty slot was
given. Such a slot is plugged, and `update_pal` maps it over the upper ROM.

The loop over the expansion slots carries an index of its own. Without a ROM
named for the slot 7 it leaves that slot alone by a `continue`, which passes
over the increment of the index too. So it meets the index 7 at every later
slot, and leaves all of them alone.
-/

namespace Xcpc.Cpc

open Sna (Bank)

/-! ## Images -/

/-- The bank that a readable file holds from a position on. -/
def romImage (files : Files) (filename : String) (offset : Nat) : Option Bank :=
  match files.fopen filename with
  | none => none
  | some file =>
      if file.seek offset = true ∧ (file.chunk offset).length = bankSize then
        some (storeBytes (fun _ => 0) (file.chunk offset))
      else
        none

/-- What a load stores before it succeeds or fails. -/
def storedBytes (files : Files) (filename : String) (offset : Nat) :
    List Byte :=
  match files.fopen filename with
  | none => []
  | some file => if file.seek offset then file.chunk offset else []

theorem storeBytes_full {data : List Byte} (h : data.length = bankSize)
    (bank bank' : Bank) : storeBytes bank data = storeBytes bank' data := by
  funext o
  have ho : o.toNat < data.length := h ▸ o.isLt
  simp only [storeBytes, List.getD_eq_getElem?_getD,
    List.getElem?_eq_getElem ho, Option.getD_some]

section

variable (files : Files) (bank : Bank) (filename : String) (offset : Nat)

/-- What has been read is stored, whether the load succeeds or not. -/
theorem memLoad_fst : (memLoad files bank filename offset).1 =
    storeBytes bank (storedBytes files filename offset) := by
  unfold memLoad storedBytes
  cases files.fopen filename with
  | none => rfl
  | some file =>
      simp only []
      split
      · split <;> rfl
      · rfl

theorem memLoad_ok {image : Bank}
    (h : romImage files filename offset = some image) :
    memLoad files bank filename offset = (image, .ok ()) := by
  unfold memLoad
  unfold romImage at h
  cases hopen : files.fopen filename with
  | none =>
      rw [hopen] at h
      cases h
  | some file =>
      rw [hopen] at h
      simp only [] at h ⊢
      split at h
      · rename_i hread
        rw [if_pos hread.1, if_pos hread.2,
          storeBytes_full hread.2 bank fun _ => 0, Option.some.inj h]
      · cases h

theorem memLoad_error (h : romImage files filename offset = none) :
    ∃ e, (memLoad files bank filename offset).2 = .error e := by
  unfold memLoad
  unfold romImage at h
  cases hopen : files.fopen filename with
  | none => exact ⟨_, rfl⟩
  | some file =>
      rw [hopen] at h
      simp only [] at h ⊢
      split at h
      · cases h
      · rename_i hread
        split
        · rename_i hseek
          rw [if_neg fun hlen => hread ⟨hseek, hlen⟩]
          exact ⟨_, rfl⟩
        · exact ⟨_, rfl⟩

end

/-- Storing what is there changes nothing, and storing anything else does. -/
theorem storeBytes_eq_self {bank : Bank} {data : List Byte} :
    storeBytes bank data = bank ↔
      ∀ o : BitVec 14, ∀ byte, data[o.toNat]? = some byte → bank o = byte := by
  rw [funext_iff]
  refine forall_congr' fun o => ?_
  rw [storeBytes, List.getD_eq_getElem?_getD]
  cases data[o.toNat]? with
  | none =>
      refine ⟨fun _ byte h => ?_, fun _ => rfl⟩
      cases h
  | some byte =>
      refine ⟨fun h byte' hb => ?_, fun h => (h byte rfl).symm⟩
      cases hb
      exact h.symm

theorem storeBytes_again (bank : Bank) (data : List Byte) :
    storeBytes (storeBytes bank data) data = storeBytes bank data := by
  funext o
  rw [storeBytes, storeBytes, List.getD_eq_getElem?_getD,
    List.getD_eq_getElem?_getD]
  cases data[o.toNat]? with
  | none => rfl
  | some byte => rfl

namespace Board

/-! ## Failed loads -/

/-- What a ROM is loaded as. -/
inductive RomKind where
  | lower
  | upper
  | expansion (slot : Byte)

def RomKind.offset : RomKind → Nat
  | .upper => 0x4000
  | _ => 0x0000

def loadRomFile (files : Files) (b : Board) (filename : String) :
    RomKind → Board × Except String Unit
  | .lower => b.loadLowerRom files filename
  | .upper => b.loadUpperRom files filename
  | .expansion slot => b.loadExpansion files filename slot

def romBank (b : Board) : RomKind → Option Bank
  | .lower => some (b.rom 0)
  | .upper => some (b.rom 1)
  | .expansion slot => b.exp slot

/-- The load throws and leaves the mainboard as it was. -/
def LoadAtomic (files : Files) (b : Board) (filename : String)
    (kind : RomKind) : Prop :=
  (∃ e, (b.loadRomFile files filename kind).2 = .error e) ∧
    (b.loadRomFile files filename kind).1 = b

theorem with_rom_eq {b : Board} {i : Fin 2} {bank : Bank} :
    { b with rom := Function.update b.rom i bank } = b ↔ bank = b.rom i := by
  constructor
  · intro h
    exact Function.update_eq_self_iff.1 (congrArg Board.rom h)
  · rintro rfl
    rw [Function.update_eq_self]

theorem with_exp_eq {b : Board} {i : Byte} {bank : Bank} :
    { b with exp := Function.update b.exp i (some bank) } = b ↔
      b.exp i = some bank := by
  constructor
  · intro h
    exact (Function.update_eq_self_iff.1 (congrArg Board.exp h)).symm
  · intro h
    rw [← h, Function.update_eq_self]

theorem loadRomFile_error {files : Files} {b : Board} {filename : String}
    {kind : RomKind}
    (h : romImage files (romPath files filename) kind.offset = none) :
    ∃ e, (b.loadRomFile files filename kind).2 = .error e := by
  cases kind with
  | lower => exact memLoad_error files _ _ _ h
  | upper => exact memLoad_error files _ _ _ h
  | expansion slot => exact memLoad_error files _ _ _ h

/-- A load changes nothing when the bank is there and holds what is read. -/
theorem loadRomFile_eq_self (files : Files) (b : Board) (filename : String)
    (kind : RomKind) : (b.loadRomFile files filename kind).1 = b ↔
      ∃ bank, b.romBank kind = some bank ∧ storeBytes bank
        (storedBytes files (romPath files filename) kind.offset) = bank := by
  cases kind with
  | lower =>
      show { b with rom := Function.update b.rom 0 (memLoad ..).1 } = b ↔ _
      rw [memLoad_fst, with_rom_eq]
      exact ⟨fun h => ⟨_, rfl, h⟩, fun ⟨_, hb, h⟩ => Option.some.inj hb ▸ h⟩
  | upper =>
      show { b with rom := Function.update b.rom 1 (memLoad ..).1 } = b ↔ _
      rw [memLoad_fst, with_rom_eq]
      exact ⟨fun h => ⟨_, rfl, h⟩, fun ⟨_, hb, h⟩ => Option.some.inj hb ▸ h⟩
  | expansion slot =>
      show { b with
        exp := Function.update b.exp slot (some (memLoad ..).1) } = b ↔ _
      rw [memLoad_fst, with_exp_eq]
      show b.exp slot = _ ↔ ∃ bank, b.exp slot = some bank ∧ _
      cases b.exp slot with
      | none =>
          constructor
          · intro h
            cases h
          · rintro ⟨_, h, _⟩
            cases h
      | some bank =>
          constructor
          · intro h
            exact ⟨bank, rfl, (Option.some.inj h).symm⟩
          · rintro ⟨_, hb, h⟩
            cases hb
            exact congrArg some h.symm

/-- A load that fails is atomic exactly when the ROM has a bank that already
holds the bytes read before the failure. -/
theorem failed_load_atomic_iff (files : Files) (b : Board) (filename : String)
    (kind : RomKind)
    (hfail : romImage files (romPath files filename) kind.offset = none) :
    LoadAtomic files b filename kind ↔
      ∃ bank, b.romBank kind = some bank ∧ ∀ o : BitVec 14, ∀ byte,
        (storedBytes files (romPath files filename) kind.offset)[o.toNat]? =
          some byte → bank o = byte := by
  simp only [← storeBytes_eq_self]
  rw [LoadAtomic, and_iff_right (loadRomFile_error hfail)]
  exact loadRomFile_eq_self files b filename kind

/-- Every file opens and ends after three bytes. -/
def shortFiles : Files :=
  ⟨fun _ => some ⟨fun _ => true, fun _ => [0x01, 0x89, 0x7f]⟩, "roms"⟩

/-- A file that ends early leaves its three bytes in the lower ROM. The second
try finds them there. -/
theorem short_atomic :
    ¬ LoadAtomic shortFiles (blank .k64) "os.rom" .lower ∧
      LoadAtomic shortFiles ((blank .k64).loadLowerRom shortFiles "os.rom").1
        "os.rom" .lower := by
  have hfail : romImage shortFiles (romPath shortFiles "os.rom")
      RomKind.lower.offset = none := by decide
  constructor
  · intro h
    obtain ⟨_, hb, h⟩ := (failed_load_atomic_iff _ _ _ _ hfail).1 h
    cases hb
    exact absurd (h 0 0x01 (by decide)) (by decide)
  · refine (failed_load_atomic_iff _ _ _ _ hfail).2
      ⟨storeBytes ((blank .k64).rom 0) [0x01, 0x89, 0x7f], rfl, ?_⟩
    exact storeBytes_eq_self.1 (storeBytes_again _ _)

def noFiles : Files := ⟨fun _ => none, "roms"⟩

/-- A file that does not open leaves a blank bank in the slot 0, over the upper
ROM. -/
theorem noFiles_plugs :
    ¬ LoadAtomic noFiles (blank .k64) "exp.rom" (.expansion 0) ∧
      (blank .k64).updatePal.palRd 3 = .rom 1 ∧
      ((blank .k64).loadExpansion noFiles "exp.rom" 0).1.updatePal.palRd 3 =
        .exp 0 := by
  refine ⟨?_, by decide, by decide⟩
  rintro ⟨-, h⟩
  obtain ⟨bank, hb, -⟩ := (loadRomFile_eq_self _ _ _ _).1 h
  cases hb

/-! ## The loop over the slots -/

/-- The name that the settings have for a slot. The slots from 16 on have
none. -/
def slotName (settings : RomSettings) (slot : Byte) : String :=
  if h : slot.toNat < 16 then settings.optRom ⟨slot.toNat, h⟩ else ""

/-- What the settings ask of a slot: the image of its file, or nothing. -/
def wantedSlot (files : Files) (settings : RomSettings) (slot : Byte) :
    Option Bank :=
  if isSet (slotName settings slot) then
    romImage files (romPath files (slotName settings slot)) 0
  else
    none

def Readable (files : Files) (settings : RomSettings) : Prop :=
  ∀ slot, isSet (slotName settings slot) →
    (romImage files (romPath files (slotName settings slot)) 0).isSome

/-- The slots as the settings ask for them. A slot 7 without a name keeps its
ROM. -/
def SlotsAsked (files : Files) (settings : RomSettings) (b b' : Board) : Prop :=
  ∀ slot, b'.exp slot =
    if slot = 7 ∧ ¬ isSet (slotName settings 7) then b.exp 7
    else wantedSlot files settings slot

/-- The slot that the index is at after `n` turns: it stops at a slot 7 without
a name. -/
def turnIndex (settings : RomSettings) (n : Nat) : Nat :=
  if isSet (slotName settings 7) then n else min n 7

/-- The slots before the index are as the settings ask, the others as they
were. -/
structure Turned (files : Files) (settings : RomSettings) (b : Board) (n : Nat)
    (s : Board × Nat) : Prop where
  index : s.2 = turnIndex settings n
  exp : ∀ slot, s.1.exp slot =
    if slot.toNat < s.2 then wantedSlot files settings slot else b.exp slot

/-- A turn that is no `continue` makes the slot of its index as the settings
ask. -/
theorem expansionTurn_exp {files : Files} {settings : RomSettings}
    (hr : Readable files settings) (b : Board) {n : Nat} (hn : n < 256)
    (hgo : ¬ (n = 7 ∧ ¬ isSet (slotName settings 7))) :
    (expansionTurn files settings (b, n) (BitVec.ofNat 8 n)).2 = n + 1 ∧
      (expansionTurn files settings (b, n) (BitVec.ofNat 8 n)).1.exp =
        Function.update b.exp (BitVec.ofNat 8 n)
          (wantedSlot files settings (BitVec.ofNat 8 n)) := by
  have hto : (BitVec.ofNat 8 n).toNat = n := Nat.mod_eq_of_lt hn
  have hname : (if h : n < 16 then settings.optRom ⟨n, h⟩ else "") =
      slotName settings (BitVec.ofNat 8 n) := by
    simp only [slotName, hto]
  have hstop : ¬ (n == 7 && !isSet (slotName settings (BitVec.ofNat 8 n))) := by
    intro h
    rw [Bool.and_eq_true, beq_iff_eq, Bool.not_eq_true'] at h
    obtain ⟨rfl, hunset⟩ := h
    exact hgo ⟨rfl, Bool.eq_false_iff.1 hunset⟩
  simp only [expansionTurn, hname, if_neg hstop]
  split
  · rename_i hset
    obtain ⟨image, himage⟩ := Option.isSome_iff_exists.1 (hr _ hset)
    refine ⟨rfl, ?_⟩
    rw [wantedSlot, if_pos hset, himage]
    show Function.update b.exp _ (some (memLoad ..).1) = _
    rw [memLoad_ok files _ _ _ himage]
  · rename_i hset
    refine ⟨rfl, ?_⟩
    rw [wantedSlot, if_neg hset]
    rfl

theorem Turned.turn {files : Files} {settings : RomSettings} {b : Board}
    {n : Nat} {s : Board × Nat} (h : Turned files settings b n s)
    (hr : Readable files settings) (hn : n < 256) :
    Turned files settings b (n + 1)
      (expansionTurn files settings s (BitVec.ofNat 8 n)) := by
  obtain ⟨b', index⟩ := s
  obtain ⟨hindex, hexp⟩ := h
  simp only [] at hindex hexp
  by_cases hstop : index = 7 ∧ ¬ isSet (slotName settings 7)
  · obtain ⟨rfl, hunset⟩ := hstop
    have hcontinue : (7 == 7 && !isSet (slotName settings 7)) = true := by
      rw [Bool.eq_false_iff.2 hunset]
      rfl
    have hsame : expansionTurn files settings (b', 7) (BitVec.ofNat 8 n) =
        (b', 7) := if_pos hcontinue
    rw [hsame]
    refine ⟨?_, hexp⟩
    unfold turnIndex at hindex ⊢
    rw [if_neg hunset] at hindex ⊢
    show 7 = _
    omega
  · have hat : index = n ∧ turnIndex settings (n + 1) = n + 1 := by
      unfold turnIndex at hindex ⊢
      split at hindex
      · rename_i hset
        exact ⟨hindex, if_pos hset⟩
      · rename_i hset
        rw [if_neg hset]
        have hne : index ≠ 7 := fun h => hstop ⟨h, hset⟩
        omega
    obtain ⟨rfl, hnext⟩ := hat
    obtain ⟨hi, he⟩ := expansionTurn_exp hr b' hn hstop
    refine ⟨hi.trans hnext.symm, fun slot => ?_⟩
    have hto : (BitVec.ofNat 8 index).toNat = index := Nat.mod_eq_of_lt hn
    rw [hi, he, Function.update_apply, hexp]
    by_cases heq : slot = BitVec.ofNat 8 index
    · rw [if_pos heq, heq, hto, if_pos (Nat.lt_succ_self index)]
    · have hne : slot.toNat ≠ index := by
        intro h
        exact heq (BitVec.eq_of_toNat_eq (h.trans hto.symm))
      rw [if_neg heq]
      by_cases hlt : slot.toNat < index
      · rw [if_pos hlt, if_pos (by omega)]
      · rw [if_neg hlt, if_neg (by omega)]

theorem loadExpansionsRoms_exp {files : Files} {settings : RomSettings}
    (hr : Readable files settings) (b : Board) (slot : Byte) :
    (loadExpansionsRoms files settings b).exp slot =
      if slot.toNat < turnIndex settings 256 then
        wantedSlot files settings slot
      else b.exp slot := by
  have hturns : ∀ n ≤ 256, Turned files settings b n
      (((List.range n).map (BitVec.ofNat 8)).foldl
        (expansionTurn files settings) (b, 0)) := by
    intro n
    induction n with
    | zero =>
        refine fun _ => ⟨?_, fun slot => ?_⟩
        · unfold turnIndex
          split <;> rfl
        · exact (if_neg (Nat.not_lt_zero _)).symm
    | succ n ih =>
        intro hn
        rw [List.range_succ, List.map_append, List.foldl_append]
        exact (ih (by omega)).turn hr (by omega)
  have h := hturns 256 (Nat.le_refl 256)
  rw [loadExpansionsRoms, h.exp, h.index]

/-- The loop does what the settings ask exactly when they name a ROM for the
slot 7, or the slots after it are as they ask already. -/
theorem slotsAsked_iff {files : Files} {settings : RomSettings}
    (hr : Readable files settings) (b : Board) :
    SlotsAsked files settings b (loadExpansionsRoms files settings b) ↔
      isSet (slotName settings 7) = true ∨
        ∀ slot : Byte, 7 < slot.toNat →
          b.exp slot = wantedSlot files settings slot := by
  unfold SlotsAsked
  simp only [loadExpansionsRoms_exp hr, turnIndex]
  by_cases hset : isSet (slotName settings 7) = true
  · simp only [hset, if_pos, not_true, and_false, if_false, true_or, iff_true]
    exact fun slot => if_pos slot.isLt
  · have hmin : min 256 7 = 7 := rfl
    simp only [hset, Bool.false_eq_true, if_false, false_or,
      not_false_eq_true, and_true, hmin]
    constructor
    · intro h slot hslot
      have hne : slot ≠ 7 := by
        rintro rfl
        exact absurd hslot (by decide)
      have hs := h slot
      rwa [if_neg (by omega), if_neg hne] at hs
    · intro h slot
      rcases Nat.lt_trichotomy slot.toNat 7 with hlt | heq | hgt
      · have hne : slot ≠ 7 := by
          rintro rfl
          exact absurd hlt (by decide)
        rw [if_pos hlt, if_neg hne]
      · have h7 : slot = 7 := BitVec.eq_of_toNat_eq heq
        rw [if_neg (by omega), if_pos h7, h7]
      · have hne : slot ≠ 7 := by
          rintro rfl
          exact absurd hgt (by decide)
        rw [if_neg (by omega), if_neg hne, h slot hgt]

/-- Every file opens, and is a bank of zeros. -/
def zeroFiles : Files :=
  ⟨fun _ => some ⟨fun _ => true, fun _ => List.replicate bankSize 0⟩, "roms"⟩

theorem zeroFiles_readable (settings : RomSettings) :
    Readable zeroFiles settings := by
  intro slot _
  have hlen : (File.chunk ⟨fun _ => true, fun _ => List.replicate bankSize 0⟩
      0).length = bankSize := by
    rw [File.chunk, List.take_replicate, Nat.min_self, List.length_replicate]
  simp only [romImage, zeroFiles, hlen, and_self, if_true, Option.isSome_some]

/-- With a ROM for every slot the settings name. -/
theorem named_slots :
    SlotsAsked zeroFiles ⟨fun _ => "a.rom"⟩ (blank .k64)
      (loadExpansionsRoms zeroFiles ⟨fun _ => "a.rom"⟩ (blank .k64)) :=
  (slotsAsked_iff (zeroFiles_readable _) (blank .k64)).2 (.inl (by decide))

/-- Only the slot 8 has a name, and it stays empty. -/
theorem slot8_not_loaded :
    let settings : RomSettings :=
      ⟨fun i => if i = 8 then "a.rom" else "\x7bnot-set\x7d"⟩
    Readable zeroFiles settings ∧
      (loadExpansionsRoms zeroFiles settings (blank .k64)).exp 8 = none ∧
      ¬ SlotsAsked zeroFiles settings (blank .k64)
        (loadExpansionsRoms zeroFiles settings (blank .k64)) := by
  intro settings
  have hr := zeroFiles_readable settings
  have hunset : isSet (slotName settings 7) = false := by decide
  have hset : isSet (slotName settings 8) = true := by decide
  have hempty : (loadExpansionsRoms zeroFiles settings (blank .k64)).exp 8 =
      none := by
    rw [loadExpansionsRoms_exp hr, turnIndex, hunset]
    rfl
  refine ⟨hr, hempty, fun h => ?_⟩
  have h8 := h 8
  rw [hempty, if_neg (by decide), wantedSlot, if_pos hset] at h8
  exact Option.isSome_iff_ne_none.1 (hr 8 hset) h8.symm

end Board

end Xcpc.Cpc
