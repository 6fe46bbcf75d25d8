import Xcpc.Proofs.Frames

/-!
# The memory map

The map is meant to be a function of four things: the RAM configuration, the
selected ROM, the two ROM bits of the gate array, and the ROMs that are
plugged in. `update_pal` computes it in two layers, RAM first and then the
ROMs over it, and it starts from the map that was there before.

That makes no difference as long as the RAM layer sets all four pages. For a
configuration that its `switch` does not know it sets none. The ROMs of the
last map stay where they are, and a ROM bit that goes up does not take its ROM
away.
-/

namespace Xcpc.Cpc.Board

open Prog

/-- The RAM banks that the configuration asks for. With less than 128K there is
one layout. -/
def ramBanks (b : Board) : Option (BitVec 2 → Fin 8) :=
  if b.memorySize.has128K then layout b.ramConf
  else some fun i => ![0, 1, 2, 3] i.toFin

/-- What the map is meant to be. -/
structure MapLaw (b : Board) : Prop where
  ram : ∃ banks, b.ramBanks = some banks ∧ ∀ i, b.palWr i = .ram (banks i)
  page1 : b.palRd 1 = b.palWr 1
  page2 : b.palRd 2 = b.palWr 2
  lower : b.palRd 0 =
    if b.vga.rmr &&& 0x04 == 0 then .rom 0 else b.palWr 0
  upper : b.palRd 3 =
    if b.vga.rmr &&& 0x08 == 0 then b.upperRom else b.palWr 3

/-- The law holds in a known configuration. This is the invariant: nothing is
said while the configuration is unknown, and the first known one after it sets
all four pages again. -/
def Mapped (b : Board) : Prop := b.ramBanks.isSome → b.MapLaw

/-! ## One step -/

theorem updateRam_some {b : Board} {banks : BitVec 2 → Fin 8}
    (h : b.ramBanks = some banks) : b.updateRam = b.mapRam banks := by
  unfold ramBanks at h
  unfold updateRam
  split at h
  · rename_i hm
    rw [if_pos hm, h]
  · rename_i hm
    rw [if_neg hm, Option.some.inj h]

theorem updateLower_eq (b : Board) :
    b.updateLower = { b with
      palRd := if b.vga.rmr &&& 0x04 == 0
        then Function.update b.palRd 0 (.rom 0) else b.palRd } := by
  unfold updateLower
  split
  · rfl
  · rfl

theorem updateUpper_eq (b : Board) :
    b.updateUpper = { b with
      palRd := if b.vga.rmr &&& 0x08 == 0
        then Function.update b.palRd 3 b.upperRom else b.palRd } := by
  unfold updateUpper
  split
  · rfl
  · rfl

/-- `update_pal` establishes the law, whatever the map was. -/
theorem mapped_updatePal (b : Board) : b.updatePal.Mapped := by
  intro hs
  obtain ⟨rd, wr, heq⟩ := updatePal_eq b
  have hbanks : b.updatePal.ramBanks = b.ramBanks := by rw [heq]; rfl
  rw [hbanks] at hs
  obtain ⟨banks, h⟩ := Option.isSome_iff_exists.mp hs
  rw [updatePal, updateRam_some h, updateLower_eq, updateUpper_eq]
  refine ⟨⟨banks, h, fun _ => rfl⟩, ?_, ?_, ?_, ?_⟩
  · split <;> split <;> rfl
  · split <;> split <;> rfl
  · split <;> split <;> rfl
  · split <;> split <;> rfl

/-- What the law is about. -/
def mapView (b : Board) :
    MemorySize × Byte × Byte × Byte × (Byte → Bool) ×
      (BitVec 2 → BankRef) × (BitVec 2 → BankRef) :=
  (b.memorySize, b.ramConf, b.romConf, b.vga.rmr, fun i => (b.exp i).isSome,
    b.palRd, b.palWr)

theorem Mapped.of_view {b b' : Board} (h : b.Mapped)
    (hv : b'.mapView = b.mapView) : b'.Mapped := by
  simp only [mapView, Prod.mk.injEq] at hv
  obtain ⟨hm, hc, hr, hg, he, hrd, hwr⟩ := hv
  have hb : b'.ramBanks = b.ramBanks := by simp only [ramBanks, hm, hc]
  have hu : b'.upperRom = b.upperRom := by
    have hi : (b'.exp b.romConf).isSome = (b.exp b.romConf).isSome :=
      congrFun he b.romConf
    rw [upperRom, hr, hi, upperRom]
  intro hs
  rw [hb] at hs
  obtain ⟨hram, h1, h2, hlo, hup⟩ := h hs
  refine ⟨?_, ?_, ?_, ?_, ?_⟩
  · rw [hb, hwr]
    exact hram
  · rw [hrd, hwr]
    exact h1
  · rw [hrd, hwr]
    exact h2
  · rw [hrd, hwr, hg]
    exact hlo
  · rw [hrd, hwr, hg, hu]
    exact hup

/-- The map is a function of what the law names. -/
theorem MapLaw.unique {b b' : Board} (h : b.MapLaw) (h' : b'.MapLaw)
    (hm : b'.memorySize = b.memorySize) (hc : b'.ramConf = b.ramConf)
    (hr : b'.romConf = b.romConf) (hg : b'.vga.rmr = b.vga.rmr)
    (he : b'.exp = b.exp) : b'.palRd = b.palRd ∧ b'.palWr = b.palWr := by
  obtain ⟨banks, hb, hw⟩ := h.ram
  obtain ⟨banks', hb', hw'⟩ := h'.ram
  have hu : b'.upperRom = b.upperRom := by simp only [upperRom, hr, he]
  have hbb : banks' = banks := by
    simp only [ramBanks, hm, hc] at hb'
    exact Option.some.inj (hb'.symm.trans hb)
  have hwr : b'.palWr = b.palWr := by
    funext i
    rw [hw i, hw' i, hbb]
  refine ⟨?_, hwr⟩
  funext i
  have hi : i = 0 ∨ i = 1 ∨ i = 2 ∨ i = 3 := by
    have : ∀ i : BitVec 2, i = 0 ∨ i = 1 ∨ i = 2 ∨ i = 3 := by decide
    exact this i
  rcases hi with rfl | rfl | rfl | rfl
  · rw [h.lower, h'.lower, hg, hwr]
  · rw [h.page1, h'.page1, hwr]
  · rw [h.page2, h'.page2, hwr]
  · rw [h.upper, h'.upper, hg, hwr, hu]

/-! ## Histories -/

/-- A write to the gate array or to the ROM select port. -/
inductive MapEvent where
  | vga (value : Byte)
  | rom (value : Byte)

/-- The write on the mainboard. From `reset` on, the gate array's own index is
in range. -/
def mapStep (b : Board) : MapEvent → Board
  | .vga v => (b.vgaSetValue v).getD b
  | .rom v => b.vgaSetupRom v

/-- The event does not select a RAM configuration that `update_pal` does not
know. -/
def MapEvent.Known (size : MemorySize) : MapEvent → Prop
  | .vga v => size.has128K = true → v >>> 6 = 3 → (v &&& 0x3f).toNat ≤ 7
  | .rom _ => True

theorem layout_isSome (conf : Byte) :
    (layout conf).isSome = true ↔ (conf &&& 0x3f).toNat ≤ 7 := by
  unfold layout
  generalize (conf &&& 0x3f).toNat = n
  match n with
  | 0 | 1 | 2 | 3 | 4 | 5 | 6 | 7 => simp
  | n + 8 => simp

theorem memorySize_updatePal (b : Board) :
    b.updatePal.memorySize = b.memorySize := by
  obtain ⟨rd, wr, h⟩ := updatePal_eq b
  rw [h]

theorem ramBanks_updatePal (b : Board) :
    b.updatePal.ramBanks = b.ramBanks := by
  obtain ⟨rd, wr, h⟩ := updatePal_eq b
  rw [h]
  rfl

/-- Where the index is in range, a write to the gate array selects a RAM
configuration, changes the mode and updates the map, or does nothing to the
map. -/
theorem vgaSetValue_cases (b : Board) (v : Byte) :
    (v >>> 6 = 3 ∧ (b.vgaSetValue v).getD b = b.vgaSetupRam v) ∨
      (v >>> 6 ≠ 3 ∧ ∃ vga, (b.vgaSetValue v).getD b =
        updatePal { b with vga := vga }) ∨
      (v >>> 6 ≠ 3 ∧ ((b.vgaSetValue v).getD b).mapView = b.mapView) := by
  have hv : v >>> 6 = 3 ↔ (v >>> 6).toNat = 3 := by
    rw [← BitVec.toNat_inj]
    rfl
  unfold vgaSetValue Vga.setValue
  simp only [ne_eq, hv]
  have hlt : (v >>> 6).toNat < 4 := by
    rw [BitVec.toNat_ushiftRight]
    have := v.isLt
    omega
  generalize (v >>> 6).toNat = n at hlt ⊢
  match n, hlt with
  | 0, _ => exact .inr (.inr ⟨by decide, rfl⟩)
  | 1, _ =>
      refine .inr (.inr ⟨by decide, ?_⟩)
      simp only []
      split
      · rfl
      · rfl
  | 2, _ => exact .inr (.inl ⟨by decide, _, rfl⟩)
  | 3, _ => exact .inl ⟨rfl, rfl⟩

theorem memorySize_mapStep (b : Board) (e : MapEvent) :
    (mapStep b e).memorySize = b.memorySize := by
  cases e with
  | rom v => exact memorySize_updatePal _
  | vga v =>
      obtain ⟨_, hv⟩ | ⟨_, vga, hv⟩ | ⟨_, hv⟩ := vgaSetValue_cases b v
      · rw [mapStep, hv]
        exact memorySize_updatePal _
      · rw [mapStep, hv]
        exact memorySize_updatePal _
      · exact congrArg Prod.fst hv

theorem ramBanks_isSome (b : Board) :
    b.ramBanks.isSome = true ↔
      (b.memorySize.has128K = true → (b.ramConf &&& 0x3f).toNat ≤ 7) := by
  unfold ramBanks
  split
  · rename_i hm
    simp [hm, layout_isSome]
  · rename_i hm
    simp [hm]

/-- After an event the law holds exactly when the event was known. -/
theorem mapStep_law {b : Board} (h : b.MapLaw) (e : MapEvent) :
    (mapStep b e).MapLaw ↔ e.Known b.memorySize := by
  obtain ⟨banks, hb, _⟩ := h.ram
  have hsome : b.ramBanks.isSome = true := by rw [hb]; rfl
  cases e with
  | rom v =>
      refine ⟨fun _ => trivial, fun _ => mapped_updatePal _ ?_⟩
      rw [ramBanks_updatePal]
      exact hsome
  | vga v =>
      obtain ⟨h3, hv⟩ | ⟨h3, vga, hv⟩ | ⟨h3, hv⟩ := vgaSetValue_cases b v
      · have hconf : (v &&& 0x3f) &&& 0x3f = v &&& 0x3f := by
          rw [BitVec.and_assoc]
          rfl
        have hr : (b.vgaSetupRam v).ramBanks.isSome = true ↔
            (b.memorySize.has128K = true → (v &&& 0x3f).toNat ≤ 7) := by
          rw [vgaSetupRam, ramBanks_updatePal, ramBanks_isSome, hconf]
        rw [mapStep, hv]
        constructor
        · intro hl hm _
          obtain ⟨_, hb', _⟩ := hl.ram
          exact hr.mp (by rw [hb']; rfl) hm
        · intro hk
          exact mapped_updatePal _ (hr.mpr fun hm => hk hm h3)
      · refine ⟨fun _ _ h3' => absurd h3' h3, fun _ => ?_⟩
        rw [mapStep, hv]
        refine mapped_updatePal _ ?_
        rw [ramBanks_updatePal]
        exact hsome
      · refine ⟨fun _ _ h3' => absurd h3' h3, fun _ => ?_⟩
        exact Mapped.of_view (fun _ => h) hv (by
          have hb' : (mapStep b (.vga v)).ramBanks = b.ramBanks := by
            simp only [mapView, Prod.mk.injEq] at hv
            simp only [ramBanks, mapStep, hv.1, hv.2.1]
          rw [hb']
          exact hsome)

theorem reset_mapped (b : Board) : b.reset.Mapped := mapped_updatePal _

theorem reset_memorySize (b : Board) : b.reset.memorySize = b.memorySize :=
  memorySize_updatePal _

theorem reset_law (b : Board) : b.reset.MapLaw := by
  refine reset_mapped b ?_
  rw [reset, ramBanks_updatePal, ramBanks_isSome]
  intro _
  show ((0 : Byte) &&& 0x3f).toNat ≤ 7
  decide

/-- Over every history from reset the law holds in each state exactly when no
event selects an unknown RAM configuration. -/
theorem memory_map_law (b : Board) (es : List MapEvent) :
    Always mapStep MapLaw b.reset es ↔ ∀ e ∈ es, e.Known b.memorySize := by
  refine @always_iff _ _ mapStep MapLaw (fun b' => b'.memorySize = b.memorySize)
    _ ?_ ?_ _ (reset_memorySize b) (reset_law b) es
  · intro b' e h
    exact (memorySize_mapStep b' e).trans h
  · intro b' e h hl
    rw [← h]
    exact mapStep_law hl e

/-- RAM configuration 8, then a mode with the lower ROM disabled. -/
theorem disabled_rom_is_read :
    ¬ ∀ es, Always mapStep MapLaw (reset (blank .k128)) es := by
  intro h
  have hl := (h [.vga 0xc8, .vga 0x84]).2.2.lower
  exact absurd hl (by decide +kernel)

end Xcpc.Cpc.Board
