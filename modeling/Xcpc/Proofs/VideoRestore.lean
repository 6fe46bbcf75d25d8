import Xcpc.Proofs.MemoryMap
import Xcpc.Proofs.SnapshotFormat

/-!
# The snapshot restores video and memory

A snapshot is loaded into a machine that was just reset, and three paths lead
to what the snapshot holds. Copies need nothing. The registers of the display
controller are written to its ports, which masks them and skips the ones that
cannot be written, so their round trip needs an invariant: every register is
within its mask, and the ones that cannot be written are zero. The maps are
computed again, so theirs needs that the map was the one its configuration
asks for.

Both invariants are kept by everything that happens to the machine.
-/

namespace Xcpc.Vdc

/-- Registers are within their masks, and zero if they cannot be written. -/
def State.Masked (s : State) : Prop :=
  ∀ i, s.data i &&& mask i = s.data i ∧ (writable i = false → s.data i = 0)

theorem reset_masked : reset.Masked := by
  unfold State.Masked
  decide

theorem setIndex_masked {s : State} (h : s.Masked) (index : Byte) :
    (setIndex s index).Masked := h

/-- A value masked again is the value. -/
theorem and_mask (v : Byte) (i : Fin 18) :
    (v &&& mask i) &&& mask i = v &&& mask i := by
  rw [BitVec.and_assoc, BitVec.and_self]

theorem setValue_masked {s : State} (h : s.Masked) (v : Byte) :
    (setValue s v).Masked := by
  unfold setValue
  split
  · simp only []
    split
    · rename_i hw
      intro j
      simp only [Function.update_apply]
      split
      · rename_i hj
        subst hj
        exact ⟨and_mask v _, fun hn => absurd hw (by rw [hn]; decide)⟩
      · exact h j
    · exact h
  · exact h

theorem getValue_masked {s : State} (h : s.Masked) (v : Byte) :
    (getValue s v).2.Masked := by
  unfold getValue
  split
  · simp only []
    split
    · intro j
      simp only [Function.update_apply]
      split
      · rename_i hj
        rw [hj, (h _).1]
        exact h _
      · exact h j
    · exact h
  · exact h

/-- A register written through its index. -/
def setReg (s : State) (i : Fin 18) (v : Byte) : State :=
  setValue (setIndex s (BitVec.ofNat 8 i.val)) v

theorem setReg_data (s : State) (i j : Fin 18) (v : Byte) :
    (setReg s i v).data j =
      if j = i ∧ writable i = true then v &&& mask i else s.data j := by
  have hi := i.isLt
  have haddr : (setIndex s (BitVec.ofNat 8 i.val)).addr.toNat = i.val := by
    simp only [setIndex, BitVec.toNat_and, BitVec.toNat_ofNat]
    have : i.val % 2 ^ 8 = i.val := by omega
    rw [this]
    revert i
    decide
  have hfin (h : (setIndex s (BitVec.ofNat 8 i.val)).addr.toNat < 18) :
      (⟨_, h⟩ : Fin 18) = i := Fin.ext haddr
  rw [setReg, setValue, dif_pos (by rw [haddr]; exact hi)]
  simp only [hfin]
  split
  · rename_i hw
    simp only [hw, and_true, Function.update_apply, setIndex]
  · rename_i hw
    rw [if_neg fun h => hw h.2]
    rfl

theorem setReg_masked {s : State} (h : s.Masked) (i : Fin 18) (v : Byte) :
    (setReg s i v).Masked :=
  setValue_masked (setIndex_masked h _) v

theorem setRegs_masked (is : List (Fin 18)) (v : Fin 18 → Byte) {s : State}
    (h : s.Masked) : (is.foldl (fun s i => setReg s i (v i)) s).Masked := by
  induction is generalizing s with
  | nil => exact h
  | cons i is ih => exact ih (setReg_masked h i (v i))

/-- Registers written in any order hold their own masked value. -/
theorem setRegs_data (is : List (Fin 18)) (v : Fin 18 → Byte) (s : State)
    (j : Fin 18) :
    (is.foldl (fun s i => setReg s i (v i)) s).data j =
      if j ∈ is ∧ writable j = true then v j &&& mask j else s.data j := by
  induction is generalizing s with
  | nil => simp
  | cons i is ih =>
      rw [List.foldl_cons, ih, setReg_data]
      by_cases hj : j = i
      · subst hj
        by_cases hw : writable j = true
        · simp [hw]
        · simp [hw]
      · simp [hj]

end Xcpc.Vdc

namespace Xcpc.Cpc.Board

open Prog

/-! ## The invariant -/

/-- What the round trip needs of a mainboard. -/
structure Regular (b : Board) : Prop where
  mapped : b.Mapped
  masked : b.vdc.Masked

/-- What neither the map nor the display controller sees keeps both. -/
theorem Regular.frame {b b' : Board} (h : b.Regular)
    (hv : b'.mapView = b.mapView) (hd : b'.vdc = b.vdc) : b'.Regular :=
  ⟨h.mapped.of_view hv, by rw [hd]; exact h.masked⟩

theorem Regular.offPpi {b b' : Board} (h : b.Regular)
    (ho : b'.offPpi = b.offPpi) : b'.Regular := by
  have hv := congrArg mapView ho
  refine h.frame hv ?_
  rw [← offPpi_vdc, ho, offPpi_vdc]

theorem vdc_updatePal (b : Board) : b.updatePal.vdc = b.vdc := by
  obtain ⟨rd, wr, h⟩ := updatePal_eq b
  rw [h]

theorem Regular.updatePal {b : Board} (h : b.vdc.Masked) :
    b.updatePal.Regular :=
  ⟨mapped_updatePal b, by rw [vdc_updatePal]; exact h⟩

theorem store_frame (b : Board) (ref : BankRef) (o : BitVec 14) (v : Byte) :
    (b.store ref o v).mapView = b.mapView ∧ (b.store ref o v).vdc = b.vdc := by
  cases ref with
  | ram i => exact ⟨rfl, rfl⟩
  | rom i => exact ⟨rfl, rfl⟩
  | exp i =>
      refine ⟨?_, rfl⟩
      have he (j : Byte) :
          (Function.update b.exp i
            ((b.exp i).map fun bank => Function.update bank o v) j).isSome =
              (b.exp j).isSome := by
        rw [Function.update_apply]
        split
        · rename_i hj
          rw [hj, Option.isSome_map]
        · rfl
      simp only [mapView, store, he]

theorem vgaSetValue_vdc (b : Board) (v : Byte) :
    ((b.vgaSetValue v).getD b).vdc = b.vdc := by
  unfold vgaSetValue
  cases Vga.setValue b.vga v with
  | none => rfl
  | some r =>
      simp only [Option.map_some, Option.getD_some]
      split
      · rfl
      · exact vdc_updatePal _
      · exact vdc_updatePal _

theorem vgaSetValue_regular {b : Board} (h : b.Regular) (v : Byte) :
    ((b.vgaSetValue v).getD b).Regular := by
  refine ⟨?_, by rw [vgaSetValue_vdc]; exact h.masked⟩
  obtain ⟨_, hv⟩ | ⟨_, vga, hv⟩ | ⟨_, hv⟩ := vgaSetValue_cases b v
  · rw [hv]
    exact mapped_updatePal _
  · rw [hv]
    exact mapped_updatePal _
  · exact h.mapped.of_view hv

theorem iorqRdVdc_regular {b : Board} (h : b.Regular) (port : Word) (v : Byte) :
    (b.iorqRdVdc port v).2.Regular := by
  unfold iorqRdVdc
  split
  · split
    · exact h
    · exact h
    · exact h
    · exact ⟨h.mapped.of_view rfl, Vdc.getValue_masked h.masked v⟩
  · exact h

theorem iorqRd_regular {b : Board} (h : b.Regular) (port : Word) :
    (b.iorqRd port).2.Regular := by
  unfold iorqRd
  exact (iorqRdVdc_regular h port _).offPpi (offPpi_iorqRdPpi _ port _)

theorem iorqWrVdc_regular {b : Board} (h : b.Regular) (port : Word) (v : Byte) :
    (b.iorqWrVdc port v).Regular := by
  unfold iorqWrVdc
  split
  · split
    · exact ⟨h.mapped.of_view rfl, Vdc.setIndex_masked h.masked v⟩
    · exact ⟨h.mapped.of_view rfl, Vdc.setValue_masked h.masked v⟩
    · exact h
  · exact h

theorem iorqWr_regular {b : Board} (h : b.Regular) (port : Word) (v : Byte) :
    (b.iorqWr port v).Regular := by
  have hvga : (b.iorqWrVga port v).Regular := by
    unfold iorqWrVga
    split
    · exact vgaSetValue_regular h v
    · exact h
  have hvdc := iorqWrVdc_regular hvga port v
  have hrom : (((b.iorqWrVga port v).iorqWrVdc port v).iorqWrRom port
      v).Regular := by
    unfold iorqWrRom
    split
    · exact Regular.updatePal hvdc.masked
    · exact hvdc
  exact hrom.offPpi (offPpi_iorqWrPpi _ port v)

theorem assertHsync_rmr {s : Vga.State} {x : Bool} {r : Vga.State × Nat}
    (h : Vga.assertHsync s x = some r) : r.1.rmr = s.rmr := by
  unfold Vga.assertHsync at h
  split at h
  · unfold Vga.risingHsync at h
    simp only [] at h
    split at h
    · cases hl : Vga.latch s with
      | none => rw [hl] at h; exact absurd h (by simp)
      | some line =>
          rw [hl] at h
          rw [← Option.some.inj h]
    · rw [← Option.some.inj h]
  · rw [← Option.some.inj h]
    unfold Vga.fallingHsync
    simp only []
    split
    · split
      · rfl
      · rfl
    · rfl

theorem load_masked (b : Board) (s : Sna.State) (h : b.vdc.Masked) :
    (b.load s).vdc.Masked := by
  rw [load_vdc]
  exact Vdc.setIndex_masked (Vdc.setRegs_masked _ _ h) _

theorem reset_regular (b : Board) : b.reset.Regular :=
  Regular.updatePal Vdc.reset_masked

theorem regular_invariant : Invariant Regular where
  mreqWr b a v h := by
    obtain ⟨hv, hd⟩ := store_frame b (b.palWr (page a)) (offset a) v
    exact h.frame hv hd
  iorqM1 b h := h.frame rfl rfl
  iorqRd b p h := iorqRd_regular h p
  iorqWr b p v h := iorqWr_regular h p v
  hsync b x r hr h := by
    unfold assertHsync at hr
    obtain ⟨r', hr', rfl⟩ := Option.map_eq_some_iff.mp hr
    refine h.frame ?_ rfl
    simp only [mapView, assertHsync_rmr hr']
  vsync b x h := by
    refine h.frame ?_ rfl
    simp only [mapView, assertVsync, Vga.assertVsync]
    split
    · rfl
    · rfl
  vdc b h := by
    refine ⟨h.mapped.of_view rfl, ?_⟩
    show (Vdc.clock b.vdc).Masked
    unfold Vdc.State.Masked
    rw [Vdc.clock_data]
    exact h.masked
  psg b h := h.frame rfl rfl
  keys b keys h := h.frame rfl rfl
  reset b := reset_regular b
  load b s := ⟨mapped_updatePal _, load_masked _ s (reset_regular b).masked⟩

/-! ## The round trip -/

/-- Video and memory of `b'` are those of `b`, as far as the configured memory
reaches. -/
structure Restored (b b' : Board) : Prop where
  pen : b'.vga.pen = b.vga.pen
  ink : b'.vga.ink = b.vga.ink
  rmr : b'.vga.rmr = b.vga.rmr
  vdcData : b'.vdc.data = b.vdc.data
  vdcAddr : b'.vdc.addr = b.vdc.addr
  ramConf : b'.ramConf = b.ramConf
  romConf : b'.romConf = b.romConf
  ram : ∀ i : Fin 8, 16384 * i.val < b.memorySize.bytes → b'.ram i = b.ram i
  palRd : b'.palRd = b.palRd
  palWr : b'.palWr = b.palWr

theorem reset_vga (b : Board) : b.reset.vga = Vga.reset b.vga := by
  obtain ⟨rd, wr, h⟩ := updatePal_eq _
  rw [reset, h]

theorem reset_vdc (b : Board) : b.reset.vdc = Vdc.reset := by
  obtain ⟨rd, wr, h⟩ := updatePal_eq _
  rw [reset, h]

theorem reset_exp (b : Board) : b.reset.exp = b.exp := by
  obtain ⟨rd, wr, h⟩ := updatePal_eq _
  rw [reset, h]

theorem restored_vdc {b : Board} (h : b.vdc.Masked) (b₀ : Board)
    (s : Sna.State) : (b₀.reset.load (b.save s)).vdc.data = b.vdc.data := by
  rw [load_vdc, loadVdc, reset_vdc]
  funext i
  have hd := Vdc.setRegs_data (List.finRange 18) b.vdc.data Vdc.reset i
  refine hd.trans ?_
  by_cases hw : Vdc.writable i = true
  · rw [if_pos ⟨List.mem_finRange i, hw⟩]
    exact (h i).1
  · rw [if_neg fun h' => hw h'.2, (h i).2 (by simpa using hw)]
    exact (Vdc.reset_masked i).2 (by simpa using hw)

/-- The size that `save_mem` writes, as `load_mem` reads it. -/
theorem decoded_size (size : MemorySize) :
    1024 * (256 * (BitVec.ofNat 8 (size.bytes >>> 18)).toNat +
      (BitVec.ofNat 8 (size.bytes >>> 10)).toNat) = min size.bytes 67107840 := by
  cases size <;> decide

theorem restored_ram {b b₀ : Board} (hm : b₀.memorySize = b.memorySize)
    (s : Sna.State) (i : Fin 8) (hi : 16384 * i.val < b.memorySize.bytes) :
    (b₀.reset.load (b.save s)).ram i = b.ram i := by
  have hi8 := i.isLt
  have hsize : (b.save s).header.ramSize = min b.memorySize.bytes 67107840 := by
    rw [Sna.ramSize_eq, ← decoded_size]
    rfl
  have hload : ∀ q ≤ i.val,
      min (b.save s).header.ramSize b₀.memorySize.bytes ≠ 16384 * q := by
    intro q hq
    rw [hsize, hm]
    omega
  have hsave : ∀ q ≤ i.val, b.memorySize.bytes ≠ 16384 * q := by
    intro q hq
    omega
  have hmem : i ∈ banks (List.finRange 32)
      (BitVec.ofNat 64 b.memorySize.bytes) :=
    (mem_banks_finRange (bytes_lt _) i).mpr hsave
  have hinj : Function.Injective (Fin.castLE (by decide) : Fin 8 → Fin 32) :=
    Fin.castLE_injective _
  rw [load_ram, if_pos hload]
  exact (foldl_update hinj b.ram _ s.memory i).trans (if_pos hmem)

/-- With an invariant mainboard in a known RAM configuration, a snapshot
restores video and memory, on whatever mainboard of the same configuration it
is loaded. -/
theorem restored {b b₀ : Board} (h : b.Regular) (hc : b.ramConf.toNat ≤ 7)
    (h₀ : SameConfig b b₀) (s : Sna.State) :
    Restored b (b₀.reset.load (b.save s)) := by
  have hvga : (b₀.reset.load (b.save s)).vga =
      { Vga.reset b₀.vga with
        pen := b.vga.pen, ink := b.vga.ink, rmr := b.vga.rmr } := by
    rw [load_vga, loadVga, reset_vga]
    rfl
  obtain ⟨hram, hrom⟩ := load_conf b₀.reset (b.save s)
  have hsize : (b₀.reset.load (b.save s)).memorySize = b.memorySize := by
    rw [load_memorySize, reset_memorySize, h₀.memorySize]
  have hexp : (b₀.reset.load (b.save s)).exp = b.exp := by
    rw [load_exp, reset_exp, h₀.exp]
  have hconf : (b.ramConf &&& 0x3f).toNat ≤ 7 := by
    rw [BitVec.toNat_and]
    exact Nat.le_trans Nat.and_le_left hc
  have hlaw : b.MapLaw := h.mapped ((ramBanks_isSome b).mpr fun _ => hconf)
  have hlaw' : (b₀.reset.load (b.save s)).MapLaw := by
    have hm : (b₀.reset.load (b.save s)).Mapped := mapped_updatePal _
    refine hm ((ramBanks_isSome _).mpr fun _ => ?_)
    rw [hram]
    exact hconf
  obtain ⟨hrd, hwr⟩ := MapLaw.unique hlaw hlaw' hsize hram hrom
    (by rw [hvga]) hexp
  exact
    { pen := by rw [hvga]
      ink := by rw [hvga]
      rmr := by rw [hvga]
      vdcData := restored_vdc h.masked b₀ s
      vdcAddr := by
        rw [load_vdc]
        exact BitVec.and_allOnes
      ramConf := hram
      romConf := hrom
      ram := restored_ram h₀.memorySize s
      palRd := hrd
      palWr := hwr }

end Xcpc.Cpc.Board

namespace Xcpc.Cpc.Machine

open Prog

/-- From every state of the machine that a reset leads to, in a RAM
configuration up to 7, a snapshot restores video and memory. The machine that
loads it has the same configuration, and may be in any state. -/
theorem snapshot_restores {φ : Type} (F : Fdc φ) (m₀ m' : Machine φ)
    (es : List Event) (s : Sna.State) :
    let m := run (step F) (m₀.reset F) es
    Board.SameConfig m.board m'.board → m.board.ramConf.toNat ≤ 7 →
      Board.Restored m.board (m'.loadCpc F (m.saveCpc s)).board := by
  intro m h' hc
  have h : m.board.Regular := run_invariant Board.regular_invariant m₀ es
  exact Board.restored h hc h' _

/-- A machine of 128K in the middle of something else. -/
def busy : Machine Unit :=
  (Machine.blank .k128).withBoard
    { Board.blank .k128 with
      ramConf := 4
      romConf := 7
      ram := fun _ _ => 0x55
      vdc := { Vdc.reset with data := fun _ => 3 } }

/-- The snapshot of a machine after a tick of the display controller and one of
the processor, loaded into that machine. -/
theorem snapshot_restores_run :
    let m : Machine Unit := run (step .absent)
      ((Machine.blank .k128).reset .absent) [.clockVdc, .clockCpu]
    Board.Restored m.board (busy.loadCpc .absent (m.saveCpc Sna.fresh)).board :=
  snapshot_restores .absent (.blank .k128) busy [.clockVdc, .clockCpu] Sna.fresh
    ⟨rfl, rfl, rfl, rfl, rfl, rfl, rfl, rfl, rfl, rfl⟩ (by decide +kernel)

end Xcpc.Cpc.Machine
