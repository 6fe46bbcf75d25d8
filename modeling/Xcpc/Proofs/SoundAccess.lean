import Mathlib
import Xcpc.Proofs.SoundRestore

/-!
# Programs and the sound generator

A program reaches the sound generator in two hops. It puts a byte on port A of
the parallel interface, and strobes two lines of port C, `BDIR` and `BC1`, that
tell the generator what the byte is: an index, a value, or nothing yet. The
mainboard looks at the lines after every write of either port, so a write in
the wrong order would reach a register that nobody meant.

The third line, `BC2`, is tied high and no code moves it. That is an invariant
of the machine, and so is the agreement of the generator's directions with its
register 7.
-/

namespace Xcpc.Psg

theorem restore_decoded {s : State} (h : s.Decoded) (p : Ports)
    (v : Fin 16 → Byte) (index : Byte) : (restore s p v index).Decoded := by
  unfold restore
  refine step_decoded _ (.setIndex index) ?_
  generalize List.finRange 16 = is
  induction is generalizing s with
  | nil => exact h
  | cons i is ih =>
      exact ih (step_decoded _ (.setValue p (v i))
        (step_decoded s (.setIndex (BitVec.ofNat 8 i.val)) h))

end Xcpc.Psg

namespace Xcpc.Cpc.Board

open Prog

/-! ## What holds all the time -/

/-- `BC2` is high, and the generator is what its registers say. -/
structure Wired (b : Board) : Prop where
  decoded : b.psg.Decoded
  bc2 : b.psgBc2 = 1

theorem Wired.frame {b b' : Board} (h : b.Wired) (hp : b'.psg = b.psg)
    (h2 : b'.psgBc2 = b.psgBc2) : b'.Wired :=
  ⟨by rw [hp]; exact h.decoded, h2.trans h.bc2⟩

theorem Wired.calls {b b' : Board} (h : b.Wired) (hc : Calls b b')
    (ho : b'.offPpi = b.offPpi) : b'.Wired := by
  obtain ⟨es, hes⟩ := hc
  have h2 : b'.offPpi.psgBc2 = b.offPpi.psgBc2 := by rw [ho]
  refine ⟨?_, Eq.trans h2 h.bc2⟩
  rw [hes]
  exact run_keeps Psg.step_decoded h.decoded es

theorem Wired.updatePal {b : Board} (h : b.Wired) : b.updatePal.Wired := by
  obtain ⟨rd, wr, he⟩ := updatePal_eq b
  rw [he]
  exact h.frame rfl rfl

theorem Wired.ppiStep {b : Board} (h : b.Wired) (e : PpiEvent) :
    (b.ppiStep e).Wired :=
  h.calls (ppiStep_calls b e) (offPpi_ppiStep b e)

theorem Wired.iorqRdPpi {b : Board} (h : b.Wired) (port : Word) (v : Byte) :
    (b.iorqRdPpi port v).2.Wired := by
  unfold Board.iorqRdPpi
  split
  · split
    · exact h.ppiStep (.rd .a v)
    · exact h.ppiStep (.rd .b v)
    · exact h.ppiStep (.rd .c v)
    · exact h
  · exact h

theorem Wired.iorqWrPpi {b : Board} (h : b.Wired) (port : Word) (v : Byte) :
    (b.iorqWrPpi port v).Wired := by
  unfold Board.iorqWrPpi
  split
  · split
    · exact h.ppiStep (.wr .a v)
    · exact h.ppiStep (.wr .b v)
    · exact h.ppiStep (.wr .c v)
    · exact h.ppiStep (.ctrl v)
  · exact h

theorem Wired.iorqRd {b : Board} (h : b.Wired) (port : Word) :
    (b.iorqRd port).2.Wired := by
  refine Wired.iorqRdPpi ?_ port _
  unfold iorqRdVdc
  split
  · split
    · exact h
    · exact h
    · exact h
    · exact h.frame rfl rfl
  · exact h

theorem Wired.iorqWrVga {b : Board} (h : b.Wired) (port : Word) (v : Byte) :
    (b.iorqWrVga port v).Wired := by
  unfold Board.iorqWrVga vgaSetValue
  split
  · cases Vga.setValue b.vga v with
    | none => exact h
    | some r =>
        have hr : ({ b with vga := r.1 } : Board).Wired := h.frame rfl rfl
        simp only [Option.map_some, Option.getD_some]
        split
        · exact hr
        · exact hr.updatePal
        · exact Wired.updatePal (hr.frame rfl rfl)
  · exact h

theorem Wired.iorqWr {b : Board} (h : b.Wired) (port : Word) (v : Byte) :
    (b.iorqWr port v).Wired := by
  have hvga := h.iorqWrVga port v
  unfold Board.iorqWr
  generalize b.iorqWrVga port v = c at hvga ⊢
  have hvdc : (c.iorqWrVdc port v).Wired := by
    unfold iorqWrVdc
    split
    · split
      · exact hvga.frame rfl rfl
      · exact hvga.frame rfl rfl
      · exact hvga
    · exact hvga
  generalize c.iorqWrVdc port v = d at hvdc ⊢
  refine Wired.iorqWrPpi ?_ port v
  unfold iorqWrRom
  split
  · exact Wired.updatePal (hvdc.frame rfl rfl)
  · exact hvdc

theorem Wired.reset {b : Board} (h : b.psgBc2 = 1) : b.reset.Wired := by
  refine ⟨?_, (reset_ppi b).2.2.1.trans h⟩
  rw [reset_psg]
  exact Psg.reset_decoded

theorem Wired.load {b : Board} (h : b.Wired) (s : Sna.State) :
    (b.load s).Wired := by
  obtain ⟨-, -, -, hpsg, -, h2, -⟩ := load_ppi b s
  have hc : (((b.loadVga s.header).loadVdc s.header).loadPpi
      s.header).Wired := by
    have h0 : ((b.loadVga s.header).loadVdc s.header).Wired := h.frame rfl rfl
    exact (((h0.ppiStep (.wr .a s.header.ppiPortA)).ppiStep
      (.wr .b s.header.ppiPortB)).ppiStep (.wr .c s.header.ppiPortC)).ppiStep
        (.ctrl s.header.ppiCtrlP)
  refine ⟨?_, h2.trans hc.bc2⟩
  rw [hpsg]
  exact Psg.restore_decoded hc.decoded _ _ _

theorem wired_stable : Stable Wired where
  mreqWr b a v h := by
    unfold mreqWr store
    split
    · exact h.frame rfl rfl
    · exact h.frame rfl rfl
    · exact h.frame rfl rfl
  iorqM1 _ h := h.frame rfl rfl
  iorqRd _ p h := h.iorqRd p
  iorqWr _ p v h := h.iorqWr p v
  hsync b x r hr h := by
    unfold assertHsync at hr
    obtain ⟨r', -, rfl⟩ := Option.map_eq_some_iff.mp hr
    exact h.frame rfl rfl
  vsync _ _ h := h.frame rfl rfl
  vdc _ h := h.frame rfl rfl
  psg b h := ⟨Psg.clock_decoded h.decoded, h.bc2⟩
  keys _ _ h := h.frame rfl rfl
  reset _ h := Wired.reset h.bc2
  load _ s h := (Wired.reset h.bc2).load s

/-! ## The ports of the interface -/

/-- The lines of a port address that are looked at, and any others. -/
theorem selects_of_zero {hi m : Byte} (h : hi &&& m = 0) (lo : Byte) :
    selects (hi ++ lo) (m ++ (0 : Byte)) = true := by
  have h0 : lo &&& (0 : Byte) = 0 := BitVec.and_zero
  rw [selects, BitVec.and_append, h, h0]
  rfl

theorem selects_of_ne {hi m : Byte} (h : hi &&& m ≠ 0) (lo m' : Byte) :
    selects (hi ++ lo) (m ++ m') = false := by
  rw [selects, BitVec.and_append, beq_eq_false_iff_ne]
  intro he
  have hn := congrArg BitVec.toNat he
  rw [Psg.toNat_halves] at hn
  have h0 : (0 : Word).toNat = 0 := rfl
  rw [h0] at hn
  exact h (BitVec.eq_of_toNat_eq (show (hi &&& m).toNat = 0 by omega))

theorem function_high (hi lo : Byte) :
    function (hi ++ lo) = hi.extractLsb' 0 2 := by
  refine BitVec.eq_of_getLsbD_eq fun i hi' => ?_
  rw [function, BitVec.getLsbD_extractLsb', BitVec.getLsbD_append,
    BitVec.getLsbD_extractLsb']
  have h8 : ¬ 8 + i < 8 := by omega
  simp [hi', h8]

/-- The high byte of a port address that reaches the parallel interface and
nothing else. -/
structure PpiPort (hi : Byte) : Prop where
  vga : hi &&& 0x80 ≠ 0
  vdc : hi &&& 0x40 ≠ 0
  rom : hi &&& 0x20 ≠ 0
  ppi : hi &&& 0x08 = 0
  fdc : hi &&& 0x04 ≠ 0

theorem ppiPort_f4 : PpiPort 0xf4 :=
  ⟨by decide, by decide, by decide, by decide, by decide⟩

theorem ppiPort_f6 : PpiPort 0xf6 :=
  ⟨by decide, by decide, by decide, by decide, by decide⟩

theorem ppiPort_f7 : PpiPort 0xf7 :=
  ⟨by decide, by decide, by decide, by decide, by decide⟩

theorem PpiPort.iorqWr {hi : Byte} (h : PpiPort hi) (b : Board) (lo v : Byte) :
    b.iorqWr (hi ++ lo) v = b.iorqWrPpi (hi ++ lo) v := by
  have hvga : selects (hi ++ lo) 0x8000 = false := selects_of_ne h.vga lo 0
  have hvdc : selects (hi ++ lo) 0x4000 = false := selects_of_ne h.vdc lo 0
  have hrom : selects (hi ++ lo) 0x2000 = false := selects_of_ne h.rom lo 0
  rw [Board.iorqWr, iorqWrVga, hvga, iorqWrVdc, hvdc, iorqWrRom, hrom]
  rfl

theorem PpiPort.iorqRd {hi : Byte} (h : PpiPort hi) (b : Board) (lo : Byte) :
    b.iorqRd (hi ++ lo) = b.iorqRdPpi (hi ++ lo) 0x00 := by
  have hvga : selects (hi ++ lo) 0x8000 = false := selects_of_ne h.vga lo 0
  have hvdc : selects (hi ++ lo) 0x4000 = false := selects_of_ne h.vdc lo 0
  rw [Board.iorqRd, hvga, iorqRdVdc, hvdc]
  rfl

theorem iorqWr_f4 (b : Board) (lo v : Byte) :
    b.iorqWr ((0xf4 : Byte) ++ lo) v = b.wrPortA v := by
  have hs : selects ((0xf4 : Byte) ++ lo) 0x0800 = true :=
    selects_of_zero ppiPort_f4.ppi lo
  rw [ppiPort_f4.iorqWr, iorqWrPpi, hs, function_high]
  rfl

theorem iorqWr_f6 (b : Board) (lo v : Byte) :
    b.iorqWr ((0xf6 : Byte) ++ lo) v = b.wrPortC v := by
  have hs : selects ((0xf6 : Byte) ++ lo) 0x0800 = true :=
    selects_of_zero ppiPort_f6.ppi lo
  rw [ppiPort_f6.iorqWr, iorqWrPpi, hs, function_high]
  rfl

theorem iorqWr_f7 (b : Board) (lo v : Byte) :
    b.iorqWr ((0xf7 : Byte) ++ lo) v = b.wrCtrlP v := by
  have hs : selects ((0xf7 : Byte) ++ lo) 0x0800 = true :=
    selects_of_zero ppiPort_f7.ppi lo
  rw [ppiPort_f7.iorqWr, iorqWrPpi, hs, function_high]
  rfl

theorem iorqRd_f4 (b : Board) (lo : Byte) :
    b.iorqRd ((0xf4 : Byte) ++ lo) = b.rdPortA 0x00 := by
  have hs : selects ((0xf4 : Byte) ++ lo) 0x0800 = true :=
    selects_of_zero ppiPort_f4.ppi lo
  rw [ppiPort_f4.iorqRd, iorqRdPpi, hs, function_high]
  rfl

/-! ## Strobes -/

/-- Ports A and C are outputs, and the bus of the generator is inactive. -/
structure Ready (b : Board) : Prop where
  dirA : b.ppi.dirA = 0
  dirC : b.ppi.dirC = 0
  bdir : b.psgBdir = 0
  bc1 : b.psgBc1 = 0
  bc2 : b.psgBc2 = 1

/-- The lines of port C, before the generator looks at them. -/
def strobe (b : Board) (data : Byte) : Board :=
  { b with
    psgBdir := (data &&& 0x80) >>> 7
    psgBc1 := (data &&& 0x40) >>> 6
    casWrData := (data &&& 0x20) >>> 5
    casMotor := (data &&& 0x10) >>> 4
    kbd := Kbd.setLine b.kbd (data &&& 0x0f) }

theorem Ready.psgFunction {b : Board} (h : b.Ready) : b.psgFunction = 0x02 := by
  rw [Board.psgFunction, h.bdir, h.bc1, h.bc2]
  rfl

theorem psgUpdate_inactive {b : Board} (h : b.psgFunction = 0x02)
    (data : Byte) : b.psgUpdate data = b := by
  rw [psgUpdate, h]
  rfl

/-- On an inactive bus, port A only latches. -/
theorem Ready.wrPortA {b : Board} (h : b.Ready) (v : Byte) :
    b.wrPortA v =
      { b with psgData := v, ppi := { b.ppi with portA := v } } := by
  have hw : b.ppiPortAWr v = { b with psgData := v } :=
    psgUpdate_inactive (b := { b with psgData := v }) h.psgFunction v
  refine (write_out (p := .a) h.dirA v).trans ?_
  show { b.ppiPortAWr v with ppi := { b.ppi with portA := v } } = _
  rw [hw]

theorem wrPortC_out {b : Board} (h : b.ppi.dirC = 0) (v : Byte) :
    b.wrPortC v =
      { (b.strobe v).psgUpdate b.psgData with
        ppi := { b.ppi with portC := v } } :=
  write_out (p := .c) h v

/-- What the generator does with a byte on its bus. -/
def received (function : Byte) (s : Psg.State) (p : Psg.Ports) (data : Byte) :
    Psg.State :=
  if function == 0x06 then Psg.setValue s p data
  else if function == 0x07 then Psg.setIndex s data
  else s

theorem psgUpdate_eq (b : Board) (data : Byte) :
    b.psgUpdate data =
      { b with psg := received b.psgFunction b.psg b.psgPorts data } := by
  unfold psgUpdate received
  split
  · rfl
  · split
    · rfl
    · rfl

/-- A byte on port A, levels for the lines of port C, and all lines low. -/
def pulse (b : Board) (data lines : Byte) : Board :=
  ((b.wrPortA data).wrPortC lines).wrPortC 0x00

theorem Ready.pulse {b : Board} (h : b.Ready) (data lines : Byte) :
    b.pulse data lines =
      { b with
        psgData := data
        psgBdir := 0
        psgBc1 := 0
        casWrData := 0
        casMotor := 0
        kbd := Kbd.setLine b.kbd 0
        ppi := { b.ppi with portA := data, portC := 0x00 }
        psg := received (b.strobe lines).psgFunction b.psg
          (b.strobe lines).psgPorts data } := by
  have hC := wrPortC_out (b := b.wrPortA data) (v := lines) (by
    rw [h.wrPortA]
    exact h.dirC)
  rw [h.wrPortA, psgUpdate_eq] at hC
  rw [Board.pulse, h.wrPortA, hC, wrPortC_out]
  · rw [psgUpdate_inactive]
    · rfl
    · show ((0x00 <<< 2) ||| (b.psgBc2 <<< 1) ||| 0x00) &&& 0x07 =
        (0x02 : Byte)
      rw [h.bc2]
      rfl
  · exact h.dirC

theorem Ready.pulse_ready {b : Board} (h : b.Ready) (data lines : Byte) :
    (b.pulse data lines).Ready := by
  rw [h.pulse]
  exact ⟨h.dirA, h.dirC, rfl, rfl, h.bc2⟩

theorem Ready.pulse_keys {b : Board} (h : b.Ready) (data lines : Byte) :
    (b.pulse data lines).kbd.keys = b.kbd.keys := by
  rw [h.pulse]
  rfl

/-- Both lines up latch the index. -/
theorem Ready.pulse_index {b : Board} (h : b.Ready) (data : Byte) :
    (b.pulse data 0xc0).psg = Psg.setIndex b.psg data := by
  have hf : (b.strobe 0xc0).psgFunction = 0x07 := by
    show ((0x01 <<< 2) ||| (b.psgBc2 <<< 1) ||| 0x01) &&& 0x07 = (0x07 : Byte)
    rw [h.bc2]
    rfl
  rw [h.pulse, hf]
  rfl

/-- `BDIR` alone writes the register that the index names. -/
theorem Ready.pulse_value {b : Board} (h : b.Ready) (data : Byte) :
    (b.pulse data 0x80).psg =
      Psg.setValue b.psg (b.strobe 0x80).psgPorts data := by
  have hf : (b.strobe 0x80).psgFunction = 0x06 := by
    show ((0x01 <<< 2) ||| (b.psgBc2 <<< 1) ||| 0x00) &&& 0x07 = (0x06 : Byte)
    rw [h.bc2]
    rfl
  rw [h.pulse, hf]
  rfl

/-- An index and a value, pulsed one after the other, write one register. -/
theorem Ready.register_written {b : Board} (h : b.Ready) {r : Fin 16}
    (hr : r.val < 14) (v : Byte) :
    ((b.pulse (BitVec.ofNat 8 r.val) 0xc0).pulse v 0x80).psg.array =
      Function.update b.psg.array r (v &&& Psg.mask r) := by
  have hi : (Psg.setIndex b.psg (BitVec.ofNat 8 r.val)).index.toNat =
      r.val := by
    show (BitVec.ofNat 8 r.val).toNat = r.val
    rw [BitVec.toNat_ofNat]
    omega
  rw [(h.pulse_ready _ _).pulse_value, h.pulse_index,
    Psg.setValue_of_index hi, Psg.put_array, Psg.stored_of_lt _ hr]
  rfl

/-! ## The keyboard -/

theorem turnA_board {b : Board} (h : b.psgFunction = 0x02) (s : Ppi.State)
    {dir : Byte} (hd : dir ≠ 0) :
    (Ppi.turn ppiInterface .a s b dir).2 = b := by
  have hr (v : Byte) : (b.ppiPortARd v).2 = b := by
    rw [ppiPortARd, h]
    rfl
  rw [Ppi.turn_eq]
  split
  · rw [if_pos (bne_iff_ne.2 hd)]
    exact hr s.portA
  · rfl

/-- The control word `0x92` turns port A round, and the generator hears
nothing of it on an inactive bus. -/
theorem Ready.wrCtrlP {b : Board} (h : b.Ready) :
    let c := b.wrCtrlP 0x92
    c.ppi.dirA = 1 ∧ c.ppi.dirC = 0 ∧ c.psg = b.psg ∧
      c.kbd.keys = b.kbd.keys ∧ c.psgBc2 = 1 := by
  obtain ⟨-, hdir, -⟩ := wrCtrlP_mode_ppi b (v := 0x92) (by decide)
  refine ⟨hdir .a, hdir .c, ?_⟩
  obtain ⟨t, ht⟩ := wrCtrlP_sameC (b := b) (v := 0x92) (by decide) h.dirC
  rw [turnA_board h.psgFunction _ (by decide)] at ht
  rw [ht]
  exact ⟨rfl, rfl, h.bc2⟩

/-- `BC1` alone, with port A an input, reads the register that the index
names. -/
theorem register_read {b : Board} (hA : b.ppi.dirA = 1) (hC : b.ppi.dirC = 0)
    (h2 : b.psgBc2 = 1) {lines : Byte} (hbdir : (lines &&& 0x80) >>> 7 = 0)
    (hbc1 : (lines &&& 0x40) >>> 6 = 1) (v : Byte) :
    ((b.wrPortC lines).rdPortA v).1 =
      Psg.answer b.psg (b.strobe lines).psgPorts v := by
  have hf : (b.strobe lines).psgFunction = 0x03 := by
    show ((((lines &&& 0x80) >>> 7) <<< 2) ||| (b.psgBc2 <<< 1) |||
      ((lines &&& 0x40) >>> 6)) &&& 0x07 = (0x03 : Byte)
    rw [hbdir, hbc1, h2]
    rfl
  have hw : b.wrPortC lines =
      { b.strobe lines with ppi := { b.ppi with portC := lines } } := by
    rw [wrPortC_out hC, psgUpdate_eq, hf]
    rfl
  have hd : ((b.wrPortC lines).ppi.dirA != 0) = true := by
    rw [hw]
    show (b.ppi.dirA != 0) = true
    rw [hA]
    rfl
  have hr : ((b.wrPortC lines).ppiPortARd v).1 =
      Psg.answer b.psg (b.strobe lines).psgPorts v := by
    rw [ppiPortARd_fst, hw]
    exact if_pos (beq_iff_eq.2 hf)
  show ((b.wrPortC lines).read .a v).1 = _
  rw [read_in (p := .a) (bne_iff_ne.1 hd)]
  exact hr

/-- What port C carries to read a keyboard row. -/
def rowLines (k : Fin 16) : Byte := 0x40 + BitVec.ofNat 8 k.val

theorem rowLines_eq (k : Fin 16) :
    (rowLines k &&& 0x80) >>> 7 = 0 ∧ (rowLines k &&& 0x40) >>> 6 = 1 ∧
      rowLines k &&& 0x0f = BitVec.ofNat 8 k.val := by
  revert k
  decide

theorem getData_line (s : Kbd.State) (k : Fin 16) :
    Kbd.getData { s with line := BitVec.ofNat 8 k.val } = s.keys k := by
  have hk : (BitVec.ofNat 8 k.val).toNat = k.val := by
    rw [BitVec.toNat_ofNat]
    omega
  have hlt : (BitVec.ofNat 8 k.val).toNat < 16 := by
    rw [hk]
    exact k.isLt
  rw [Kbd.getData, dif_pos hlt]
  exact congrArg s.keys (Fin.ext hk)

/-- Register 14 as an input reads the row that port C selects. -/
theorem Ready.row_read {b : Board} (h : b.Ready) (hd : b.psg.Directed)
    (h7 : b.psg.array 7 &&& 0x40 = 0) (k : Fin 16) (v : Byte) :
    ((((b.pulse 0x0e 0xc0).wrCtrlP 0x92).wrPortC (rowLines k)).rdPortA v).1 =
      b.kbd.keys k := by
  obtain ⟨hA, hC, hpsg, hkeys, h2⟩ := (h.pulse_ready 0x0e 0xc0).wrCtrlP
  rw [h.pulse_index] at hpsg
  rw [h.pulse_keys] at hkeys
  obtain ⟨hbdir, hbc1, hline⟩ := rowLines_eq k
  generalize (b.pulse 0x0e 0xc0).wrCtrlP 0x92 = c at hA hC hpsg hkeys h2 ⊢
  rw [register_read hA hC h2 hbdir hbc1]
  have h0 : b.psg.dirPort 0 = false := by
    rw [hd 0]
    show (b.psg.array 7 &&& 0x40 != 0) = false
    rw [h7]
    rfl
  rw [hpsg, Psg.answer_of_index (i := 14) rfl]
  show (if b.psg.dirPort 0 then _ else _) = _
  rw [h0]
  show Kbd.getData { c.kbd with line := rowLines k &&& 0x0f } = _
  rw [hline, getData_line, hkeys]

end Xcpc.Cpc.Board

namespace Xcpc.Cpc

open Prog Board

variable {φ : Type} (F : Fdc φ)

/-- A program writes bytes to ports, one after the other. -/
def Bus.outs (s : Bus φ) (ws : List (Word × Byte)) : Bus φ :=
  run (fun s w => s.iorqWr F w.1 w.2) s ws

/-- The accesses that write a register. The low byte of a port does not
matter. -/
def writeRegister (lo : Nat → Byte) (r v : Byte) : List (Word × Byte) :=
  [((0xf4 : Byte) ++ lo 0, r), ((0xf6 : Byte) ++ lo 1, 0xc0),
    ((0xf6 : Byte) ++ lo 2, 0x00), ((0xf4 : Byte) ++ lo 3, v),
    ((0xf6 : Byte) ++ lo 4, 0x80), ((0xf6 : Byte) ++ lo 5, 0x00)]

/-- The accesses that bring a keyboard row to port A. -/
def selectRow (lo : Nat → Byte) (k : Fin 16) : List (Word × Byte) :=
  [((0xf4 : Byte) ++ lo 0, 0x0e), ((0xf6 : Byte) ++ lo 1, 0xc0),
    ((0xf6 : Byte) ++ lo 2, 0x00), ((0xf7 : Byte) ++ lo 3, 0x92),
    ((0xf6 : Byte) ++ lo 4, 0x40 + BitVec.ofNat 8 k.val)]

theorem outs_writeRegister (s : Bus φ) (lo : Nat → Byte) (r v : Byte) :
    (s.outs F (writeRegister lo r v)).board =
      (s.board.pulse r 0xc0).pulse v 0x80 := by
  simp only [Bus.outs, writeRegister, run_cons, run_nil, Machine.iorqWr_board,
    iorqWr_f4, iorqWr_f6]
  rfl

theorem outs_selectRow (s : Bus φ) (lo : Nat → Byte) (k : Fin 16) :
    (s.outs F (selectRow lo k)).board =
      ((s.board.pulse 0x0e 0xc0).wrCtrlP 0x92).wrPortC (rowLines k) := by
  simp only [Bus.outs, selectRow, run_cons, run_nil, Machine.iorqWr_board,
    iorqWr_f4, iorqWr_f6, iorqWr_f7]
  rfl

/-- The disk controller is not on the ports of the parallel interface. -/
theorem iorqRd_f4 (s : Bus φ) (lo : Byte) :
    (s.iorqRd F ((0xf4 : Byte) ++ lo)).1 = (s.board.rdPortA 0x00).1 := by
  have hs : selects ((0xf4 : Byte) ++ lo) 0x0480 = false :=
    selects_of_ne ppiPort_f4.fdc lo 0x80
  rw [Bus.iorqRd, Board.iorqRd_f4, hs]
  rfl

namespace Machine

/-- In every state that a machine reaches, with ports A and C as outputs and
the bus of the generator inactive, the accesses that write a register write
that register alone, and those that read a keyboard row answer that row. -/
theorem sound_access (m₀ : Machine φ) (size : MemorySize)
    (colormap : Vga.Colormap) (rom : Fin 2 → Sna.Bank)
    (exp : Byte → Option Sna.Bank)
    (hm₀ : m₀.board = .construct size colormap rom exp) (es : List Event) :
    let m := run (step F) (m₀.reset F) es
    m.board.ppi.dirA = 0 → m.board.ppi.dirC = 0 →
      m.board.psgBdir = 0 → m.board.psgBc1 = 0 → ∀ lo : Nat → Byte,
      (∀ r : Fin 16, r.val < 14 → ∀ v,
        (m.bus.outs F
            (writeRegister lo (BitVec.ofNat 8 r.val) v)).board.psg.array =
          Function.update m.board.psg.array r (v &&& Psg.mask r)) ∧
      (m.board.psg.array 7 &&& 0x40 = 0 → ∀ k : Fin 16, ∀ l : Byte,
        ((m.bus.outs F (selectRow lo k)).iorqRd F ((0xf4 : Byte) ++ l)).1 =
          m.board.kbd.keys k) := by
  intro m hA hC hbdir hbc1 lo
  have hw₀ : m₀.board.Wired := by
    rw [hm₀]
    exact ⟨Psg.reset_decoded, rfl⟩
  have hw : m.board.Wired := run_stable wired_stable m₀ hw₀ es
  have hr : m.board.Ready := ⟨hA, hC, hbdir, hbc1, hw.bc2⟩
  refine ⟨fun r hr' v => ?_, fun h7 k l => ?_⟩
  · rw [outs_writeRegister]
    exact hr.register_written hr' v
  · rw [Xcpc.Cpc.iorqRd_f4, outs_selectRow]
    exact hr.row_read hw.decoded.directed h7 k 0x00

/-- A machine that is switched on takes `0x1f` of the `0xff` written to
register 8, and reads no key in row 5. -/
theorem sound_access_on :
    (((reset .absent (blank .k64)).bus.outs .absent
        (writeRegister (fun _ => 0) 8 0xff)).board.psg.array 8 = 0x1f) ∧
      (((reset .absent (blank .k64)).bus.outs .absent
        (selectRow (fun _ => 0) 5)).iorqRd .absent
          ((0xf4 : Byte) ++ (0 : Byte))).1 = 0xff := by
  obtain ⟨hw, hr⟩ := sound_access .absent (blank .k64) .k64
    ⟨fun _ => 0, fun _ => 0⟩ (fun _ _ => 0) (fun _ => none) rfl []
    (by decide +kernel) (by decide +kernel) (by decide +kernel)
    (by decide +kernel) fun _ => 0
  rw [run_nil] at hw hr
  constructor
  · have h8 : BitVec.ofNat 8 (8 : Fin 16).val = 8 := rfl
    have h := congrFun (hw 8 (by decide) 0xff) 8
    rw [h8, Function.update_self] at h
    exact h
  · exact (hr (by decide +kernel) 5 0).trans (by decide +kernel)

end Machine

end Xcpc.Cpc
