import Mathlib
import Xcpc.Proofs.PpiTwins

/-!
# The snapshot and the parallel interface

A snapshot holds four bytes of the parallel interface: the latches of its
ports, and the last byte written to the control port. That byte is a mode word
or a bit set/reset word, and only a mode word holds the directions. After a
set/reset word the directions are lost, and what `load_ppi` writes to the
control port changes one bit of port C instead.

Four more things are lost. The latch of port C follows writes that its lines
do not, once it is an input. The latch of an input holds what the mainboard
answers while it loads. The data latch in front of the sound generator is not
saved, and gets the latch of port A. And the two ports of the generator answer
for themselves, when their registers are written.
-/

namespace Xcpc.Psg

/-- What is written to registers is masked. -/
theorem restore_masked (s : State) (p : Ports) (v : Fin 16 → Byte)
    (index : Byte) (i : Fin 16) :
    (restore s p v index).array i &&& mask i = (restore s p v index).array i := by
  by_cases hi : i.val < 14
  · rw [restore_array s p v index hi, and_mask]
  · have hm : mask i = 0xff := by
      revert i
      decide
    rw [hm, and_ff]

end Xcpc.Psg

namespace Xcpc.Cpc.Board

open Prog Machine
open Ppi (Port)

/-! ## Loading -/

/-- The interface in front of the control byte. -/
def latched (h : Sna.Header) : Ppi.State :=
  { Ppi.reset with
    portA := h.ppiPortA
    portB := h.ppiPortB
    portC := h.ppiPortC }

theorem offPpi_ppiPortBRd (b : Board) : b.offPpi.ppiPortBRd = b.ppiPortBRd :=
  rfl

theorem offPpi_psgBc2 (b : Board) : b.offPpi.psgBc2 = b.psgBc2 := rfl

/-- What a load latches at a port that becomes an input. -/
def returned (b : Board) : Port → Byte
  | .a => if b.psgFunction = 0x03 then 0x00 else 0xff
  | .b => b.ppiPortBRd
  | .c => 0xff

/-- A mainboard after a reset, as `load_ppi` finds it. -/
structure Fresh (b : Board) : Prop where
  ready : b.Ready
  ppi : b.ppi = Ppi.reset
  psg : b.psg = Psg.reset

theorem fresh_reset {b : Board} (h : b.psgBc2 = 1) : b.reset.Fresh := by
  obtain ⟨rd, wr, hr⟩ := updatePal_eq b.cleared
  rw [reset_eq, hr]
  exact ⟨⟨rfl, rfl, rfl, rfl, h⟩, rfl, rfl⟩

variable {b : Board} {h : Sna.Header}

theorem Fresh.latched (hb : b.Fresh) (h : Sna.Header) :
    ((b.wrPortA h.ppiPortA).wrPortB h.ppiPortB).wrPortC h.ppiPortC =
      { b.strobe h.ppiPortC with
        psgData := h.ppiPortA
        psg := received (b.strobe h.ppiPortC).psgFunction b.psg
          (b.strobe h.ppiPortC).psgPorts h.ppiPortA
        ppi := latched h } := by
  obtain ⟨hr, hp, -⟩ := hb
  have hB : (b.wrPortA h.ppiPortA).wrPortB h.ppiPortB =
      { b.wrPortA h.ppiPortA with
        ppi := { b.ppi with portA := h.ppiPortA, portB := h.ppiPortB } } := by
    refine (write_out (p := .b) ?_ h.ppiPortB).trans ?_
    · rw [hr.wrPortA, hp]
      rfl
    · rw [hr.wrPortA]
      rfl
  rw [hB, hr.wrPortA, wrPortC_out, psgUpdate_eq]
  · rw [Board.latched, ← hp]
    rfl
  · exact hr.dirC

/-- A mode word leaves the lines alone, if port C was an output before. -/
theorem lines_wrCtrlP (hC : b.ppi.dir .c = 0) {v : Byte}
    (hv : v &&& 0x80 ≠ 0) : (b.wrCtrlP v).lines = b.lines := by
  have hturn (s : Ppi.State) (c : Board) (hs : s.dir .c = 0) (dir : Byte) :
      (Ppi.turn ppiInterface .c s c dir).2.lines = c.lines := by
    by_cases hd : dir = 0
    · rw [hd, Ppi.turn_same hs]
    · rw [Ppi.turn_in hs hd]
      rfl
  have hc := b.ppi.control_keeps v ((v >>> 5) &&& 0x03) ((v >>> 2) &&& 0x01)
  rw [wrCtrlP_mode b hv, Ppi.setMode_eq]
  refine (hturn _ _ ?_ _).trans ((Ppi.turn_keeps offC_keeps .b _ _ _).trans
    (Ppi.turn_keeps offC_keeps .a _ _ _))
  rw [(Ppi.turn_ne (by decide) _ _ _).1, (Ppi.turn_ne (by decide) _ _ _).1]
  exact (hc .c).1.trans hC

/-- The data latch keeps its byte, if port A was an output before. -/
theorem psgData_wrCtrlP (hA : b.ppi.dir .a = 0) (v : Byte) :
    (b.wrCtrlP v).psgData = b.psgData := by
  by_cases hv : v &&& 0x80 = 0
  · rw [wrCtrlP_bit b hv]
    simp only [Ppi.setBit]
    split
    · exact psgData_psgUpdate _ b.psgData
    · rfl
  · have hturn (s : Ppi.State) (hs : s.dir .a = 0) (dir : Byte) :
        (Ppi.turn ppiInterface .a s b dir).2.psgData = b.psgData := by
      by_cases hd : dir = 0
      · rw [hd, Ppi.turn_same hs]
      · rw [Ppi.turn_in hs hd]
        exact offA_keeps.rd .a b _
    have hc := b.ppi.control_keeps v ((v >>> 5) &&& 0x03) ((v >>> 2) &&& 0x01)
    rw [wrCtrlP_mode b hv, Ppi.setMode_eq]
    exact (Ppi.turn_keeps offA_keeps .c _ _ _).trans
      ((Ppi.turn_keeps offA_keeps .b _ _ _).trans
        (hturn _ ((hc .a).1.trans hA) _))

theorem returned_congr {b b' : Board} (hl : b'.lines = b.lines)
    (h2 : b'.psgBc2 = b.psgBc2) (hB : b'.ppiPortBRd = b.ppiPortBRd) :
    b'.returned = b.returned := by
  have hbdir : b'.psgBdir = b.psgBdir := congrArg Lines.psgBdir hl
  have hbc1 : b'.psgBc1 = b.psgBc1 := congrArg Lines.psgBc1 hl
  have hf : b'.psgFunction = b.psgFunction := by
    rw [psgFunction, psgFunction, hbdir, hbc1, h2]
  funext p
  cases p with
  | a => rw [returned, returned, hf]
  | b => exact hB
  | c => rfl

/-- What `load_ppi` restores when the control byte is a mode word. -/
theorem Fresh.loadPpi_mode (hb : b.Fresh) (hv : h.ppiCtrlP &&& 0x80 ≠ 0) :
    let c := b.loadPpi h
    c.lines = .of h.ppiPortC ∧
      ∀ p, c.ppi.dir p = Ppi.modeDir h.ppiCtrlP p ∧
        c.ppi.latch p =
          if Ppi.modeDir h.ppiCtrlP p = 0 then (Board.latched h).latch p
          else c.returned p := by
  have hl := hb.latched h
  rw [hb.psg] at hl
  unfold loadPpi
  generalize ((b.wrPortA h.ppiPortA).wrPortB h.ppiPortB).wrPortC h.ppiPortC = c
    at hl ⊢
  have hppi : c.ppi = Board.latched h := by rw [hl]
  have hout (p : Port) : c.ppi.dir p = 0 := by
    rw [hppi]
    cases p <;> rfl
  have hlines := lines_wrCtrlP (hout .c) hv
  have hB : (c.wrCtrlP h.ppiCtrlP).ppiPortBRd = c.ppiPortBRd := by
    rw [← offPpi_ppiPortBRd, offPpi_wrCtrlP, offPpi_ppiPortBRd]
  have h2 : (c.wrCtrlP h.ppiCtrlP).psgBc2 = c.psgBc2 := by
    rw [← offPpi_psgBc2, offPpi_wrCtrlP, offPpi_psgBc2]
  obtain ⟨-, hdir, -⟩ := wrCtrlP_mode_ppi c hv
  dsimp only
  rw [hlines, returned_congr hlines h2 hB]
  refine ⟨?_, fun p => ⟨hdir p, ?_⟩⟩
  · rw [hl]
    rfl
  · obtain ⟨d, hd, hkeep, hlatch⟩ := Ppi.setMode_latch (I := ppiInterface)
      { c.ppi with ctrlP := h.ppiCtrlP } c h.ppiCtrlP p
    have hk := Ppi.State.control_keeps c.ppi h.ppiCtrlP c.ppi.grpA c.ppi.grpB p
    rw [hk.1, hk.2, hout p] at hlatch
    rw [wrCtrlP_mode c hv]
    refine hlatch.trans ?_
    by_cases hm : Ppi.modeDir h.ppiCtrlP p = 0
    · rw [if_pos hm, hm, hppi]
      rfl
    · rw [if_neg hm, bne_iff_ne.2 hm, Bool.and_true, if_pos rfl]
      cases p with
      | a =>
          rw [hd rfl]
          refine (ppiPortARd_fst c _).trans ?_
          rw [returned]
          by_cases hf : c.psgFunction = 0x03
          · have hpsg : c.psg = Psg.reset := by
              have hs : c.psgFunction = (b.strobe h.ppiPortC).psgFunction := by
                rw [hl]
                rfl
              rw [hl, ← hs, hf]
              rfl
            rw [if_pos (beq_iff_eq.2 hf), if_pos hf, hpsg,
              Psg.answer_of_index (i := 0) rfl]
            rfl
          · rw [if_neg (mt beq_iff_eq.1 hf), if_neg hf]
      | b =>
          show d.ppiPortBRd = c.ppiPortBRd
          rw [← offPpi_ppiPortBRd, hkeep _ ppiInterface_keeps,
            offPpi_ppiPortBRd]
      | c => rfl

/-- What `load_ppi` restores when the control byte is a bit set/reset word. -/
theorem Fresh.loadPpi_bit (hb : b.Fresh) (hv : h.ppiCtrlP &&& 0x80 = 0) :
    let c := b.loadPpi h
    let portC := Ppi.bsr h.ppiPortC h.ppiCtrlP
    c.ppi = { Board.latched h with ctrlP := h.ppiCtrlP, portC := portC } ∧
      c.lines = .of portC := by
  have hl := hb.latched h
  unfold loadPpi
  generalize ((b.wrPortA h.ppiPortA).wrPortB h.ppiPortB).wrPortC h.ppiPortC = c
    at hl ⊢
  have hppi : c.ppi = Board.latched h := by rw [hl]
  rw [wrCtrlP_bit c hv]
  simp only [Ppi.setBit]
  rw [hppi]
  exact ⟨rfl, lines_ppiPortCWr c (Ppi.bsr h.ppiPortC h.ppiCtrlP)⟩

theorem Fresh.loadPpi_psgData (hb : b.Fresh) (h : Sna.Header) :
    (b.loadPpi h).psgData = h.ppiPortA := by
  have hl := hb.latched h
  unfold loadPpi
  generalize ((b.wrPortA h.ppiPortA).wrPortB h.ppiPortB).wrPortC h.ppiPortC = c
    at hl ⊢
  rw [psgData_wrCtrlP, hl]
  rw [hl]
  rfl

theorem loadPpi_within (b : Board) (h : Sna.Header) :
    Within b (b.loadPpi h) := by
  have ho := ppiInterface_within.order
  exact ho.trans (ppiStep_within b (.wr .a h.ppiPortA))
    (ho.trans (ppiStep_within _ (.wr .b h.ppiPortB))
      (ho.trans (ppiStep_within _ (.wr .c h.ppiPortC))
        (ppiStep_within _ (.ctrl h.ppiCtrlP))))

theorem Fresh.loadVideo (hb : b.Fresh) (h : Sna.Header) :
    ((b.loadVga h).loadVdc h).Fresh :=
  ⟨⟨hb.ready.dirA, hb.ready.dirC, hb.ready.bdir, hb.ready.bc1, hb.ready.bc2⟩,
    hb.ppi, hb.psg⟩

/-- What port B reads from a mainboard of the same configuration. -/
theorem SameConfig.reset_ppiPortBRd {b b' : Board} (h : SameConfig b b') :
    b'.reset.ppiPortBRd = b.reset.ppiPortBRd := by
  rw [(reset_ppi b').2.2.2, (reset_ppi b).2.2.2]
  unfold ppiPortBRd
  simp only [h.lnkLk1, h.lnkLk2, h.lnkLk3, h.lnkLk4, h.expBusy, h.prtBusy]

/-! ## The mainboard loaded -/

structure Reloaded (b b' : Board) : Prop where
  keys : b'.kbd.keys = b.kbd.keys
  bc2 : b.psgBc2 = 1 ∧ b'.psgBc2 = 1
  rdB : b'.ppiPortBRd = b.ppiPortBRd
  data : b'.psgData = b.ppi.portA
  psg : ∃ s, b'.psg =
    Psg.restore s b'.psgPorts b.psg.array b.psg.index
  mode : b.ppi.ctrlP &&& 0x80 ≠ 0 →
    b'.lines = .of b.ppi.portC ∧
      ∀ p, b'.ppi.dir p = b.ppi.dir p ∧
        b'.ppi.latch p =
          if b.ppi.dir p = 0 then b.ppi.latch p else b'.returned p
  bit : b.ppi.ctrlP &&& 0x80 = 0 →
    let portC := Ppi.bsr b.ppi.portC b.ppi.ctrlP
    b'.lines = .of portC ∧
      ∀ p, b'.ppi.dir p = 0 ∧
        b'.ppi.latch p = (b.ppi.setLatch .c portC).latch p

theorem Reached.reloaded {b₀ b₁ b : Board} (hb : Reached b₀.reset b)
    (hc : SameConfig b₀ b₁) (h2 : b₀.psgBc2 = 1) (s : Sna.State) :
    Reloaded b (b₁.reset.load (b.save s)) := by
  have hlatch : Board.latched (b.save s).header =
      { Ppi.reset with
        portA := b.ppi.portA, portB := b.ppi.portB, portC := b.ppi.portC } :=
    rfl
  have hctrl : (b.save s).header.ppiCtrlP = b.ppi.ctrlP := rfl
  have hpA : (b.save s).header.ppiPortA = b.ppi.portA := rfl
  have hpC : (b.save s).header.ppiPortC = b.ppi.portC := rfl
  have hreg : (b.save s).header.psgReg = b.psg.array := rfl
  have hix : (b.save s).header.psgRegIx = b.psg.index := rfl
  have hfresh := (fresh_reset (hc.psgBc2.trans h2)).loadVideo (b.save s).header
  have hkbd : ((b₁.reset.loadVga (b.save s).header).loadVdc
      (b.save s).header).kbd = Kbd.reset := (reset_ppi b₁).2.1
  have hrdB : ((b₁.reset.loadVga (b.save s).header).loadVdc
      (b.save s).header).ppiPortBRd = b₁.reset.ppiPortBRd := rfl
  obtain ⟨hppi', hlines', hkbd', hpsg', hrdB', hbc2', hdata'⟩ :=
    load_ppi b₁.reset (b.save s)
  generalize (b₁.reset.loadVga (b.save s).header).loadVdc (b.save s).header = c
    at hfresh hkbd hrdB hppi' hlines' hkbd' hpsg' hrdB' hbc2' hdata'
  generalize b₁.reset.load (b.save s) = b'
    at hppi' hlines' hkbd' hpsg' hrdB' hbc2' hdata' ⊢
  generalize (b.save s).header = hd at *
  have hoffB : (c.loadPpi hd).ppiPortBRd = c.ppiPortBRd := by
    rw [← offPpi_ppiPortBRd, offPpi_loadPpi, offPpi_ppiPortBRd]
  have hoff2 : (c.loadPpi hd).psgBc2 = c.psgBc2 := by
    rw [← offPpi_psgBc2, offPpi_loadPpi, offPpi_psgBc2]
  have hports : b'.psgPorts = (c.loadPpi hd).psgPorts := by
    rw [psgPorts, psgPorts, hkbd']
  have hret : b'.returned = (c.loadPpi hd).returned :=
    returned_congr hlines' hbc2' hrdB'
  have hb2 : b.psgBc2 = b₀.psgBc2 := by
    rw [← offPpi_psgBc2, hb.frame, offPpi_psgBc2, (reset_ppi b₀).2.2.1]
  have hbB : b.ppiPortBRd = b₀.reset.ppiPortBRd := by
    rw [← offPpi_ppiPortBRd, hb.frame, offPpi_ppiPortBRd]
  refine ⟨?_, ⟨hb2.trans h2, ?_⟩, ?_, ?_, ⟨(c.loadPpi hd).psg, ?_⟩,
    fun hm => ?_, fun hm => ?_⟩
  · rw [hkbd', (loadPpi_within c hd).1, hkbd, hb.keys]
    rfl
  · rw [hbc2', hoff2, hfresh.ready.bc2]
  · rw [hrdB', hoffB, hrdB, hc.reset_ppiPortBRd, hbB]
  · rw [hdata', hfresh.loadPpi_psgData, hpA]
  · rw [hpsg', hreg, hix, hports]
  · have hm' : hd.ppiCtrlP &&& 0x80 ≠ 0 := by rw [hctrl]; exact hm
    obtain ⟨hlines, hports⟩ := hfresh.loadPpi_mode hm'
    refine ⟨by rw [hlines', hlines, hpC], fun p => ?_⟩
    obtain ⟨hdir, hlatch'⟩ := hports p
    rw [hlatch, hctrl, ← hb.moded hm p] at hlatch'
    rw [hctrl, ← hb.moded hm p] at hdir
    rw [hppi', hdir, hlatch', hret]
    refine ⟨rfl, ?_⟩
    cases p <;> rfl
  · have hm' : hd.ppiCtrlP &&& 0x80 = 0 := by rw [hctrl]; exact hm
    obtain ⟨hppi, hlines⟩ := hfresh.loadPpi_bit hm'
    rw [hlatch, hctrl, hpC] at hppi
    rw [hctrl, hpC] at hlines
    refine ⟨hlines'.trans hlines, fun p => ?_⟩
    rw [hppi', hppi]
    cases p <;> exact ⟨rfl, rfl⟩

/-! ## What is restored -/

/-- The directions and the lines of port C are back, and no later accesses
tell the mainboards apart. -/
structure PpiRestored (b b' : Board) : Prop where
  dir : ∀ p, b'.ppi.dir p = b.ppi.dir p
  lines : b'.lines = b.lines
  later : Indistinct b b'

/-- The snapshot holds enough of the interface. After a mode word, the lines
must carry the latch of port C, and the latch of an input must hold what a load
leaves there. After a bit set/reset word, or none, all ports must be outputs
and the word must have its effect already. The generator must take the latch of
port A as it takes the data latch, and its output ports must hold `0xff`. -/
structure PpiSaved (b : Board) : Prop where
  mode : b.ppi.ctrlP &&& 0x80 ≠ 0 →
    b.lines = .of b.ppi.portC ∧
      ∀ p, b.ppi.dir p ≠ 0 → b.ppi.latch p = b.returned p
  bit : b.ppi.ctrlP &&& 0x80 = 0 →
    (∀ p, b.ppi.dir p = 0) ∧ Ppi.bsr b.ppi.portC b.ppi.ctrlP = b.ppi.portC
  data : b.psg.TakesAlike b.psgData b.ppi.portA
  psg : PsgSaved b

variable {b b' : Board}

theorem Reloaded.psg_alike (h : Reloaded b b') (hd : b.psg.Decoded)
    (hs : PsgSaved b) : b.psg.Alike b'.psg := by
  obtain ⟨s, hs'⟩ := h.psg
  have hdir := Psg.restore_dirPort s b'.psgPorts b.psg.array b.psg.index
  have harray := (Psg.restore_array_iff hd.masked s b'.psgPorts).2 hs
  rw [← hs'] at hdir harray
  have hindex := Psg.restore_index s b'.psgPorts b.psg.array b.psg.index
  rw [← hs'] at hindex
  refine ⟨?_, fun i => by rw [harray], .inl hindex⟩
  rw [hdir]
  funext j
  exact (hd.directed j).symm

theorem Reloaded.restored (h : Reloaded b b') (hb : b.Driven)
    (hd : b.psg.Decoded) (hs : PpiSaved b) : PpiRestored b b' := by
  have hports : b'.lines = b.lines ∧ b.ppi.Alike b'.ppi := by
    by_cases hm : b.ppi.ctrlP &&& 0x80 = 0
    · obtain ⟨hlines, hp⟩ := h.bit hm
      obtain ⟨hout, hbit⟩ := hs.bit hm
      rw [hbit] at hlines hp
      refine ⟨hlines.trans (hb (hout .c)).symm, fun p => ?_, fun p => ?_⟩
      · rw [(hp p).2]
        cases p <;> rfl
      · rw [(hp p).1, hout p]
    · obtain ⟨hlines, hp⟩ := h.mode hm
      obtain ⟨hlines', hin⟩ := hs.mode hm
      have hl : b'.lines = b.lines := hlines.trans hlines'.symm
      refine ⟨hl, fun p => ?_, fun p => (hp p).1⟩
      rw [(hp p).2]
      split
      · rfl
      · rename_i hne
        rw [hin p hne, returned_congr hl (h.bc2.2.trans h.bc2.1.symm) h.rdB]
  obtain ⟨hl, hppi⟩ := hports
  refine ⟨hppi.dir, hl, Twin.indistinct hppi ⟨hl, h.keys,
    h.bc2.2.trans h.bc2.1.symm, h.rdB, h.psg_alike hd hs.psg, ?_⟩⟩
  rw [h.data]
  exact hs.data

/-- Whether port A is an input, a mode word can leave it as it is. -/
theorem Reached.dirA {b₀ : Board} (hb : Reached b₀ b)
    (hs : b.ppi.ctrlP &&& 0x80 = 0 → b.ppi.dir .a = 0) :
    ∃ w : Byte, w &&& 0x80 ≠ 0 ∧ Ppi.modeDir w .a = b.ppi.dir .a ∧
      Ppi.modeDir w .c = 0 := by
  have hdir : ∀ v : Byte, Ppi.modeDir v .a = 0 ∨ Ppi.modeDir v .a = 1 := by
    decide
  have h : b.ppi.dir .a = 0 ∨ b.ppi.dir .a = 1 := by
    by_cases hm : b.ppi.ctrlP &&& 0x80 = 0
    · exact .inl (hs hm)
    · rw [hb.moded hm .a]
      exact hdir _
  rcases h with h | h
  · rw [h]
    exact ⟨0x80, by decide, by decide, by decide⟩
  · rw [h]
    exact ⟨0x90, by decide, by decide, by decide⟩

/-- The registers are told apart by an experiment, so they are back. -/
theorem Reloaded.psgSaved {b₀ : Board} (h : Reloaded b b')
    (hb : Reached b₀ b) (hd : b.psg.Decoded) (hr : PpiRestored b b')
    (hs : b.ppi.ctrlP &&& 0x80 = 0 → b.ppi.dir .a = 0) : PsgSaved b := by
  obtain ⟨s, hs'⟩ := h.psg
  obtain ⟨w, hw, hA, hC⟩ := hb.dirA hs
  refine (Psg.restore_array_iff hd.masked s b'.psgPorts).1 ?_
  have hidle {c : Board} (h2 : c.psgBc2 = 1) (hA : Ppi.modeDir w .a = c.ppi.dir .a) :
      (run ppiStep c (strobed w 0x00)).Ready ∧
        (run ppiStep c (strobed w 0x00)).psg = c.psg := by
    obtain ⟨hr, hp⟩ := run_strobed h2 hw hA hC 0x00
    rw [strobe_function h2] at hp
    exact ⟨hr, hp⟩
  obtain ⟨hready, hpsg⟩ := hidle h.bc2.1 hA
  obtain ⟨hready', hpsg'⟩ := hidle h.bc2.2 (hA.trans (hr.dir .a).symm)
  funext i
  have hi := indistinct_array (hr.later.run (strobed w 0x00)) hready hready' i
  rw [hpsg, hpsg', hd.masked, hs', Psg.restore_masked] at hi
  exact hi

/-- Where no later accesses tell the mainboards apart, the snapshot holds
enough. -/
theorem Reloaded.saved {b₀ : Board} (h : Reloaded b b') (hb : Reached b₀ b)
    (hd : b.psg.Decoded) (hr : PpiRestored b b') : PpiSaved b := by
  have hbit (hm : b.ppi.ctrlP &&& 0x80 = 0) :
      (∀ p, b.ppi.dir p = 0) ∧
        Ppi.bsr b.ppi.portC b.ppi.ctrlP = b.ppi.portC := by
    obtain ⟨hlines, hp⟩ := h.bit hm
    have hout (p : Port) : b.ppi.dir p = 0 := (hr.dir p).symm.trans (hp p).1
    refine ⟨hout, Lines.of_injective ?_⟩
    rw [← hlines, hr.lines, hb.driven (hout .c)]
  have hmode (hm : b.ppi.ctrlP &&& 0x80 ≠ 0) :
      b.lines = .of b.ppi.portC ∧
        ∀ p, b.ppi.dir p ≠ 0 → b.ppi.latch p = b.returned p := by
    obtain ⟨hlines, hp⟩ := h.mode hm
    refine ⟨hr.lines.symm.trans hlines, fun p hne => ?_⟩
    rw [← indistinct_latch hr.later p, (hp p).2, if_neg hne,
      returned_congr hr.lines (h.bc2.2.trans h.bc2.1.symm) h.rdB]
  have hpsg := h.psgSaved hb hd hr fun hm => (hbit hm).1 .a
  refine ⟨hmode, hbit, ?_, hpsg⟩
  by_cases hA : b.ppi.dir .a = 0
  · exact .inl (hb.fed hA)
  · have hm : b.ppi.ctrlP &&& 0x80 ≠ 0 := fun hm => hA ((hbit hm).1 .a)
    have hin : b.ppi.dir .a = 1 := by
      have hdir : ∀ v : Byte, Ppi.modeDir v .a ≠ 0 → Ppi.modeDir v .a = 1 := by
        decide
      rw [hb.moded hm .a] at hA ⊢
      exact hdir _ hA
    have halike := h.psg_alike hd hpsg
    obtain ⟨s, hs'⟩ := h.psg
    have hindex := Psg.restore_index s b'.psgPorts b.psg.array b.psg.index
    rw [← hs'] at hindex
    rw [← h.data]
    refine indistinct_data hr.later h.bc2.1 h.bc2.2 hin ((hr.dir .a).trans hin)
      hindex halike.dirPort ?_
    rw [h.data, show b.ppi.portA = b.returned .a from (hmode hm).2 .a hA,
      returned]
    split
    · exact .inl rfl
    · exact .inr (by decide)

theorem Reached.restored_iff {b₀ b₁ : Board} (hb : Reached b₀.reset b)
    (hd : b.psg.Decoded) (hc : SameConfig b₀ b₁) (h2 : b₀.psgBc2 = 1)
    (s : Sna.State) :
    PpiRestored b (b₁.reset.load (b.save s)) ↔ PpiSaved b :=
  have h := hb.reloaded hc h2 s
  ⟨h.saved hb hd, h.restored hb.driven hd⟩

end Xcpc.Cpc.Board

namespace Xcpc.Cpc.Machine

open Prog Board

/-- After any accesses to the parallel interface from a reset, a snapshot
restores it exactly when the snapshot holds enough. The machine that loads it
has the same configuration, and may be in any state. -/
theorem ppi_restored_iff {φ : Type} (F : Fdc φ) (m m' : Machine φ)
    (es : List PpiEvent) (s : Sna.State)
    (h' : SameConfig m.board m'.board) (h2 : m.board.psgBc2 = 1) :
    let b := run ppiStep m.board.reset es
    PpiRestored b (m'.loadCpc F ((m.withBoard b).saveCpc s)).board ↔
      PpiSaved b := by
  intro b
  exact (reached_run m.board es).restored_iff (reached_decoded m.board es) h' h2
    _

/-- A machine in the middle of a read of the keyboard. -/
def scanning : Machine Unit :=
  (Machine.blank .k64).withBoard
    { Board.blank .k64 with
      psgData := 0x0e
      psgBc1 := 1
      kbd := Kbd.setLine Kbd.reset 5
      ppi := { Ppi.reset with ctrlP := 0x92, portA := 0x7f, dirA := 1 }
      psg := { Psg.reset with index := 0x0e } }

/-- A program writes `0x3f` to the mixer, and leaves port B an input. -/
def mixerWrite : List PpiEvent :=
  [.ctrl 0x82, .wr .a 7, .wr .c 0xc0, .wr .c 0x00, .wr .a 0x3f, .wr .c 0x80,
    .rd .b 0xff, .wr .c 0x05]

/-- A snapshot of this gives it back to the other machine. -/
theorem ppi_restored_mixerWrite :
    let m := Machine.blank .k64
    let b := run ppiStep m.board.reset mixerWrite
    PpiRestored b
      (scanning.loadCpc .absent ((m.withBoard b).saveCpc Sna.fresh)).board := by
  refine (ppi_restored_iff .absent (.blank .k64) scanning mixerWrite Sna.fresh
    ⟨rfl, rfl, rfl, rfl, rfl, rfl, rfl, rfl, rfl, rfl⟩ rfl).2 ⟨fun _ => ?_,
      fun h => absurd h (by decide +kernel), .inl (by decide +kernel), ?_⟩
  · refine ⟨by decide +kernel, fun p => ?_⟩
    cases p <;> decide +kernel
  · exact ⟨fun h => absurd h (by decide +kernel),
      fun h => absurd h (by decide +kernel)⟩

/-- A mode word makes ports A and B inputs, and a bit set/reset word clears
bit 0 of port C. A snapshot of this makes all ports outputs. -/
theorem directions_are_lost :
    let m := Machine.blank .k64
    let b := run ppiStep m.board.reset [.ctrl 0x92, .ctrl 0x00]
    ¬ PpiRestored b
      (m.loadCpc .absent ((m.withBoard b).saveCpc Sna.fresh)).board := by
  intro m b h
  have hs : PpiSaved b :=
    ((reached_run m.board _).restored_iff (reached_decoded m.board _)
      ⟨rfl, rfl, rfl, rfl, rfl, rfl, rfl, rfl, rfl, rfl⟩ rfl _).1 h
  exact absurd ((hs.bit (by decide +kernel)).1 .a) (by decide +kernel)

end Xcpc.Cpc.Machine
