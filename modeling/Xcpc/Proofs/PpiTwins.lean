import Mathlib
import Xcpc.Lib.Observation
import Xcpc.Proofs.SoundAccess

/-!
# Mainboards that a program cannot tell apart

A program sees the parallel interface, the data latch and the sound generator
through the four ports only. Two mainboards look the same to it when the
latches and the directions agree, the generators hold the same, and the data
latches are bytes that the generator takes alike: they may differ, when neither
names a register and the register that is selected gets the same from both.

The relation is kept by every access, so no program tells such mainboards
apart. The other way round, the accesses of this module are experiments, after
which a read gives away a latch, a register or the data latch.
-/

namespace Xcpc.Psg

/-- The generators hold the same, as far as it can be read. An index past the
registers is as good as another. -/
structure State.Alike (s t : State) : Prop where
  dirPort : t.dirPort = s.dirPort
  array : ∀ i, t.array i &&& mask i = s.array i &&& mask i
  index : t.index = s.index ∨ 16 ≤ s.index.toNat ∧ 16 ≤ t.index.toNat

/-- The generator takes one byte as it takes the other. As indices they name no
register, and the selected register gets the same from them. -/
def State.TakesAlike (s : State) (d e : Byte) : Prop :=
  d = e ∨ 16 ≤ d.toNat ∧ 16 ≤ e.toNat ∧
    ∀ i : Fin 16, s.index.toNat = i.val →
      d &&& mask i = e &&& mask i ∨ i = 14 ∧ s.dirPort 0 = true ∨
        i = 15 ∧ s.dirPort 1 = true

variable {s t : State}

/-- Both select the same register, or none. -/
theorem State.Alike.selected (h : s.Alike t) :
    (∃ i : Fin 16, s.index.toNat = i.val ∧ t.index.toNat = i.val) ∨
      ¬ s.index.toNat < 16 ∧ ¬ t.index.toNat < 16 := by
  rcases h.index with he | ⟨hs, ht⟩
  · by_cases hlt : s.index.toNat < 16
    · exact .inl ⟨⟨_, hlt⟩, rfl, by rw [he]⟩
    · exact .inr ⟨hlt, by rw [he]; exact hlt⟩
  · exact .inr ⟨by omega, by omega⟩

theorem State.Alike.answer (h : s.Alike t) (p : Ports) (v : Byte) :
    Psg.answer t p v = Psg.answer s p v := by
  rcases h.selected with ⟨i, hs, ht⟩ | ⟨hs, ht⟩
  · rw [answer_of_index hs, answer_of_index ht, h.array]
    unfold fetched
    rw [h.dirPort]
  · rw [answer_of_ge hs, answer_of_ge ht]

/-- A read masks the selected register. -/
theorem alike_getValue (s : State) (p : Ports) (v : Byte) :
    s.Alike (getValue s p v).2 := by
  unfold getValue
  split
  · refine ⟨rfl, fun j => ?_, .inl rfl⟩
    simp only [Function.update_apply]
    split
    · rename_i hj
      rw [hj, and_mask]
    · rfl
  · exact ⟨rfl, fun _ => rfl, .inl rfl⟩

theorem getValue_index (s : State) (p : Ports) (v : Byte) :
    (getValue s p v).2.index = s.index := by
  unfold getValue
  split <;> rfl

theorem State.Alike.getValue (h : s.Alike t) (p : Ports) (v : Byte) :
    (getValue s p v).2.Alike (getValue t p v).2 := by
  have hs := alike_getValue s p v
  have ht := alike_getValue t p v
  refine ⟨ht.dirPort.trans (h.dirPort.trans hs.dirPort.symm),
    fun i => (ht.array i).trans ((h.array i).trans (hs.array i).symm), ?_⟩
  rw [getValue_index, getValue_index]
  exact h.index

theorem State.TakesAlike.getValue {d e : Byte} (h : s.TakesAlike d e)
    (p : Ports) (v : Byte) : (getValue s p v).2.TakesAlike d e := by
  unfold State.TakesAlike
  rw [getValue_index, (alike_getValue s p v).dirPort]
  exact h

theorem State.Alike.setIndex (h : s.Alike t) {d e : Byte}
    (hd : s.TakesAlike d e) : (setIndex s d).Alike (setIndex t e) := by
  refine ⟨h.dirPort, h.array, ?_⟩
  rcases hd with he | ⟨hd, he, -⟩
  · exact .inl he.symm
  · exact .inr ⟨hd, he⟩

/-- Once latched as an index, the bytes select no register. -/
theorem State.TakesAlike.setIndex {d e : Byte} (h : s.TakesAlike d e) :
    (setIndex s d).TakesAlike d e := by
  rcases h with he | ⟨hd, he, -⟩
  · exact .inl he
  · refine .inr ⟨hd, he, fun i hi => ?_⟩
    have hi' : d.toNat = i.val := hi
    omega

theorem put_index (s : State) (p : Ports) (i : Fin 16) (v : Byte) :
    (put s p i v).index = s.index := by
  show (setField s i (v &&& mask i)).index = s.index
  obtain ⟨i, hi⟩ := i
  interval_cases i <;> rfl

/-- A register stores the same of bytes that it takes alike. -/
theorem State.TakesAlike.stored {d e : Byte} (h : s.TakesAlike d e)
    {i : Fin 16} (hi : s.index.toNat = i.val) (p : Ports) :
    stored s p i (d &&& mask i) = stored s p i (e &&& mask i) := by
  rcases h with he | ⟨-, -, h⟩
  · rw [he]
  · rcases h i hi with hm | ⟨rfl, hd⟩ | ⟨rfl, hd⟩
    · rw [hm]
    · show (if s.dirPort 0 then _ else _) = if s.dirPort 0 then _ else _
      rw [hd]
      rfl
    · show (if s.dirPort 1 then _ else _) = if s.dirPort 1 then _ else _
      rw [hd]
      rfl

/-- Register 7 takes whole bytes, so it takes no two of them alike. -/
theorem State.TakesAlike.mixer {d e : Byte} (h : s.TakesAlike d e)
    (hi : s.index.toNat = (7 : Fin 16).val) : d = e := by
  rcases h with he | ⟨-, -, h⟩
  · exact he
  · rcases h 7 hi with hm | ⟨h7, -⟩ | ⟨h7, -⟩
    · rwa [mask_whole.1, and_ff, and_ff] at hm
    · exact absurd h7 (by decide)
    · exact absurd h7 (by decide)

theorem State.Alike.setValue (h : s.Alike t) {d e : Byte}
    (hd : s.TakesAlike d e) (p : Ports) :
    (setValue s p d).Alike (setValue t p e) := by
  rcases h.selected with ⟨i, hs, ht⟩ | ⟨hs, ht⟩
  · rw [setValue_of_index hs, setValue_of_index ht]
    have hst (v : Byte) : Psg.stored t p i v = Psg.stored s p i v := by
      unfold Psg.stored
      rw [h.dirPort]
    refine ⟨?_, fun j => ?_, ?_⟩
    · rw [put_dirPort, put_dirPort, h.dirPort]
      by_cases h7 : i = 7
      · rw [if_pos h7, if_pos h7, hd.mixer (h7 ▸ hs)]
      · rw [if_neg h7, if_neg h7]
    · rw [put_array, put_array, Function.update_apply, Function.update_apply]
      split
      · rw [hst, hd.stored hs]
      · exact h.array j
    · rw [put_index, put_index]
      exact h.index
  · rw [setValue_of_ge hs, setValue_of_ge ht]
    exact h

theorem State.TakesAlike.setValue {d e : Byte} (h : s.TakesAlike d e)
    (p : Ports) : (setValue s p d).TakesAlike d e := by
  by_cases hs : s.index.toNat < 16
  · rw [setValue_of_index (i := ⟨_, hs⟩) rfl]
    by_cases h7 : (⟨s.index.toNat, hs⟩ : Fin 16) = 7
    · exact .inl (h.mixer (congrArg Fin.val h7))
    · unfold State.TakesAlike
      rw [put_index, put_dirPort, if_neg h7]
      exact h
  · rw [setValue_of_ge hs]
    exact h

end Xcpc.Psg

namespace Xcpc.Ppi

variable {σ : Type} {I : Interface σ} {R : σ → σ → Prop}

/-! ## Two interfaces -/

/-- The states agree in the latches and the directions. -/
structure State.Alike (s t : State) : Prop where
  latch : ∀ p, t.latch p = s.latch p
  dir : ∀ p, t.dir p = s.dir p

theorem State.Alike.setLatch {s t : State} (h : s.Alike t) (p : Port)
    (v : Byte) : (s.setLatch p v).Alike (t.setLatch p v) where
  latch q := by rw [latch_setLatch, latch_setLatch, h.latch]
  dir q := by rw [dir_setLatch, dir_setLatch, h.dir]

theorem State.Alike.setDir {s t : State} (h : s.Alike t) (p : Port)
    (v : Byte) : (s.setDir p v).Alike (t.setDir p v) where
  latch q := by rw [latch_setDir, latch_setDir, h.latch]
  dir q := by rw [dir_setDir, dir_setDir, h.dir]

/-- The control byte and the groups do not matter. -/
theorem State.Alike.control {s t : State} (h : s.Alike t)
    (c g k c' g' k' : Byte) :
    ({ s with ctrlP := c, grpA := g, grpB := k } : State).Alike
      { t with ctrlP := c', grpA := g', grpB := k' } where
  latch p := (t.control_keeps ..).2.trans
    ((h.latch p).trans (s.control_keeps ..).2.symm)
  dir p := (t.control_keeps ..).1.trans
    ((h.dir p).trans (s.control_keeps ..).1.symm)

/-- The mainboard answers the same on related sides, and they stay related. -/
structure Interface.Agrees (I : Interface σ) (R : σ → σ → Prop) : Prop where
  rd : ∀ p {m n} v, R m n →
    (I.rd p n v).1 = (I.rd p m v).1 ∧ R (I.rd p m v).2 (I.rd p n v).2
  wr : ∀ p {m n} v, R m n → R (I.wr p m v) (I.wr p n v)

/-- Two interfaces with the mainboards behind them. -/
def Paired (R : σ → σ → Prop) (x y : State × σ) : Prop :=
  x.1.Alike y.1 ∧ R x.2 y.2

variable {s t : State} {m n : σ}

theorem rdPort_agrees (hI : I.Agrees R) (p : Port) (hs : s.Alike t)
    (hm : R m n) (v : Byte) :
    (rdPort I p t n v).1 = (rdPort I p s m v).1 ∧
      Paired R (rdPort I p s m v).2 (rdPort I p t n v).2 := by
  by_cases hd : s.dir p = 0
  · rw [rdPort_out hd, rdPort_out ((hs.dir p).trans hd)]
    exact ⟨hs.latch p, hs, hm⟩
  · rw [rdPort_in hd, rdPort_in (by rw [hs.dir p]; exact hd)]
    obtain ⟨ha, hr⟩ := hI.rd p v hm
    refine ⟨ha, ?_, hr⟩
    rw [ha]
    exact hs.setLatch p _

theorem wrPort_agrees (hI : I.Agrees R) (p : Port) (hs : s.Alike t)
    (hm : R m n) (v : Byte) :
    Paired R (wrPort I p s m v) (wrPort I p t n v) := by
  by_cases hd : s.dir p = 0
  · rw [wrPort_out hd, wrPort_out ((hs.dir p).trans hd)]
    exact ⟨hs.setLatch p v, hI.wr p v hm⟩
  · rw [wrPort_in hd, wrPort_in (by rw [hs.dir p]; exact hd)]
    exact ⟨hs.setLatch p v, hm⟩

theorem turn_agrees (hI : I.Agrees R) (p : Port) (hs : s.Alike t)
    (hm : R m n) (dir : Byte) :
    Paired R (turn I p s m dir) (turn I p t n dir) := by
  rw [turn_eq, turn_eq, hs.dir, hs.latch]
  split
  · split
    · obtain ⟨ha, hr⟩ := hI.rd p (s.latch p) hm
      refine ⟨?_, hr⟩
      dsimp only
      rw [ha]
      exact (hs.setDir p dir).setLatch p _
    · exact ⟨hs.setDir p dir, hI.wr p _ hm⟩
  · exact ⟨hs, hm⟩

theorem wrCtrlP_agrees (hI : I.Agrees R) (hs : s.Alike t) (hm : R m n)
    (v : Byte) : Paired R (wrCtrlP I s m v) (wrCtrlP I t n v) := by
  have hv := hs.control v s.grpA s.grpB v t.grpA t.grpB
  unfold wrCtrlP
  dsimp only
  split
  · rw [setMode_eq, setMode_eq]
    have hg := hs.control v ((v >>> 5) &&& 0x03) ((v >>> 2) &&& 0x01) v
      ((v >>> 5) &&& 0x03) ((v >>> 2) &&& 0x01)
    obtain ⟨ha, hma⟩ := turn_agrees hI .a hg hm (modeDir v .a)
    obtain ⟨hb, hmb⟩ := turn_agrees hI .b ha hma (modeDir v .b)
    exact turn_agrees hI .c hb hmb (modeDir v .c)
  · simp only [setBit]
    have hdir : t.dirC = s.dirC := hs.dir .c
    have hlatch : t.portC = s.portC := hs.latch .c
    by_cases hd : s.dirC = 0
    · rw [if_pos (beq_iff_eq.2 hd), if_pos (beq_iff_eq.2 (hdir.trans hd)),
        hlatch]
      exact ⟨hv.setLatch .c (bsr s.portC v), hI.wr .c _ hm⟩
    · rw [if_neg (mt beq_iff_eq.1 hd),
        if_neg (mt beq_iff_eq.1 fun he => hd (hdir.symm.trans he))]
      exact ⟨hv, hm⟩

end Xcpc.Ppi

namespace Xcpc.Cpc.Board

open Prog
open Ppi (Port)

/-! ## Twins -/

/-- The mainboards' sides of the ports look the same. -/
structure Twin (b b' : Board) : Prop where
  lines : b'.lines = b.lines
  keys : b'.kbd.keys = b.kbd.keys
  bc2 : b'.psgBc2 = b.psgBc2
  rdB : b'.ppiPortBRd = b.ppiPortBRd
  psg : b.psg.Alike b'.psg
  data : b.psg.TakesAlike b.psgData b'.psgData

theorem Twin.kbd {b b' : Board} (h : Twin b b') : b'.kbd = b.kbd := by
  have hline : b'.kbd.line = b.kbd.line := congrArg Lines.kbdLine h.lines
  have hkeys := h.keys
  cases hb : b'.kbd
  cases hb' : b.kbd
  rw [hb, hb'] at hline hkeys
  cases hline
  cases hkeys
  rfl

theorem Twin.psgPorts {b b' : Board} (h : Twin b b') :
    b'.psgPorts = b.psgPorts := by
  rw [Board.psgPorts, Board.psgPorts, h.kbd]

theorem Twin.psgFunction {b b' : Board} (h : Twin b b') :
    b'.psgFunction = b.psgFunction := by
  have hbdir : b'.psgBdir = b.psgBdir := congrArg Lines.psgBdir h.lines
  have hbc1 : b'.psgBc1 = b.psgBc1 := congrArg Lines.psgBc1 h.lines
  rw [Board.psgFunction, Board.psgFunction, hbdir, hbc1, h.bc2]

theorem Twin.psgUpdate {b b' : Board} (h : Twin b b') :
    Twin (b.psgUpdate b.psgData) (b'.psgUpdate b'.psgData) := by
  unfold Board.psgUpdate
  rw [h.psgFunction, h.psgPorts]
  split
  · exact ⟨h.lines, h.keys, h.bc2, h.rdB, h.psg.setValue h.data _,
      h.data.setValue _⟩
  · split
    · exact ⟨h.lines, h.keys, h.bc2, h.rdB, h.psg.setIndex h.data,
        h.data.setIndex⟩
    · exact h

theorem twin_agrees : ppiInterface.Agrees Twin where
  rd p b b' v h := by
    cases p with
    | a =>
        show (b'.ppiPortARd v).1 = (b.ppiPortARd v).1 ∧
          Twin (b.ppiPortARd v).2 (b'.ppiPortARd v).2
        unfold ppiPortARd
        rw [h.psgFunction, h.psgPorts]
        split
        · exact ⟨h.psg.answer _ v, h.lines, h.keys, h.bc2, h.rdB,
            h.psg.getValue _ v, h.data.getValue _ v⟩
        · exact ⟨rfl, h⟩
    | b => exact ⟨h.rdB, h⟩
    | c => exact ⟨rfl, h⟩
  wr p b b' v h := by
    cases p with
    | a =>
        have hv : Twin { b with psgData := v } { b' with psgData := v } :=
          ⟨h.lines, h.keys, h.bc2, h.rdB, h.psg, .inl rfl⟩
        exact hv.psgUpdate
    | b => exact h
    | c =>
        have hv : Twin (b.strobe v) (b'.strobe v) :=
          ⟨rfl, h.keys, h.bc2, h.rdB, h.psg, h.data⟩
        exact hv.psgUpdate

/-- What a program gets from an access. -/
def given (b : Board) : PpiEvent → List Byte
  | .rd p v => [(b.read p v).1]
  | _ => []

/-- No list of accesses tells the mainboards apart. -/
abbrev Indistinct (b b' : Board) : Prop := Indist ppiStep given b b'

theorem Twin.indistinct {b b' : Board} (hs : b.ppi.Alike b'.ppi)
    (h : Twin b b') : Indistinct b b' := by
  refine indist_of_bisim (R := fun b b' => b.ppi.Alike b'.ppi ∧ Twin b b')
    (fun b b' e ⟨hs, h⟩ => ?_) ⟨hs, h⟩
  have hI := twin_agrees
  have hset {b b' : Board} {s t : Ppi.State} (h : Twin b b') :
      Twin { b with ppi := s } { b' with ppi := t } :=
    ⟨h.lines, h.keys, h.bc2, h.rdB, h.psg, h.data⟩
  cases e with
  | rd p v =>
      obtain ⟨ha, hs', h'⟩ := Ppi.rdPort_agrees hI p hs h v
      rw [given, given, ppiStep, ppiStep, read_eq, read_eq]
      exact ⟨congrArg (fun x => [x]) ha, hs', hset h'⟩
  | wr p v =>
      obtain ⟨hs', h'⟩ := Ppi.wrPort_agrees hI p hs h v
      rw [ppiStep, ppiStep, write_eq, write_eq]
      exact ⟨rfl, hs', hset h'⟩
  | ctrl v =>
      obtain ⟨hs', h'⟩ := Ppi.wrCtrlP_agrees hI hs h v
      exact ⟨rfl, hs', hset h'⟩

/-! ## Experiments -/

theorem modeDir_out (p : Port) : Ppi.modeDir 0x80 p = 0 := by
  cases p <;> decide

/-- All ports made outputs show their latches. -/
theorem indistinct_latch {b b' : Board} (h : Indistinct b b') (p : Port) :
    b'.ppi.latch p = b.ppi.latch p := by
  have hread (c : Board) : (c.wrCtrlP 0x80).read p 0 =
      (c.ppi.latch p, c.wrCtrlP 0x80) := by
    obtain ⟨-, hdir, hlatch⟩ := wrCtrlP_mode_ppi c (v := 0x80) (by decide)
    rw [read_out ((hdir p).trans (modeDir_out p)), hlatch p (modeDir_out p)]
  have hout := (h.next (.ctrl 0x80)).out_eq (.rd p 0)
  rw [given, given, ppiStep, ppiStep, hread, hread] at hout
  exact (List.cons.inj hout).1

/-- What a strobe makes the bus of the generator do. -/
theorem strobe_function {b : Board} (h2 : b.psgBc2 = 1) (x : Byte) :
    (b.strobe x).psgFunction =
      ((((x &&& 0x80) >>> 7) <<< 2) ||| 0x02 ||| ((x &&& 0x40) >>> 6)) &&&
        0x07 := by
  show ((((x &&& 0x80) >>> 7) <<< 2) ||| (b.psgBc2 <<< 1) |||
    ((x &&& 0x40) >>> 6)) &&& 0x07 = _
  rw [h2]
  rfl

/-- A byte gets to the lines of port C, whatever its direction was: it is
written, and a mode word that leaves port A alone makes port C an output. -/
theorem drive_eq {b : Board} {w : Byte} (hw : w &&& 0x80 ≠ 0)
    (hA : Ppi.modeDir w .a = b.ppi.dir .a) (hC : Ppi.modeDir w .c = 0)
    (x : Byte) :
    ∃ s : Ppi.State,
      (b.write .c x).wrCtrlP w =
        { (b.strobe x).psgUpdate b.psgData with ppi := s } ∧
      s.dirA = b.ppi.dirA ∧ s.dirC = 0 := by
  obtain ⟨-, hdir, -⟩ := wrCtrlP_mode_ppi (b.write .c x) hw
  refine ⟨((b.write .c x).wrCtrlP w).ppi, ?_, (hdir .a).trans hA,
    (hdir .c).trans hC⟩
  have hs : (b.write .c x).ppi = b.ppi.setLatch .c x := by
    by_cases hd : b.ppi.dir .c = 0
    · rw [write_out hd]
    · rw [write_in hd]
  obtain ⟨t, ht⟩ := wrCtrlP_sameA (b := b.write .c x) hw
    (by rw [hs]; exact hA.symm) hC
  by_cases hd : b.ppi.dir .c = 0
  · rw [if_pos (by rw [hs]; exact hd), write_out hd] at ht
    rw [write_out hd, ht]
    rfl
  · rw [if_neg (by rw [hs]; exact hd), write_in hd] at ht
    rw [write_in hd, ht]
    unfold ppiPortCWr
    rw [psgUpdate_eq, psgUpdate_eq]
    rfl

/-- From an inactive bus, a mode word makes all ports outputs, and the
generator hears nothing of it. -/
theorem ready_wrCtrlP {b : Board} (hC : b.ppi.dirC = 0) (hd : b.psgBdir = 0)
    (h1 : b.psgBc1 = 0) (h2 : b.psgBc2 = 1) :
    (b.wrCtrlP 0x80).Ready ∧ (b.wrCtrlP 0x80).psg = b.psg := by
  have hf : b.psgFunction = 0x02 := by
    rw [Board.psgFunction, hd, h1, h2]
    rfl
  obtain ⟨-, hdir, -⟩ := wrCtrlP_mode_ppi b (v := 0x80) (by decide)
  have hb : ∃ data t, b.wrCtrlP 0x80 =
      { b with psgData := data, ppi := t } := by
    obtain ⟨t, ht⟩ := wrCtrlP_sameC (b := b) (v := 0x80) (by decide) hC
    have h0 : Ppi.modeDir 0x80 .a = 0 := modeDir_out .a
    rw [h0] at ht
    by_cases hA : b.ppi.dir .a = 0
    · rw [Ppi.turn_same hA] at ht
      exact ⟨b.psgData, t, ht⟩
    · rw [Ppi.turn_out hA] at ht
      have hw : b.ppiPortAWr b.ppi.portA = { b with psgData := b.ppi.portA } :=
        psgUpdate_inactive (b := { b with psgData := b.ppi.portA }) hf _
      refine ⟨b.ppi.portA, t, ht.trans ?_⟩
      show ({ b.ppiPortAWr b.ppi.portA with ppi := t } : Board) = _
      rw [hw]
  obtain ⟨data, t, hb⟩ := hb
  rw [hb] at hdir ⊢
  exact ⟨⟨(hdir .a).trans (modeDir_out .a), (hdir .c).trans (modeDir_out .c),
    hd, h1, h2⟩, rfl⟩

/-- A strobe with whatever port A has left in the data latch, and all ports
outputs and the bus inactive after it. -/
def strobed (w x : Byte) : List PpiEvent :=
  [.wr .c x, .ctrl w, .wr .c 0x00, .ctrl 0x80]

theorem run_strobed {b : Board} (h2 : b.psgBc2 = 1) {w : Byte}
    (hw : w &&& 0x80 ≠ 0) (hA : Ppi.modeDir w .a = b.ppi.dir .a)
    (hC : Ppi.modeDir w .c = 0) (x : Byte) :
    (run ppiStep b (strobed w x)).Ready ∧
      (run ppiStep b (strobed w x)).psg =
        received (b.strobe x).psgFunction b.psg (b.strobe x).psgPorts
          b.psgData := by
  obtain ⟨s, hs, -, hsC⟩ := drive_eq hw hA hC x
  rw [psgUpdate_eq] at hs
  have hrun : run ppiStep b (strobed w x) =
      ((((b.write .c x).wrCtrlP w).write .c 0x00).wrCtrlP 0x80) := by
    rw [strobed, run_cons, run_cons, run_cons, run_cons, run_nil, ppiStep,
      ppiStep, ppiStep, ppiStep]
  rw [hrun, hs]
  generalize hc : ({ b.strobe x with psg := _ } : Board) = c
  have hc2 : c.psgBc2 = 1 := by
    rw [← hc]
    exact h2
  have hpsg : c.psg = received (b.strobe x).psgFunction b.psg
      (b.strobe x).psgPorts b.psgData := by
    rw [← hc]
    rfl
  have hzero : ({ c with ppi := s } : Board).write .c 0x00 =
      { c.strobe 0x00 with ppi := { s with portC := 0x00 } } := by
    have hf : (c.strobe 0x00).psgFunction = 0x02 := by
      rw [strobe_function hc2]
      rfl
    have hi : (({ c with ppi := s } : Board).strobe 0x00).psgUpdate c.psgData =
        ({ c with ppi := s } : Board).strobe 0x00 :=
      psgUpdate_inactive (b := ({ c with ppi := s } : Board).strobe 0x00) hf _
    refine (wrPortC_out (b := { c with ppi := s }) hsC 0x00).trans ?_
    rw [hi]
    rfl
  rw [hzero]
  obtain ⟨hr, hp⟩ := ready_wrCtrlP
    (b := { c.strobe 0x00 with ppi := { s with portC := 0x00 } }) hsC rfl rfl hc2
  exact ⟨hr, hp.trans hpsg⟩

/-- The accesses of `pulse`. -/
def pulsed (data lines : Byte) : List PpiEvent :=
  [.wr .a data, .wr .c lines, .wr .c 0x00]

theorem run_pulsed (b : Board) (data lines : Byte) :
    run ppiStep b (pulsed data lines) = b.pulse data lines := rfl

/-- A register is read that shows what it holds. -/
theorem Ready.peek {b : Board} (h : b.Ready) {i : Fin 16}
    (hi : i.val < 14 ∨ ∀ j, b.psg.dirPort j = true) (v : Byte) :
    ((((b.pulse (BitVec.ofNat 8 i.val) 0xc0).wrCtrlP 0x92).wrPortC
      0x40).rdPortA v).1 = b.psg.array i &&& Psg.mask i := by
  obtain ⟨hA, hC, hpsg, -, h2⟩ :=
    (h.pulse_ready (BitVec.ofNat 8 i.val) 0xc0).wrCtrlP
  rw [h.pulse_index] at hpsg
  have hidx : (Psg.setIndex b.psg (BitVec.ofNat 8 i.val)).index.toNat =
      i.val := by
    show (BitVec.ofNat 8 i.val).toNat = i.val
    rw [BitVec.toNat_ofNat]
    omega
  rw [register_read hA hC h2 (by decide) (by decide), hpsg,
    Psg.answer_of_index hidx]
  rcases hi with hi | hi
  · exact Psg.fetched_of_lt _ hi
  · obtain ⟨i, hlt⟩ := i
    have hd (j : Fin 2) : (Psg.setIndex b.psg
        (BitVec.ofNat 8 i)).dirPort j = true := hi j
    unfold Psg.fetched
    simp only [hd, if_true]
    split <;> rfl

/-- Registers that show what they hold are the same. -/
theorem indistinct_peek {b b' : Board} (h : Indistinct b b') (hb : b.Ready)
    (hb' : b'.Ready) {i : Fin 16}
    (hi : i.val < 14 ∨
      (∀ j, b.psg.dirPort j = true) ∧ ∀ j, b'.psg.dirPort j = true) :
    b'.psg.array i &&& Psg.mask i = b.psg.array i &&& Psg.mask i := by
  have hout := (h.run (pulsed (BitVec.ofNat 8 i.val) 0xc0 ++
    [.ctrl 0x92, .wr .c 0x40])).out_eq (.rd .a 0x00)
  have hread (c : Board) (hc : c.Ready)
      (hi : i.val < 14 ∨ ∀ j, c.psg.dirPort j = true) :
      given (run ppiStep c (pulsed (BitVec.ofNat 8 i.val) 0xc0 ++
        [.ctrl 0x92, .wr .c 0x40])) (.rd .a 0x00) =
          [c.psg.array i &&& Psg.mask i] := by
    rw [run_append, run_pulsed]
    exact congrArg (fun x => [x]) (hc.peek hi 0x00)
  rw [hread b hb (hi.imp_right And.left),
    hread b' hb' (hi.imp_right And.right)] at hout
  exact (List.cons.inj hout).1

/-- All registers are the same. The ports are made outputs first, so that
their registers show what they hold. -/
theorem indistinct_array {b b' : Board} (h : Indistinct b b') (hb : b.Ready)
    (hb' : b'.Ready) (i : Fin 16) :
    b'.psg.array i &&& Psg.mask i = b.psg.array i &&& Psg.mask i := by
  by_cases hi : i.val < 14
  · exact indistinct_peek h hb hb' (.inl hi)
  · have hrun (c : Board) (hc : c.Ready) :
        let d := run ppiStep c (pulsed 0x07 0xc0 ++ pulsed 0xff 0x80)
        d.Ready ∧ (∀ j, d.psg.dirPort j = true) ∧
          d.psg.array i = c.psg.array i := by
      rw [run_append, run_pulsed, run_pulsed]
      have hr := hc.pulse_ready 0x07 0xc0
      have hp := hr.pulse_value 0xff
      rw [hc.pulse_index, Psg.setValue_of_index (i := 7) rfl] at hp
      refine ⟨hr.pulse_ready 0xff 0x80, fun j => ?_, ?_⟩
      · rw [hp, Psg.put_dirPort, if_pos rfl]
        revert j
        decide
      · rw [hp, Psg.put_array, Function.update_of_ne]
        · rfl
        · rintro rfl
          exact hi (by decide)
    obtain ⟨hr, hd, ha⟩ := hrun b hb
    obtain ⟨hr', hd', ha'⟩ := hrun b' hb'
    have hpeek := indistinct_peek (h.run _) hr hr' (.inr ⟨hd, hd'⟩) (i := i)
    rwa [ha, ha'] at hpeek

/-- With port A an input, the register that the data latch names is read. -/
theorem read_named {b : Board} (h2 : b.psgBc2 = 1) (hA : b.ppi.dirA = 1) :
    ∃ p, ∀ v, ((((b.write .c 0xc0).wrCtrlP 0x90).wrPortC 0x40).rdPortA v).1 =
      Psg.answer (Psg.setIndex b.psg b.psgData) p v := by
  obtain ⟨s, hs, hsA, hsC⟩ := drive_eq (b := b) (w := 0x90) (by decide)
    (Eq.trans (by decide) hA.symm) (by decide) 0xc0
  rw [psgUpdate_eq, strobe_function h2] at hs
  generalize (b.write .c 0xc0).wrCtrlP 0x90 = c at hs ⊢
  have hcA : c.ppi.dirA = 1 := by
    rw [hs]
    exact hsA.trans hA
  have hcC : c.ppi.dirC = 0 := by
    rw [hs]
    exact hsC
  have hc2 : c.psgBc2 = 1 := by
    rw [hs]
    exact h2
  have hpsg : c.psg = Psg.setIndex b.psg b.psgData := by
    rw [hs]
    rfl
  rw [← hpsg]
  exact ⟨_, register_read hcA hcC hc2 (by decide) (by decide)⟩

/-- Data latches in front of a port A that is an input. They name registers
together or not at all. -/
theorem indistinct_named {b b' : Board} (h : Indistinct b b')
    (h2 : b.psgBc2 = 1) (h2' : b'.psgBc2 = 1) (hA : b.ppi.dirA = 1)
    (hA' : b'.ppi.dirA = 1) :
    b.psgData.toNat < 16 ↔ b'.psgData.toNat < 16 := by
  obtain ⟨p, hp⟩ := read_named h2 hA
  obtain ⟨p', hp'⟩ := read_named h2' hA'
  have hout (v : Byte) : Psg.answer (Psg.setIndex b'.psg b'.psgData) p' v =
      Psg.answer (Psg.setIndex b.psg b.psgData) p v := by
    have hv := (h.run [.wr .c 0xc0, .ctrl 0x90, .wr .c 0x40]).out_eq (.rd .a v)
    rw [← hp, ← hp']
    exact (List.cons.inj hv).1
  -- a named register answers the same whatever the bus carries
  have hconst {s : Psg.State} (hs : s.index.toNat < 16) (q : Psg.Ports) :
      Psg.answer s q 0 = Psg.answer s q 1 := by
    rw [Psg.answer_of_index (i := ⟨_, hs⟩) rfl,
      Psg.answer_of_index (i := ⟨_, hs⟩) rfl]
  have hbus {s : Psg.State} (hs : ¬ s.index.toNat < 16) (q : Psg.Ports) :
      Psg.answer s q 0 ≠ Psg.answer s q 1 := by
    rw [Psg.answer_of_ge hs, Psg.answer_of_ge hs]
    decide
  constructor
  · intro hd
    by_contra hd'
    refine hbus (s := Psg.setIndex b'.psg b'.psgData) hd' p' ?_
    rw [hout, hout]
    exact hconst (s := Psg.setIndex b.psg b.psgData) hd p
  · intro hd'
    by_contra hd
    refine hbus (s := Psg.setIndex b.psg b.psgData) hd p ?_
    rw [← hout, ← hout]
    exact hconst (s := Psg.setIndex b'.psg b'.psgData) hd' p'

/-- The registers after the data latch was strobed onto the bus. -/
theorem indistinct_strobed {b b' : Board} (h : Indistinct b b')
    (h2 : b.psgBc2 = 1) (h2' : b'.psgBc2 = 1) (hA : b.ppi.dirA = 1)
    (hA' : b'.ppi.dirA = 1) (x : Byte) (es : List PpiEvent)
    (hes : ∀ c : Board, c.Ready → (run ppiStep c es).Ready) (i : Fin 16) :
    (run ppiStep (run ppiStep b' (strobed 0x90 x)) es).psg.array i &&&
        Psg.mask i =
      (run ppiStep (run ppiStep b (strobed 0x90 x)) es).psg.array i &&&
        Psg.mask i := by
  have hr := (run_strobed h2 (w := 0x90) (by decide)
    (Eq.trans (by decide) hA.symm) (by decide) x).1
  have hr' := (run_strobed h2' (w := 0x90) (by decide)
    (Eq.trans (by decide) hA'.symm) (by decide) x).1
  exact indistinct_array ((h.run _).run es) (hes _ hr) (hes _ hr') i

/-- A data latch that names register 0 is told apart from one that names
another register: a write changes register 0 or leaves it. -/
theorem indistinct_zero {b b' : Board} (h : Indistinct b b')
    (h2 : b.psgBc2 = 1) (h2' : b'.psgBc2 = 1) (hA : b.ppi.dirA = 1)
    (hA' : b'.ppi.dirA = 1) (hd : b.psgData.toNat < 16)
    (he : b'.psgData = 0) : b.psgData = 0 := by
  by_contra hne
  have h0 : (0 : Fin 16) ≠ ⟨b.psgData.toNat, hd⟩ := fun h0 =>
    hne (BitVec.eq_of_toNat_eq (congrArg Fin.val h0).symm)
  have hA₁ : Ppi.modeDir 0x90 .a = b.ppi.dirA := Eq.trans (by decide) hA.symm
  have hA₂ : Ppi.modeDir 0x90 .a = b'.ppi.dirA := Eq.trans (by decide) hA'.symm
  obtain ⟨hr, hset⟩ := run_strobed h2 (by decide) hA₁ (by decide) 0xc0
  obtain ⟨hr', hset'⟩ := run_strobed h2' (by decide) hA₂ (by decide) 0xc0
  have hset : (run ppiStep b (strobed 0x90 0xc0)).psg =
      Psg.setIndex b.psg b.psgData := by
    rw [hset, strobe_function h2]
    rfl
  have hset' : (run ppiStep b' (strobed 0x90 0xc0)).psg =
      Psg.setIndex b'.psg 0 := by
    rw [hset', strobe_function h2', he]
    rfl
  have hs := indistinct_strobed h h2 h2' hA hA' 0xc0
    (pulsed (~~~(b.psg.array 0)) 0x80) (fun c hc => hc.pulse_ready _ _) 0
  rw [run_pulsed, run_pulsed, hr.pulse_value, hr'.pulse_value, hset, hset',
    Psg.setValue_of_index (s := Psg.setIndex b.psg b.psgData)
      (i := ⟨_, hd⟩) rfl,
    Psg.setValue_of_index (s := Psg.setIndex b'.psg 0) (i := 0) rfl,
    Psg.put_array, Psg.put_array, Function.update_self,
    Function.update_of_ne h0, Psg.stored_of_lt _ (by decide), Psg.and_mask] at hs
  have hm : Psg.mask 0 = 0xff := rfl
  rw [hm, Psg.and_ff, Psg.and_ff] at hs
  exact absurd hs ((by decide : ∀ a : Byte, ~~~a ≠ a) _)

/-- The selected register takes the data latch when it is strobed as a value. -/
theorem indistinct_value {b b' : Board} (h : Indistinct b b')
    (h2 : b.psgBc2 = 1) (h2' : b'.psgBc2 = 1) (hA : b.ppi.dirA = 1)
    (hA' : b'.ppi.dirA = 1) (hidx : b'.psg.index = b.psg.index) {i : Fin 16}
    (hi : b.psg.index.toNat = i.val) :
    Psg.stored b'.psg (b'.strobe 0x80).psgPorts i (b'.psgData &&& Psg.mask i) &&&
        Psg.mask i =
      Psg.stored b.psg (b.strobe 0x80).psgPorts i (b.psgData &&& Psg.mask i) &&&
        Psg.mask i := by
  have hi' : b'.psg.index.toNat = i.val := by rw [hidx, hi]
  have hA₁ : Ppi.modeDir 0x90 .a = b.ppi.dirA := Eq.trans (by decide) hA.symm
  have hA₂ : Ppi.modeDir 0x90 .a = b'.ppi.dirA := Eq.trans (by decide) hA'.symm
  have hset : (run ppiStep b (strobed 0x90 0x80)).psg =
      Psg.setValue b.psg (b.strobe 0x80).psgPorts b.psgData := by
    rw [(run_strobed h2 (by decide) hA₁ (by decide) 0x80).2, strobe_function h2]
    rfl
  have hset' : (run ppiStep b' (strobed 0x90 0x80)).psg =
      Psg.setValue b'.psg (b'.strobe 0x80).psgPorts b'.psgData := by
    rw [(run_strobed h2' (by decide) hA₂ (by decide) 0x80).2,
      strobe_function h2']
    rfl
  have hs := indistinct_strobed h h2 h2' hA hA' 0x80 [] (fun _ hc => hc) i
  rwa [run_nil, run_nil, hset, hset', Psg.setValue_of_index hi,
    Psg.setValue_of_index hi', Psg.put_array, Psg.put_array,
    Function.update_self, Function.update_self] at hs

/-- Against a data latch that a load leaves, which is 0 or past the registers,
only a byte is not told apart that the generator takes alike. -/
theorem indistinct_data {b b' : Board} (h : Indistinct b b')
    (h2 : b.psgBc2 = 1) (h2' : b'.psgBc2 = 1) (hA : b.ppi.dirA = 1)
    (hA' : b'.ppi.dirA = 1) (hidx : b'.psg.index = b.psg.index)
    (hdir : b'.psg.dirPort = b.psg.dirPort)
    (he : b'.psgData = 0 ∨ 16 ≤ b'.psgData.toNat) :
    b.psg.TakesAlike b.psgData b'.psgData := by
  have hnamed := indistinct_named h h2 h2' hA hA'
  rcases he with he | he
  · have hd : b.psgData.toNat < 16 := hnamed.2 (by rw [he]; decide)
    exact .inl ((indistinct_zero h h2 h2' hA hA' hd he).trans he.symm)
  · have hd : 16 ≤ b.psgData.toNat := by omega
    refine .inr ⟨hd, he, fun i hi => ?_⟩
    have hs := indistinct_value h h2 h2' hA hA' hidx hi
    by_cases hlt : i.val < 14
    · rw [Psg.stored_of_lt _ hlt, Psg.stored_of_lt _ hlt, Psg.and_mask,
        Psg.and_mask] at hs
      exact .inl hs.symm
    · by_cases h14 : i = 14
      · subst h14
        cases hd0 : b.psg.dirPort 0 with
        | true => exact .inr (.inl ⟨rfl, rfl⟩)
        | false =>
            simp only [Psg.stored, hdir, hd0, Bool.false_eq_true, if_false,
              Psg.and_mask] at hs
            exact .inl hs.symm
      · have h15 : i = 15 := by omega
        subst h15
        cases hd1 : b.psg.dirPort 1 with
        | true => exact .inr (.inr ⟨rfl, rfl⟩)
        | false =>
            simp only [Psg.stored, hdir, hd1, Bool.false_eq_true, if_false,
              Psg.and_mask] at hs
            exact .inl hs.symm

end Xcpc.Cpc.Board
