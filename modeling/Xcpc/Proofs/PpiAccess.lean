import Mathlib
import Xcpc.Proofs.Frames

/-!
# Accesses to the parallel interface

A program reads and writes three ports and the control port. What it does
there reaches the lines of port C, the sound generator and the data latch in
front of it, and leaves the rest of the mainboard alone.

Three things hold after any accesses from a reset. The lines carry the latch of
port C while that is an output, the data latch carries the latch of port A
while that is an output, and the last byte of the control port tells the
directions if it is a mode word.
-/

namespace Xcpc.Psg

/-- The directions of the ports are those of register 7. -/
def State.Directed (s : State) : Prop :=
  ∀ j : Fin 2, s.dirPort j = (s.array 7 &&& (0x40 <<< j.val) != 0)

theorem setField_dirPort (s : State) (i : Fin 16) (v : Byte) :
    (setField s i v).dirPort =
      if i = 7 then (fun j => v &&& (0x40 <<< j.val) != 0) else s.dirPort := by
  obtain ⟨i, hi⟩ := i
  interval_cases i <;> rfl

theorem stored_of_lt {s : State} {p : Ports} {i : Fin 16} (v : Byte)
    (hi : i.val < 14) : stored s p i v = v := by
  obtain ⟨i, hi'⟩ := i
  simp only at hi
  interval_cases i <;> rfl

theorem and_ff (v : Byte) : v &&& 0xff = v := BitVec.and_allOnes

/-- Registers 7, 14 and 15 are whole bytes. -/
theorem mask_whole : mask 7 = 0xff ∧ mask 14 = 0xff ∧ mask 15 = 0xff := by
  decide

theorem and_mask (v : Byte) (i : Fin 16) :
    (v &&& mask i) &&& mask i = v &&& mask i := by
  rw [BitVec.and_assoc, BitVec.and_self]

theorem reset_directed : reset.Directed := by
  unfold State.Directed
  decide

theorem setIndex_directed {s : State} (h : s.Directed) (v : Byte) :
    (setIndex s v).Directed := h

/-- The state after a value is written to register `i`. -/
def put (s : State) (p : Ports) (i : Fin 16) (v : Byte) : State :=
  { setField s i (v &&& mask i) with
    array := Function.update s.array i (stored s p i (v &&& mask i)) }

theorem put_array (s : State) (p : Ports) (i : Fin 16) (v : Byte) :
    (put s p i v).array =
      Function.update s.array i (stored s p i (v &&& mask i)) := rfl

theorem setValue_of_index {s : State} {i : Fin 16} (h : s.index.toNat = i.val)
    (p : Ports) (v : Byte) : setValue s p v = put s p i v := by
  have hi : s.index.toNat < 16 := by
    rw [h]
    exact i.isLt
  have hfin : (⟨s.index.toNat, hi⟩ : Fin 16) = i := Fin.ext h
  rw [setValue, dif_pos hi, hfin]
  rfl

theorem setValue_of_ge {s : State} (h : ¬ s.index.toNat < 16) (p : Ports)
    (v : Byte) : setValue s p v = s := by
  rw [setValue, dif_neg h]

theorem put_dirPort (s : State) (p : Ports) (i : Fin 16) (v : Byte) :
    (put s p i v).dirPort =
      if i = 7 then (fun j => v &&& (0x40 <<< j.val) != 0) else s.dirPort := by
  show (setField s i (v &&& mask i)).dirPort = _
  rw [setField_dirPort]
  by_cases h7 : i = 7
  · subst h7
    have hv : v &&& mask 7 = v := by rw [mask_whole.1, and_ff]
    rw [if_pos rfl, if_pos rfl, hv]
  · rw [if_neg h7, if_neg h7]

theorem put_directed {s : State} (h : s.Directed) (p : Ports) (i : Fin 16)
    (v : Byte) : (put s p i v).Directed := by
  intro j
  rw [put_dirPort, put_array, Function.update_apply]
  by_cases h7 : i = 7
  · subst h7
    rw [if_pos rfl, if_pos rfl, stored_of_lt _ (by decide), mask_whole.1,
      and_ff]
  · rw [if_neg h7, if_neg (Ne.symm h7)]
    exact h j

theorem setValue_directed {s : State} (h : s.Directed) (p : Ports) (v : Byte) :
    (setValue s p v).Directed := by
  by_cases hi : s.index.toNat < 16
  · rw [setValue_of_index (i := ⟨_, hi⟩) rfl]
    exact put_directed h p _ v
  · rw [setValue_of_ge hi]
    exact h

theorem getValue_directed {s : State} (h : s.Directed) (p : Ports) (v : Byte) :
    (getValue s p v).2.Directed := by
  unfold getValue
  split
  · rename_i hi
    intro j
    simp only [Function.update_apply]
    generalize (⟨s.index.toNat, hi⟩ : Fin 16) = i
    split
    · rename_i h7
      subst h7
      rw [h j]
      have hv : s.array 7 &&& mask 7 = s.array 7 := by rw [mask_whole.1, and_ff]
      rw [hv]
    · exact h j
  · exact h

/-- What reading the generator answers. -/
def answer (s : State) (p : Ports) (v : Byte) : Byte := (getValue s p v).1

/-! ## The registers written again -/

/-- A register written through its index. -/
def setReg (s : State) (p : Ports) (i : Fin 16) (v : Byte) : State :=
  setValue (setIndex s (BitVec.ofNat 8 i.val)) p v

theorem setReg_eq (s : State) (p : Ports) (i : Fin 16) (v : Byte) :
    setReg s p i v = put (setIndex s (BitVec.ofNat 8 i.val)) p i v := by
  have hi : (BitVec.ofNat 8 i.val).toNat = i.val := by
    rw [BitVec.toNat_ofNat]
    omega
  exact setValue_of_index hi p v

theorem setReg_dirPort (s : State) (p : Ports) (i : Fin 16) (v : Byte) :
    (setReg s p i v).dirPort =
      if i = 7 then (fun j => v &&& (0x40 <<< j.val) != 0) else s.dirPort := by
  rw [setReg_eq, put_dirPort]
  rfl

theorem setReg_array (s : State) (p : Ports) (i : Fin 16) (v : Byte) :
    (setReg s p i v).array =
      Function.update s.array i (stored s p i (v &&& mask i)) := by
  rw [setReg_eq]
  rfl

/-- Registers up to 13 written in any order hold their own masked value. -/
theorem setRegs_array (is : List (Fin 16)) (p : Ports) (v : Fin 16 → Byte)
    (s : State) {j : Fin 16} (hj : j.val < 14) :
    (is.foldl (fun s i => setReg s p i (v i)) s).array j =
      if j ∈ is then v j &&& mask j else s.array j := by
  induction is generalizing s with
  | nil => simp
  | cons i is ih =>
      rw [List.foldl_cons, ih, setReg_array, Function.update_apply]
      by_cases hji : j = i
      · subst hji
        simp [stored_of_lt _ hj]
      · simp [hji]

theorem setRegs_dirPort (is : List (Fin 16)) (p : Ports) (v : Fin 16 → Byte)
    (s : State) :
    (is.foldl (fun s i => setReg s p i (v i)) s).dirPort =
      if 7 ∈ is then (fun j => v 7 &&& (0x40 <<< j.val) != 0) else s.dirPort := by
  induction is generalizing s with
  | nil => simp
  | cons i is ih =>
      rw [List.foldl_cons, ih, setReg_dirPort]
      by_cases h7 : i = 7
      · subst h7
        simp
      · have h7' : 7 ≠ i := Ne.symm h7
        simp [h7, h7']

/-- The generator after `load_psg`. -/
def restore (s : State) (p : Ports) (v : Fin 16 → Byte) (index : Byte) : State :=
  setIndex ((List.finRange 16).foldl (fun s i => setReg s p i (v i)) s) index

theorem restore_dirPort (s : State) (p : Ports) (v : Fin 16 → Byte)
    (index : Byte) :
    (restore s p v index).dirPort = fun j => v 7 &&& (0x40 <<< j.val) != 0 := by
  simp only [restore, setIndex, setRegs_dirPort, List.mem_finRange, if_true]

theorem restore_array (s : State) (p : Ports) (v : Fin 16 → Byte)
    (index : Byte) {i : Fin 16} (hi : i.val < 14) :
    (restore s p v index).array i = v i &&& mask i := by
  simp only [restore, setIndex, setRegs_array _ _ _ _ hi, List.mem_finRange,
    if_true]

/-- The registers of the ports are written last, and see the directions. -/
theorem restore_ports (s : State) (p : Ports) (v : Fin 16 → Byte)
    (index : Byte) :
    (restore s p v index).array 14 =
        (if v 7 &&& 0x40 != 0 then p.aWr else v 14 &&& mask 14) ∧
      (restore s p v index).array 15 =
        (if v 7 &&& 0x80 != 0 then p.bWr else v 15 &&& mask 15) := by
  have hl : List.finRange 16 =
      [0, 1, 2, 3, 4, 5, 6, 7, 8, 9, 10, 11, 12, 13] ++ [14, 15] := by decide
  have hd := setRegs_dirPort [0, 1, 2, 3, 4, 5, 6, 7, 8, 9, 10, 11, 12, 13] p v s
  rw [if_pos (by decide)] at hd
  unfold restore
  rw [hl, List.foldl_append]
  generalize List.foldl (fun s i => setReg s p i (v i)) s
    [0, 1, 2, 3, 4, 5, 6, 7, 8, 9, 10, 11, 12, 13] = s₁ at hd ⊢
  have hd' : (setReg s₁ p 14 (v 14)).dirPort = s₁.dirPort := by
    rw [setReg_dirPort, if_neg (by decide)]
  constructor
  · show (setReg (setReg s₁ p 14 (v 14)) p 15 (v 15)).array 14 = _
    rw [setReg_array, Function.update_of_ne (by decide), setReg_array,
      Function.update_self]
    simp only [stored, hd]
    rfl
  · show (setReg (setReg s₁ p 14 (v 14)) p 15 (v 15)).array 15 = _
    rw [setReg_array, Function.update_self]
    simp only [stored, hd', hd]
    rfl

theorem answer_of_index {s : State} {i : Fin 16} (h : s.index.toNat = i.val)
    (p : Ports) (v : Byte) :
    answer s p v = fetched s p i (s.array i &&& mask i) := by
  have hi : s.index.toNat < 16 := by
    rw [h]
    exact i.isLt
  have hfin : (⟨s.index.toNat, hi⟩ : Fin 16) = i := Fin.ext h
  rw [answer, getValue, dif_pos hi, hfin]

theorem answer_of_ge {s : State} (h : ¬ s.index.toNat < 16) (p : Ports)
    (v : Byte) : answer s p v = v := by
  rw [answer, getValue, dif_neg h]

theorem fetched_of_lt {s : State} {p : Ports} {i : Fin 16} (v : Byte)
    (hi : i.val < 14) : fetched s p i v = v := by
  obtain ⟨i, hi'⟩ := i
  simp only at hi
  interval_cases i <;> rfl

end Xcpc.Psg

namespace Xcpc.Ppi

variable {σ : Type} {I : Interface σ}

/-! ## Ports and mode words -/

theorem rdPort_out {p : Port} {s : State} (h : s.dir p = 0) (m : σ) (v : Byte) :
    rdPort I p s m v = (s.latch p, s, m) := by
  rw [rdPort_eq, h]
  rfl

theorem rdPort_in {p : Port} {s : State} (h : s.dir p ≠ 0) (m : σ) (v : Byte) :
    rdPort I p s m v =
      ((I.rd p m v).1, s.setLatch p (I.rd p m v).1, (I.rd p m v).2) := by
  rw [rdPort_eq, if_pos (bne_iff_ne.2 h)]

theorem wrPort_out {p : Port} {s : State} (h : s.dir p = 0) (m : σ) (v : Byte) :
    wrPort I p s m v = (s.setLatch p v, I.wr p m v) := by
  rw [wrPort_eq, if_pos (beq_iff_eq.2 h)]

theorem wrPort_in {p : Port} {s : State} (h : s.dir p ≠ 0) (m : σ) (v : Byte) :
    wrPort I p s m v = (s.setLatch p v, m) := by
  rw [wrPort_eq, if_neg (by rw [beq_iff_eq]; exact h)]

theorem turn_same {p : Port} {s : State} {dir : Byte} (h : s.dir p = dir)
    (m : σ) : turn I p s m dir = (s, m) := by
  rw [turn_eq, h, bne_self_eq_false]
  rfl

theorem turn_in {p : Port} {s : State} {dir : Byte} (h : s.dir p = 0)
    (hd : dir ≠ 0) (m : σ) :
    turn I p s m dir =
      ((s.setDir p dir).setLatch p (I.rd p m (s.latch p)).1,
        (I.rd p m (s.latch p)).2) := by
  rw [turn_eq, if_pos (by rw [h]; exact bne_iff_ne.2 hd),
    if_pos (bne_iff_ne.2 hd)]

theorem turn_out {p : Port} {s : State} (h : s.dir p ≠ 0) (m : σ) :
    turn I p s m 0 = (s.setDir p 0, I.wr p m (s.latch p)) := by
  rw [turn_eq, if_pos (bne_iff_ne.2 (Ne.symm h))]
  rfl

theorem turn_fst (p : Port) (s : State) (m : σ) (dir : Byte) :
    (turn I p s m dir).1 = (s.setDir p dir).setLatch p
      (if dir != s.dir p && dir != 0 then (I.rd p m (s.latch p)).1
        else s.latch p) := by
  have hl : (s.setDir p dir).setLatch p (s.latch p) = s.setDir p dir := by
    cases p <;> rfl
  rw [turn_eq]
  cases h : (dir != s.dir p) with
  | true =>
      cases (dir != 0) with
      | true => rfl
      | false => exact hl.symm
  | false =>
      have he : dir = s.dir p := by simpa using h
      rw [Bool.false_and, if_neg Bool.false_ne_true, if_neg Bool.false_ne_true,
        hl, he, State.setDir_dir]

theorem turn_snd_congr {p : Port} {s t : State} (hd : t.dir p = s.dir p)
    (hl : t.latch p = s.latch p) (m : σ) (dir : Byte) :
    (turn I p t m dir).2 = (turn I p s m dir).2 := by
  simp only [turn_eq, hd, hl, apply_ite Prod.snd]

/-- A turn of a port leaves the other two alone. -/
theorem turn_ne {p q : Port} (h : q ≠ p) (s : State) (m : σ) (dir : Byte) :
    (turn I p s m dir).1.dir q = s.dir q ∧
      (turn I p s m dir).1.latch q = s.latch q := by
  rw [turn_fst]
  simp [h]

/-- A mode word latches what the mainboard answers at a port that becomes an
input, and leaves the other latches alone. -/
theorem setMode_latch (s : State) (m : σ) (v : Byte) (p : Port) :
    ∃ m', (p = .a → m' = m) ∧
      (∀ R : σ → σ → Prop, I.Keeps R → R m m') ∧
      (setMode I s m v).1.latch p =
        if modeDir v p != s.dir p && modeDir v p != 0 then
          (I.rd p m' (s.latch p)).1
        else s.latch p := by
  generalize hs : ({ s with grpA := (v >>> 5) &&& 0x03
                            grpB := (v >>> 2) &&& 0x01 } : State) = t
  have ht : t.dir p = s.dir p ∧ t.latch p = s.latch p := by
    rw [← hs]
    cases p <;> exact ⟨rfl, rfl⟩
  rw [← ht.1, ← ht.2, setMode_eq, hs]
  dsimp only
  generalize ha : turn I .a t m (modeDir v .a) = r
  generalize hb : turn I .b r.1 r.2 (modeDir v .b) = r'
  have hr (R : σ → σ → Prop) (h : I.Keeps R) : R m r.2 := by
    rw [← ha]
    exact turn_keeps h .a t m _
  have hr' (R : σ → σ → Prop) (h : I.Keeps R) : R m r'.2 := by
    rw [← hb]
    exact h.order.trans (hr R h) (turn_keeps h .b r.1 r.2 _)
  have hat {q : Port} (hq : q ≠ .a) : r.1.dir q = t.dir q ∧
      r.1.latch q = t.latch q := by
    rw [← ha]
    exact turn_ne hq t m _
  have hbt {q : Port} (hq : q ≠ .b) : r'.1.dir q = r.1.dir q ∧
      r'.1.latch q = r.1.latch q := by
    rw [← hb]
    exact turn_ne hq r.1 r.2 _
  have hct {q : Port} (hq : q ≠ .c) :
      (turn I .c r'.1 r'.2 (modeDir v .c)).1.latch q = r'.1.latch q :=
    (turn_ne hq r'.1 r'.2 _).2
  cases p with
  | a =>
      refine ⟨m, fun _ => rfl, fun R h => h.order.refl m, ?_⟩
      rw [hct (by decide), (hbt (by decide)).2, ← ha, turn_fst]
      simp
  | b =>
      refine ⟨r.2, fun h => absurd h (by decide), hr, ?_⟩
      rw [hct (by decide), ← hb, turn_fst, ← (hat (q := .b) (by decide)).1,
        ← (hat (q := .b) (by decide)).2]
      simp
  | c =>
      refine ⟨r'.2, fun h => absurd h (by decide), hr', ?_⟩
      rw [turn_fst, ← (hat (q := .c) (by decide)).1,
        ← (hat (q := .c) (by decide)).2, ← (hbt (q := .c) (by decide)).1,
        ← (hbt (q := .c) (by decide)).2]
      simp

/-- A mode word sets the directions, and leaves the latch of a port alone that
it makes an output. -/
theorem setMode_fst (s : State) (m : σ) (v : Byte) :
    let t := (setMode I s m v).1
    t.ctrlP = s.ctrlP ∧ (∀ p, t.dir p = modeDir v p) ∧
      ∀ p, modeDir v p = 0 → t.latch p = s.latch p := by
  refine ⟨?_, fun p => ?_, fun p hp => ?_⟩
  · simp only [setMode_eq, turn_fst, State.ctrlP_setLatch, State.ctrlP_setDir]
  · cases p <;> simp [setMode_eq, turn_fst]
  · obtain ⟨m', -, -, hl⟩ := setMode_latch (I := I) s m v p
    rw [hl, hp, bne_self_eq_false, Bool.and_false, if_neg Bool.false_ne_true]

end Xcpc.Ppi

namespace Xcpc.Cpc.Board

open Prog
open Ppi (Port)

/-! ## The lines of port C -/

/-- What port C drives. -/
structure Lines where
  psgBdir : Byte
  psgBc1 : Byte
  casMotor : Byte
  casWrData : Byte
  kbdLine : Byte
deriving DecidableEq

def lines (b : Board) : Lines :=
  ⟨b.psgBdir, b.psgBc1, b.casMotor, b.casWrData, b.kbd.line⟩

/-- The levels that `ppi_port_c_wr` gives them. -/
def Lines.of (data : Byte) : Lines where
  psgBdir := (data &&& 0x80) >>> 7
  psgBc1 := (data &&& 0x40) >>> 6
  casMotor := (data &&& 0x10) >>> 4
  casWrData := (data &&& 0x20) >>> 5
  kbdLine := data &&& 0x0f

theorem Lines.of_zero : Lines.of 0 = ⟨0, 0, 0, 0, 0⟩ := by
  decide

/-- Every bit of port C drives something. -/
theorem Lines.of_injective : Function.Injective Lines.of := by
  have hinv : ∀ d : Byte, ((Lines.of d).psgBdir <<< 7) |||
      ((Lines.of d).psgBc1 <<< 6) ||| ((Lines.of d).casWrData <<< 5) |||
      ((Lines.of d).casMotor <<< 4) ||| (Lines.of d).kbdLine = d := by
    decide
  intro d d' h
  rw [← hinv d, h, hinv d']

theorem lines_psgUpdate (b : Board) (data : Byte) :
    (b.psgUpdate data).lines = b.lines := by
  unfold psgUpdate
  split
  · rfl
  · split
    · rfl
    · rfl

theorem lines_ppiPortCWr (b : Board) (data : Byte) :
    (b.ppiPortCWr data).lines = .of data := by
  unfold ppiPortCWr
  rw [lines_psgUpdate]
  rfl

/-- The interface with the lines of port C disconnected. Only a write of port
C and a turn of its direction use them. -/
def offC : Ppi.Interface Board := { ppiInterface with cWr := fun b _ => b }

theorem offC_keeps : offC.Keeps fun b b' => b'.lines = b.lines where
  order := ⟨fun _ => rfl, fun h h' => h'.trans h⟩
  rd p b data := by
    cases p with
    | a =>
        show (ppiPortARd b data).2.lines = b.lines
        unfold ppiPortARd
        split
        · rfl
        · rfl
    | b => rfl
    | c => rfl
  wr p b data := by
    cases p with
    | a => exact lines_psgUpdate { b with psgData := data } data
    | b => rfl
    | c => rfl

theorem psgData_psgUpdate (b : Board) (data : Byte) :
    (b.psgUpdate data).psgData = b.psgData := by
  unfold psgUpdate
  split
  · rfl
  · split
    · rfl
    · rfl

/-- The interface with the data latch disconnected. Only a write of port A and
a turn of its direction use it. -/
def offA : Ppi.Interface Board := { ppiInterface with aWr := fun b _ => b }

theorem offA_keeps : offA.Keeps fun b b' => b'.psgData = b.psgData where
  order := ⟨fun _ => rfl, fun h h' => h'.trans h⟩
  rd p b data := by
    cases p with
    | a =>
        show (ppiPortARd b data).2.psgData = b.psgData
        unfold ppiPortARd
        split
        · rfl
        · rfl
    | b => rfl
    | c => rfl
  wr p b data := by
    cases p with
    | a => rfl
    | b => rfl
    | c => exact psgData_psgUpdate _ b.psgData

/-! ## Accesses -/

/-- A read of a port. -/
def read (b : Board) : Port → Byte → Byte × Board
  | .a => b.rdPortA
  | .b => b.rdPortB
  | .c => b.rdPortC

def write (b : Board) : Port → Byte → Board
  | .a => b.wrPortA
  | .b => b.wrPortB
  | .c => b.wrPortC

theorem read_eq (b : Board) (p : Port) (v : Byte) :
    b.read p v = b.ppiRead (Ppi.rdPort ppiInterface p) v := by
  cases p <;> rfl

theorem write_eq (b : Board) (p : Port) (v : Byte) :
    b.write p v = b.ppiWrite (Ppi.wrPort ppiInterface p) v := by
  cases p <;> rfl

theorem read_out {b : Board} {p : Port} (h : b.ppi.dir p = 0) (v : Byte) :
    b.read p v = (b.ppi.latch p, b) := by
  rw [read_eq, ppiRead, Ppi.rdPort_out h]

theorem read_in {b : Board} {p : Port} (h : b.ppi.dir p ≠ 0) (v : Byte) :
    b.read p v =
      ((ppiInterface.rd p b v).1,
        { (ppiInterface.rd p b v).2 with
          ppi := b.ppi.setLatch p (ppiInterface.rd p b v).1 }) := by
  rw [read_eq, ppiRead, Ppi.rdPort_in h]

theorem write_out {b : Board} {p : Port} (h : b.ppi.dir p = 0) (v : Byte) :
    b.write p v =
      { ppiInterface.wr p b v with ppi := b.ppi.setLatch p v } := by
  rw [write_eq, ppiWrite, Ppi.wrPort_out h]

theorem write_in {b : Board} {p : Port} (h : b.ppi.dir p ≠ 0) (v : Byte) :
    b.write p v = { b with ppi := b.ppi.setLatch p v } := by
  rw [write_eq, ppiWrite, Ppi.wrPort_in h]

/-- What a read of port A sees of an input. -/
theorem ppiPortARd_fst (b : Board) (data : Byte) :
    (b.ppiPortARd data).1 =
      if b.psgFunction == 0x03 then Psg.answer b.psg b.psgPorts data
      else 0xff := by
  unfold ppiPortARd
  split
  · rfl
  · rfl

inductive PpiEvent where
  | rd (p : Port) (v : Byte)
  | wr (p : Port) (v : Byte)
  | ctrl (v : Byte)

def ppiStep (b : Board) : PpiEvent → Board
  | .rd p v => (b.read p v).2
  | .wr p v => b.write p v
  | .ctrl v => b.wrCtrlP v

/-- An access moves the mainboard as its side of the ports moves. -/
theorem ppiStep_keeps {R : Board → Board → Prop} (hI : ppiInterface.Keeps R)
    (hR : ∀ b b' s, R b b' → R b { b' with ppi := s }) (b : Board)
    (e : PpiEvent) : R b (b.ppiStep e) := by
  cases e with
  | rd p v =>
      rw [ppiStep, read_eq]
      exact hR b _ _ (Ppi.rdPort_keeps hI p b.ppi b v)
  | wr p v =>
      rw [ppiStep, write_eq]
      exact hR b _ _ (Ppi.wrPort_keeps hI p b.ppi b v)
  | ctrl v => exact hR b _ _ (Ppi.wrCtrlP_keeps hI b.ppi b v)

/-- No access presses a key, and register 7 keeps the directions of the
generator. -/
def Within (b b' : Board) : Prop :=
  b'.kbd.keys = b.kbd.keys ∧ (b.psg.Directed → b'.psg.Directed)

theorem within_psgUpdate (b : Board) (data : Byte) :
    Within b (b.psgUpdate data) := by
  unfold psgUpdate
  split
  · exact ⟨rfl, fun h => Psg.setValue_directed h b.psgPorts data⟩
  · split
    · exact ⟨rfl, fun h => Psg.setIndex_directed h data⟩
    · exact ⟨rfl, fun h => h⟩

theorem ppiInterface_within : ppiInterface.Keeps Within where
  order := ⟨fun _ => ⟨rfl, fun h => h⟩,
    fun h h' => ⟨h'.1.trans h.1, fun hd => h'.2 (h.2 hd)⟩⟩
  rd p b data := by
    cases p with
    | a =>
        show Within b (ppiPortARd b data).2
        unfold ppiPortARd
        split
        · exact ⟨rfl, fun h => Psg.getValue_directed h b.psgPorts data⟩
        · exact ⟨rfl, fun h => h⟩
    | b => exact ⟨rfl, fun h => h⟩
    | c => exact ⟨rfl, fun h => h⟩
  wr p b data := by
    cases p with
    | a => exact within_psgUpdate { b with psgData := data } data
    | b => exact ⟨rfl, fun h => h⟩
    | c => exact within_psgUpdate _ b.psgData

theorem ppiStep_within (b : Board) (e : PpiEvent) : Within b (b.ppiStep e) :=
  ppiStep_keeps ppiInterface_within (fun _ _ _ h => h) b e

theorem offPpi_ppiStep (b : Board) (e : PpiEvent) :
    (b.ppiStep e).offPpi = b.offPpi :=
  ppiStep_keeps ppiInterface_keeps (fun _ _ _ h => h) b e

/-! ## What the accesses keep -/

/-- While port C is an output, its lines carry its latch. -/
def Driven (b : Board) : Prop :=
  b.ppi.dirC = 0 → b.lines = .of b.ppi.portC

/-- While port A is an output, the data latch carries its latch. -/
def Fed (b : Board) : Prop :=
  b.ppi.dirA = 0 → b.psgData = b.ppi.portA

/-- The last byte of the control port tells the directions, if it is a mode
word. -/
def Moded (b : Board) : Prop :=
  b.ppi.ctrlP &&& 0x80 ≠ 0 → ∀ p, b.ppi.dir p = Ppi.modeDir b.ppi.ctrlP p

theorem wrCtrlP_mode (b : Board) {v : Byte} (hv : v &&& 0x80 ≠ 0) :
    b.wrCtrlP v =
      let r := Ppi.setMode ppiInterface { b.ppi with ctrlP := v } b v
      { r.2 with ppi := r.1 } := by
  unfold wrCtrlP ppiWrite Ppi.wrCtrlP
  rw [if_pos (bne_iff_ne.2 hv)]

theorem wrCtrlP_bit (b : Board) {v : Byte} (hv : v &&& 0x80 = 0) :
    b.wrCtrlP v =
      let r := Ppi.setBit ppiInterface { b.ppi with ctrlP := v } b v
      { r.2 with ppi := r.1 } := by
  unfold wrCtrlP ppiWrite Ppi.wrCtrlP
  rw [hv]
  rfl

/-- A read latches what it answers from an input. -/
theorem read_ppi (b : Board) (p : Port) (v : Byte) :
    ∃ x, (b.read p v).2.ppi = b.ppi.setLatch p x ∧
      (b.ppi.dir p = 0 → x = b.ppi.latch p) := by
  by_cases h : b.ppi.dir p = 0
  · rw [read_out h]
    exact ⟨_, (Ppi.State.setLatch_latch b.ppi p).symm, fun _ => rfl⟩
  · rw [read_in h]
    exact ⟨_, rfl, fun he => absurd he h⟩

/-- A read does not change the latch of an output. -/
theorem read_latch {b : Board} {p q : Port} (v : Byte)
    (h : b.ppi.dir q = 0) : (b.read p v).2.ppi.latch q = b.ppi.latch q := by
  obtain ⟨x, hx, hlatch⟩ := read_ppi b p v
  rw [hx, Ppi.State.latch_setLatch]
  split
  · rename_i hq
    subst hq
    exact hlatch h
  · rfl

theorem read_dir (b : Board) (p q : Port) (v : Byte) :
    (b.read p v).2.ppi.dir q = b.ppi.dir q := by
  obtain ⟨x, hx, -⟩ := read_ppi b p v
  rw [hx, Ppi.State.dir_setLatch]

theorem lines_read (b : Board) (p : Port) (v : Byte) :
    (b.read p v).2.lines = b.lines := by
  rw [read_eq]
  cases p with
  | a => exact Ppi.rdPort_keeps offC_keeps .a b.ppi b v
  | b => exact Ppi.rdPort_keeps offC_keeps .b b.ppi b v
  | c => exact Ppi.rdPort_keeps offC_keeps .c b.ppi b v

theorem psgData_read (b : Board) (p : Port) (v : Byte) :
    (b.read p v).2.psgData = b.psgData := by
  rw [read_eq]
  cases p with
  | a => exact Ppi.rdPort_keeps offA_keeps .a b.ppi b v
  | b => exact Ppi.rdPort_keeps offA_keeps .b b.ppi b v
  | c => exact Ppi.rdPort_keeps offA_keeps .c b.ppi b v

theorem driven_read {b : Board} (h : b.Driven) (p : Port) (v : Byte) :
    (b.read p v).2.Driven := by
  intro hd
  have hC : b.ppi.dir .c = 0 := (read_dir b p .c v).symm.trans hd
  rw [lines_read, h hC]
  exact congrArg Lines.of (read_latch v hC).symm

theorem fed_read {b : Board} (h : b.Fed) (p : Port) (v : Byte) :
    (b.read p v).2.Fed := by
  intro hd
  have hA : b.ppi.dir .a = 0 := (read_dir b p .a v).symm.trans hd
  rw [psgData_read, h hA]
  exact (read_latch v hA).symm

theorem moded_read {b : Board} (h : b.Moded) (p : Port) (v : Byte) :
    (b.read p v).2.Moded := by
  obtain ⟨x, hx, -⟩ := read_ppi b p v
  unfold Moded
  rw [hx, Ppi.State.ctrlP_setLatch]
  intro hm q
  rw [Ppi.State.dir_setLatch]
  exact h hm q

theorem driven_write {b : Board} (h : b.Driven) (p : Port) (v : Byte) :
    (b.write p v).Driven := by
  intro hd
  cases p with
  | a =>
      have hl : (b.wrPortA v).lines = b.lines :=
        Ppi.wrPort_keeps offC_keeps .a b.ppi b v
      exact hl.trans (h hd)
  | b => exact (Ppi.wrPort_keeps offC_keeps .b b.ppi b v).trans (h hd)
  | c =>
      have hC : b.ppi.dir .c = 0 := hd
      rw [write_out hC]
      exact lines_ppiPortCWr b v

theorem fed_write {b : Board} (h : b.Fed) (p : Port) (v : Byte) :
    (b.write p v).Fed := by
  intro hd
  cases p with
  | a =>
      have hA : b.ppi.dir .a = 0 := hd
      rw [write_out hA]
      exact psgData_psgUpdate { b with psgData := v } v
  | b => exact (Ppi.wrPort_keeps offA_keeps .b b.ppi b v).trans (h hd)
  | c =>
      have hl : (b.wrPortC v).psgData = b.psgData :=
        Ppi.wrPort_keeps offA_keeps .c b.ppi b v
      exact hl.trans (h hd)

theorem moded_write {b : Board} (h : b.Moded) (p : Port) (v : Byte) :
    (b.write p v).Moded := by
  cases p with
  | a => exact fun hm q => (Ppi.State.dir_setLatch b.ppi .a q v).trans (h hm q)
  | b => exact fun hm q => (Ppi.State.dir_setLatch b.ppi .b q v).trans (h hm q)
  | c => exact fun hm q => (Ppi.State.dir_setLatch b.ppi .c q v).trans (h hm q)

/-- Turning port C to an output drives its lines. -/
theorem lines_turnC {s : Ppi.State} {b : Board}
    (h : s.dir .c = 0 → b.lines = .of s.portC) :
    (Ppi.turn ppiInterface .c s b 0).2.lines = .of s.portC := by
  by_cases hs : s.dir .c = 0
  · rw [Ppi.turn_same hs]
    exact h hs
  · rw [Ppi.turn_out hs]
    exact lines_ppiPortCWr b s.portC

/-- Turning port A to an output feeds the data latch. -/
theorem psgData_turnA {s : Ppi.State} {b : Board}
    (h : s.dir .a = 0 → b.psgData = s.portA) :
    (Ppi.turn ppiInterface .a s b 0).2.psgData = s.portA := by
  by_cases hs : s.dir .a = 0
  · rw [Ppi.turn_same hs]
    exact h hs
  · rw [Ppi.turn_out hs]
    exact psgData_psgUpdate { b with psgData := s.portA } s.portA

/-- The lines after a mode word that makes port C an output. -/
theorem lines_setMode {s : Ppi.State} {b : Board} {v : Byte}
    (hC : Ppi.modeDir v .c = 0) (h : s.dir .c = 0 → b.lines = .of s.portC) :
    (Ppi.setMode ppiInterface s b v).2.lines = .of s.portC := by
  generalize hs : ({ s with grpA := (v >>> 5) &&& 0x03
                            grpB := (v >>> 2) &&& 0x01 } : Ppi.State) = t
  have ht : t.dir .c = s.dir .c ∧ t.latch .c = s.latch .c := by
    rw [← hs]
    exact ⟨rfl, rfl⟩
  rw [Ppi.setMode_eq, hs]
  dsimp only
  generalize ha : Ppi.turn ppiInterface .a t b (Ppi.modeDir v .a) = r
  generalize hb : Ppi.turn ppiInterface .b r.1 r.2 (Ppi.modeDir v .b) = r'
  have hac := Ppi.turn_ne (I := ppiInterface) (p := .a) (q := .c) (by decide) t b
    (Ppi.modeDir v .a)
  have hbc := Ppi.turn_ne (I := ppiInterface) (p := .b) (q := .c) (by decide) r.1
    r.2 (Ppi.modeDir v .b)
  have hla : r.2.lines = b.lines := by
    rw [← ha]
    exact Ppi.turn_keeps offC_keeps .a t b _
  have hlb : r'.2.lines = r.2.lines := by
    rw [← hb]
    exact Ppi.turn_keeps offC_keeps .b r.1 r.2 _
  rw [ha] at hac
  rw [hb] at hbc
  have hlatch : r'.1.portC = s.portC := (hbc.2.trans hac.2).trans ht.2
  rw [hC, lines_turnC fun hd => ?_, hlatch]
  rw [hlb, hla, hlatch]
  exact h ((ht.1.symm.trans hac.1.symm).trans (hbc.1.symm.trans hd))

/-- The data latch after a mode word that makes port A an output. -/
theorem psgData_setMode {s : Ppi.State} {b : Board} {v : Byte}
    (hA : Ppi.modeDir v .a = 0) (h : s.dir .a = 0 → b.psgData = s.portA) :
    (Ppi.setMode ppiInterface s b v).2.psgData = s.portA := by
  rw [Ppi.setMode_eq, hA]
  have ho := offA_keeps.order
  refine Eq.trans ?_ (psgData_turnA (s := { s with
    grpA := (v >>> 5) &&& 0x03, grpB := (v >>> 2) &&& 0x01 }) h)
  exact ho.trans (Ppi.turn_keeps offA_keeps .b _ _ _)
    (Ppi.turn_keeps offA_keeps .c _ _ _)

/-- A turn of port B is nothing to the mainboard. -/
theorem turnB_board (s : Ppi.State) (b : Board) (dir : Byte) :
    (Ppi.turn ppiInterface .b s b dir).2 = b := by
  rw [Ppi.turn_eq]
  split
  · split
    · rfl
    · rfl
  · rfl

/-- What a mode word leaves of the ports that it makes outputs. -/
theorem wrCtrlP_mode_ppi (b : Board) {v : Byte} (hv : v &&& 0x80 ≠ 0) :
    let t := (b.wrCtrlP v).ppi
    t.ctrlP = v ∧ (∀ p, t.dir p = Ppi.modeDir v p) ∧
      ∀ p, Ppi.modeDir v p = 0 → t.latch p = b.ppi.latch p := by
  have hm := Ppi.setMode_fst (I := ppiInterface) { b.ppi with ctrlP := v } b v
  rw [wrCtrlP_mode b hv]
  refine ⟨hm.1, hm.2.1, fun p hp => (hm.2.2 p hp).trans ?_⟩
  cases p <;> rfl

/-- The mainboard after a mode word that leaves port C as it is. -/
theorem wrCtrlP_sameC {b : Board} {v : Byte} (hv : v &&& 0x80 ≠ 0)
    (h : b.ppi.dir .c = Ppi.modeDir v .c) :
    ∃ t, b.wrCtrlP v =
      { (Ppi.turn ppiInterface .a b.ppi b (Ppi.modeDir v .a)).2 with
        ppi := t } := by
  have hc := b.ppi.control_keeps v ((v >>> 5) &&& 0x03) ((v >>> 2) &&& 0x01)
  rw [wrCtrlP_mode b hv, Ppi.setMode_eq]
  dsimp only
  rw [Ppi.turn_same (p := .c), turnB_board,
    Ppi.turn_snd_congr (hc .a).1 (hc .a).2]
  · exact ⟨_, rfl⟩
  · rw [(Ppi.turn_ne (by decide) _ _ _).1, (Ppi.turn_ne (by decide) _ _ _).1,
      (hc .c).1]
    exact h

/-- The mainboard after a mode word that leaves port A as it is and makes port
C an output. -/
theorem wrCtrlP_sameA {b : Board} {v : Byte} (hv : v &&& 0x80 ≠ 0)
    (hA : b.ppi.dir .a = Ppi.modeDir v .a) (hC : Ppi.modeDir v .c = 0) :
    ∃ t, b.wrCtrlP v =
      { (if b.ppi.dir .c = 0 then b else b.ppiPortCWr b.ppi.portC) with
        ppi := t } := by
  have hc := b.ppi.control_keeps v ((v >>> 5) &&& 0x03) ((v >>> 2) &&& 0x01)
  rw [wrCtrlP_mode b hv, Ppi.setMode_eq]
  dsimp only
  generalize ({ b.ppi with
    ctrlP := v, grpA := (v >>> 5) &&& 0x03, grpB := (v >>> 2) &&& 0x01 } :
      Ppi.State) = t at hc ⊢
  have hb := Ppi.turn_ne (I := ppiInterface) (p := .b) (q := .c) (by decide) t b
    (Ppi.modeDir v .b)
  rw [(hc .c).1, (hc .c).2] at hb
  rw [Ppi.turn_same (p := .a) ((hc .a).1.trans hA), turnB_board, hC]
  split
  · rename_i hd
    rw [Ppi.turn_same (hb.1.trans hd)]
    exact ⟨_, rfl⟩
  · rename_i hd
    rw [Ppi.turn_out fun he => hd (hb.1.symm.trans he), hb.2]
    exact ⟨_, rfl⟩

theorem driven_wrCtrlP {b : Board} (h : b.Driven) (v : Byte) :
    (b.wrCtrlP v).Driven := by
  intro hd
  by_cases hv : v &&& 0x80 = 0
  · rw [wrCtrlP_bit b hv] at hd ⊢
    simp only [Ppi.setBit] at hd ⊢
    by_cases hC : b.ppi.dirC = 0
    · rw [hC]
      exact lines_ppiPortCWr b (Ppi.bsr b.ppi.portC v)
    · have hne : (b.ppi.dirC == 0) = false := beq_eq_false_iff_ne.2 hC
      rw [hne] at hd
      exact absurd hd hC
  · obtain ⟨-, hdir, hlatch⟩ := wrCtrlP_mode_ppi b hv
    have hC : Ppi.modeDir v .c = 0 := (hdir .c).symm.trans hd
    have hlines := lines_setMode hC (s := { b.ppi with ctrlP := v }) h
    rw [wrCtrlP_mode b hv] at hlatch ⊢
    exact hlines.trans (congrArg Lines.of (hlatch .c hC).symm)

theorem fed_wrCtrlP {b : Board} (h : b.Fed) (v : Byte) :
    (b.wrCtrlP v).Fed := by
  intro hd
  by_cases hv : v &&& 0x80 = 0
  · rw [wrCtrlP_bit b hv] at hd ⊢
    simp only [Ppi.setBit] at hd ⊢
    split
    · rename_i hC
      rw [if_pos hC] at hd
      exact (psgData_psgUpdate _ b.psgData).trans (h hd)
    · rename_i hC
      rw [if_neg hC] at hd
      exact h hd
  · obtain ⟨-, hdir, hlatch⟩ := wrCtrlP_mode_ppi b hv
    have hA : Ppi.modeDir v .a = 0 := (hdir .a).symm.trans hd
    have hdata := psgData_setMode hA (s := { b.ppi with ctrlP := v }) h
    rw [wrCtrlP_mode b hv] at hlatch ⊢
    exact hdata.trans (hlatch .a hA).symm

theorem moded_wrCtrlP (b : Board) (v : Byte) : (b.wrCtrlP v).Moded := by
  intro hm
  by_cases hv : v &&& 0x80 = 0
  · rw [wrCtrlP_bit b hv] at hm
    simp only [Ppi.setBit] at hm
    split at hm
    · exact absurd hv hm
    · exact absurd hv hm
  · obtain ⟨hc, hdir, -⟩ := wrCtrlP_mode_ppi b hv
    rw [hc]
    exact hdir

/-- What holds of a mainboard that started at `b₀` and had nothing but its
parallel interface accessed. -/
structure Reached (b₀ b : Board) : Prop where
  frame : b.offPpi = b₀.offPpi
  keys : b.kbd.keys = fun _ => 0xff
  directed : b.psg.Directed
  driven : b.Driven
  fed : b.Fed
  moded : b.Moded

theorem reached_reset (b : Board) : Reached b.reset b.reset := by
  obtain ⟨rd, wr, h⟩ := updatePal_eq b.cleared
  refine ⟨rfl, ?_, ?_, ?_, ?_, ?_⟩
  · rw [reset_eq, h]
    rfl
  · rw [reset_eq, h]
    exact Psg.reset_directed
  · rw [reset_eq, h]
    exact fun _ => Lines.of_zero.symm
  · rw [reset_eq, h]
    exact fun _ => rfl
  · rw [reset_eq, h]
    exact fun hm => absurd (by decide : Ppi.reset.ctrlP &&& 0x80 = 0) hm

theorem reached_step {b₀ b : Board} (h : Reached b₀ b) (e : PpiEvent) :
    Reached b₀ (b.ppiStep e) := by
  obtain ⟨hkeys, hdir⟩ := ppiStep_within b e
  have hframe := (offPpi_ppiStep b e).trans h.frame
  cases e with
  | rd p v =>
      exact ⟨hframe, hkeys.trans h.keys, hdir h.directed,
        driven_read h.driven p v, fed_read h.fed p v, moded_read h.moded p v⟩
  | wr p v =>
      exact ⟨hframe, hkeys.trans h.keys, hdir h.directed,
        driven_write h.driven p v, fed_write h.fed p v,
        moded_write h.moded p v⟩
  | ctrl v =>
      exact ⟨hframe, hkeys.trans h.keys, hdir h.directed,
        driven_wrCtrlP h.driven v, fed_wrCtrlP h.fed v, moded_wrCtrlP b v⟩

theorem reached_run (b : Board) (es : List PpiEvent) :
    Reached b.reset (run ppiStep b.reset es) :=
  @run_keeps _ _ ppiStep (Reached b.reset) (fun _ e h => reached_step h e)
    b.reset (reached_reset b) es

/-- What a reset leaves of the mainboard's side of the interface. -/
theorem reset_ppi (b : Board) :
    b.reset.ppi = Ppi.reset ∧ b.reset.kbd = Kbd.reset ∧
      b.reset.psgBc2 = b.psgBc2 ∧
      b.reset.ppiPortBRd =
        ppiPortBRd { b with casRdData := 0, vdcVsync := false } := by
  obtain ⟨rd, wr, h⟩ := updatePal_eq b.cleared
  rw [reset_eq, h]
  exact ⟨rfl, rfl, rfl, rfl⟩

/-- The parallel interface, its lines, the keyboard and the sound generator
after a load are what `load_ppi` and `load_psg` leave. -/
theorem load_ppi (b : Board) (s : Sna.State) :
    let c := ((b.loadVga s.header).loadVdc s.header).loadPpi s.header
    (b.load s).ppi = c.ppi ∧ (b.load s).lines = c.lines ∧
      (b.load s).kbd = c.kbd ∧
      (b.load s).psg =
        Psg.restore c.psg c.psgPorts s.header.psgReg s.header.psgRegIx ∧
      (b.load s).ppiPortBRd = c.ppiPortBRd ∧
      (b.load s).psgBc2 = c.psgBc2 ∧ (b.load s).psgData = c.psgData := by
  obtain ⟨rd, wr, h⟩ := updatePal_eq (b.loaded s)
  rw [load_eq, h, loaded]
  simp only []
  generalize ((b.loadVga s.header).loadVdc s.header).loadPpi s.header = c
  simp only [storeMem, loadRom, loadRam, loadPsg]
  exact ⟨trivial, rfl, trivial, rfl, rfl, trivial, trivial⟩

end Xcpc.Cpc.Board
