import Xcpc.Proofs.PpiAccess

/-!
# The halves of port C

The two halves of port C have a direction bit each, but the interface asks of
the two bits together whether they are zero. While the halves have the same
direction that is right. While one is an output and the other an input, the
output half is treated as the input it is not: a byte written to it stays in
the latch, a bit is not set at all, and a read takes the latch from the
mainboard, which answers 0xff. A mode word that leaves one half an output and
turns the other does the same.
-/

namespace Xcpc.Cpc.Board

open Prog
open Ppi (Port)

inductive Half where
  | lower | upper
deriving DecidableEq

namespace Half

def mask : Half → Byte
  | lower => 0x0f
  | upper => 0xf0

/-- The bit of the half in `dir_c`. -/
def dir : Half → Byte
  | lower => 0x01
  | upper => 0x02

/-- The half of a byte. -/
def part (h : Half) (x : Byte) : Byte := x &&& h.mask

/-- The half is programmed as an output. -/
def Output (h : Half) (s : Ppi.State) : Prop := s.dirC &&& h.dir = 0

instance (h : Half) (s : Ppi.State) : Decidable (h.Output s) :=
  inferInstanceAs (Decidable (_ = _))

/-- The bit of a bit set/reset word is in the half. -/
def Aimed (h : Half) (v : Byte) : Prop :=
  h.part ((0x01 : Byte) <<< ((v >>> 1) &&& 0x07).toNat) ≠ 0

end Half

/-- The byte that the lines show. -/
def Lines.level (l : Lines) : Byte :=
  (l.psgBdir <<< 7) ||| (l.psgBc1 <<< 6) ||| (l.casWrData <<< 5) |||
    (l.casMotor <<< 4) ||| l.kbdLine

theorem Lines.level_of : ∀ data : Byte, (Lines.of data).level = data := by
  decide

/-- The byte on the lines of port C. -/
def pins (b : Board) : Byte := b.lines.level

/-- What an access should do to a half that is an output. -/
def Half.Law (h : Half) (b : Board) (e : PpiEvent) : Prop :=
  let b' := b.ppiStep e
  match e with
  | .wr .c v => h.part b'.ppi.portC = h.part v ∧ h.part b'.pins = h.part v
  | .ctrl v =>
      if v &&& 0x80 ≠ 0 then
        h.Output b'.ppi → h.part b'.ppi.portC = h.part b.ppi.portC
      else
        h.part b'.ppi.portC = h.part (Ppi.bsr b.ppi.portC v) ∧
          (h.Aimed v → h.part b'.pins = h.part (Ppi.bsr b.ppi.portC v))
  | _ => h.part b'.ppi.portC = h.part b.ppi.portC

/-- Both halves are outputs, or there is nothing left to do for this one. -/
def Half.Served (h : Half) (b : Board) : PpiEvent → Prop
  | .wr .c v => b.ppi.dirC = 0 ∨ h.part b.pins = h.part v
  | .rd .c _ => b.ppi.dirC = 0 ∨ h.part b.ppi.portC = h.mask
  | .ctrl v =>
      if v &&& 0x80 ≠ 0 then
        Ppi.modeDirC v = 0 ∨ Ppi.modeDirC v = b.ppi.dirC ∨
          Ppi.modeDirC v &&& h.dir ≠ 0 ∨ h.part b.ppi.portC = h.mask
      else
        b.ppi.dirC = 0 ∨ ¬ h.Aimed v ∨
          h.part (Ppi.bsr b.ppi.portC v) = h.part b.ppi.portC ∧
            h.part b.pins = h.part b.ppi.portC
  | _ => True

/-! ## The accesses -/

theorem part_ff (h : Half) : h.part 0xff = h.mask := by
  cases h <;> rfl

theorem part_clear {m n k : Byte} (hm : m &&& k = 0) (hn : n &&& k = 0)
    (x : Byte) : ((x &&& ~~~m) ||| n) &&& k = x &&& k := by
  ext i hi
  have h₁ := congrArg (·.getLsbD i) hm
  have h₂ := congrArg (·.getLsbD i) hn
  simp only [BitVec.getLsbD_and] at h₁ h₂
  simp only [BitVec.getElem_and, BitVec.getElem_or, BitVec.getElem_not]
  grind

/-- A bit outside of a half leaves it alone. -/
theorem part_bsr {h : Half} {v : Byte} (hv : ¬ h.Aimed v) (x : Byte) :
    h.part (Ppi.bsr x v) = h.part x := by
  have hm := not_not.1 hv
  refine part_clear hm ?_ x
  rw [Half.part] at hm
  rw [BitVec.shiftLeft_and_distrib, BitVec.and_assoc, hm]
  exact BitVec.and_zero

theorem law_wr (h : Half) (b : Board) (v : Byte) :
    h.Law b (.wr .c v) ↔ h.Served b (.wr .c v) := by
  by_cases hd : b.ppi.dirC = 0
  · have hl : (b.wrPortC v).pins = v := by
      show (b.write .c v).lines.level = v
      rw [write_out (p := .c) hd]
      exact (congrArg Lines.level (lines_ppiPortCWr b v)).trans
        (Lines.level_of v)
    exact ⟨fun _ => .inl hd, fun _ => ⟨rfl, congrArg h.part hl⟩⟩
  · have hl : (b.wrPortC v).pins = b.pins := by
      show (b.write .c v).lines.level = b.pins
      rw [write_in (p := .c) hd]
      rfl
    constructor
    · rintro ⟨-, hp⟩
      exact .inr (hl ▸ hp)
    · rintro (he | hp)
      · exact absurd he hd
      · exact ⟨rfl, (congrArg h.part hl).trans hp⟩

theorem law_rd (h : Half) (b : Board) (v : Byte) :
    h.Law b (.rd .c v) ↔ h.Served b (.rd .c v) := by
  by_cases hd : b.ppi.dirC = 0
  · refine ⟨fun _ => .inl hd, fun _ => ?_⟩
    show h.part (b.read .c v).2.ppi.portC = _
    rw [read_out (p := .c) hd]
  · show h.part (b.read .c v).2.ppi.portC = _ ↔ _
    rw [read_in (p := .c) hd]
    show h.part 0xff = _ ↔ _
    rw [part_ff, Half.Served, eq_comm]
    exact (or_iff_right hd).symm

theorem wrCtrlP_bit_in {b : Board} (hd : b.ppi.dirC ≠ 0) {v : Byte}
    (hv : v &&& 0x80 = 0) :
    b.wrCtrlP v = { b with ppi := { b.ppi with ctrlP := v } } := by
  rw [wrCtrlP_bit b hv]
  simp only [Ppi.setBit]
  rw [if_neg (by rw [beq_iff_eq]; exact hd)]

theorem wrCtrlP_bit_out {b : Board} (hd : b.ppi.dirC = 0) {v : Byte}
    (hv : v &&& 0x80 = 0) :
    (b.wrCtrlP v).ppi.portC = Ppi.bsr b.ppi.portC v ∧
      (b.wrCtrlP v).pins = Ppi.bsr b.ppi.portC v := by
  rw [wrCtrlP_bit b hv]
  simp only [Ppi.setBit]
  rw [if_pos (by rw [beq_iff_eq]; exact hd)]
  exact ⟨rfl, (congrArg Lines.level (lines_ppiPortCWr b _)).trans
    (Lines.level_of _)⟩

theorem law_bit (h : Half) (b : Board) {v : Byte} (hv : v &&& 0x80 = 0) :
    h.Law b (.ctrl v) ↔ h.Served b (.ctrl v) := by
  have hn : ¬ v &&& 0x80 ≠ 0 := not_not.2 hv
  simp only [Half.Law, Half.Served, if_neg hn]
  by_cases hd : b.ppi.dirC = 0
  · obtain ⟨hlatch, hpins⟩ := wrCtrlP_bit_out hd hv
    refine ⟨fun _ => .inl hd, fun _ => ⟨congrArg h.part hlatch, fun _ =>
      congrArg h.part hpins⟩⟩
  · have hb : b.ppiStep (.ctrl v) = _ := wrCtrlP_bit_in hd hv
    rw [hb, or_iff_right hd]
    by_cases ha : h.Aimed v
    · constructor
      · rintro ⟨hlatch, hpins⟩
        exact .inr ⟨hlatch.symm, (hpins ha).trans hlatch.symm⟩
      · rintro (hna | ⟨hlatch, hpins⟩)
        · exact absurd ha hna
        · exact ⟨hlatch.symm, fun _ => hpins.trans hlatch.symm⟩
    · exact ⟨fun _ => .inl ha, fun _ => ⟨(part_bsr ha _).symm,
        fun hc => absurd hc ha⟩⟩

/-- The directions and the latch after a mode word. -/
theorem mode_portC (b : Board) {v : Byte} (hv : v &&& 0x80 ≠ 0) :
    (b.wrCtrlP v).ppi.dirC = Ppi.modeDirC v ∧
      (b.wrCtrlP v).ppi.portC =
        if Ppi.modeDirC v = b.ppi.dirC ∨ Ppi.modeDirC v = 0 then b.ppi.portC
        else 0xff := by
  refine ⟨(wrCtrlP_mode_ppi b hv).2.1 .c, ?_⟩
  obtain ⟨c, -, -, hc⟩ := Ppi.setMode_latch (I := ppiInterface)
    { b.ppi with ctrlP := v } b v .c
  rw [wrCtrlP_mode b hv]
  refine hc.trans ?_
  show (if (Ppi.modeDirC v != b.ppi.dirC && Ppi.modeDirC v != 0) = true then 0xff
    else b.ppi.portC) = _
  by_cases hd : Ppi.modeDirC v = b.ppi.dirC
  · rw [bne_eq_false_iff_eq.2 hd, Bool.false_and, if_neg Bool.false_ne_true,
      if_pos (.inl hd)]
  · by_cases hz : Ppi.modeDirC v = 0
    · rw [bne_eq_false_iff_eq.2 hz, Bool.and_false, if_neg Bool.false_ne_true,
        if_pos (.inr hz)]
    · rw [bne_iff_ne.2 hd, bne_iff_ne.2 hz, if_neg (not_or.2 ⟨hd, hz⟩)]
      rfl

theorem law_mode (h : Half) (b : Board) {v : Byte} (hv : v &&& 0x80 ≠ 0) :
    h.Law b (.ctrl v) ↔ h.Served b (.ctrl v) := by
  obtain ⟨hdir, hlatch⟩ := mode_portC b hv
  simp only [Half.Law, Half.Served, if_pos hv]
  show (h.Output (b.wrCtrlP v).ppi →
    h.part (b.wrCtrlP v).ppi.portC = h.part b.ppi.portC) ↔ _
  rw [Half.Output, hdir, hlatch]
  by_cases hk : Ppi.modeDirC v = b.ppi.dirC ∨ Ppi.modeDirC v = 0
  · rw [if_pos hk]
    exact ⟨fun _ => by tauto, fun _ _ => rfl⟩
  · rw [if_neg hk, part_ff]
    obtain ⟨hne, hnz⟩ := not_or.1 hk
    constructor
    · intro hlaw
      by_cases ho : Ppi.modeDirC v &&& h.dir = 0
      · exact .inr (.inr (.inr (hlaw ho).symm))
      · exact .inr (.inr (.inl ho))
    · rintro (hz | he | hi | hs) ho
      · exact absurd hz hnz
      · exact absurd he hne
      · exact absurd ho hi
      · exact hs.symm

/-- An access to port A or B leaves the latch of port C alone. -/
theorem law_iff (h : Half) (b : Board) (e : PpiEvent) :
    h.Law b e ↔ h.Served b e := by
  cases e with
  | rd p v =>
      have hne {q : Port} (hq : Port.c ≠ q) :
          (b.read q v).2.ppi.portC = b.ppi.portC := by
        obtain ⟨x, hx, -⟩ := read_ppi b q v
        rw [hx]
        exact (Ppi.State.latch_setLatch b.ppi q .c x).trans (if_neg hq)
      cases p with
      | a => exact iff_of_true (congrArg h.part (hne (by decide))) trivial
      | b => exact iff_of_true (congrArg h.part (hne (by decide))) trivial
      | c => exact law_rd h b v
  | wr p v =>
      cases p with
      | a => exact iff_of_true rfl trivial
      | b => exact iff_of_true rfl trivial
      | c => exact law_wr h b v
  | ctrl v =>
      by_cases hv : v &&& 0x80 = 0
      · exact law_bit h b hv
      · exact law_mode h b hv

/-- Both halves of port C are served if they are outputs. -/
def HalfLaw (b : Board) (e : PpiEvent) : Prop :=
  ∀ h : Half, h.Output b.ppi → h.Law b e

/-- The accesses that the halves having one direction test in common does not
harm. -/
def HalvesServed (b : Board) (e : PpiEvent) : Prop :=
  ∀ h : Half, h.Output b.ppi → h.Served b e

/-- The two halves of port C are independent exactly while both are outputs,
or there is nothing left to do for the one that is. -/
theorem port_c_halves (b : Board) (es : List PpiEvent) :
    Along ppiStep HalfLaw b es ↔ Along ppiStep HalvesServed b es :=
  along_congr (fun b e => forall_congr' fun h =>
    imp_congr_right fun _ => law_iff h b e) b es

/-- The lower half an input and the upper one an output: the byte written to
the upper half does not get to its lines, the bit is not set, and the read
makes the latch 0xff. -/
theorem mixed_halves :
    let b := (Board.blank .k64).reset
    let mixed := b.ppiStep (.ctrl 0x81)
    let written := mixed.ppiStep (.wr .c 0x40)
    ¬ Along ppiStep HalfLaw b [.ctrl 0x81, .wr .c 0x40] ∧
      ¬ Along ppiStep HalfLaw written [.ctrl 0x0f] ∧
      ¬ Along ppiStep HalfLaw written [.rd .c 0xff] := by
  intro b mixed written
  have ho : Half.upper.Output mixed.ppi := by decide +kernel
  have ho' : Half.upper.Output written.ppi := by decide +kernel
  refine ⟨?_, ?_, ?_⟩
  · rintro ⟨-, hw, -⟩
    have hp : Half.upper.part written.pins = 0x40 := (hw .upper ho).2
    exact absurd hp (by decide +kernel)
  · rintro ⟨hs, -⟩
    have hl : Half.upper.part (written.ppiStep (.ctrl 0x0f)).ppi.portC =
        Half.upper.part (Ppi.bsr written.ppi.portC 0x0f) := (hs .upper ho').1
    exact absurd hl (by decide +kernel)
  · rintro ⟨hr, -⟩
    have hl : Half.upper.part (written.ppiStep (.rd .c 0xff)).ppi.portC =
        Half.upper.part written.ppi.portC := hr .upper ho'
    exact absurd hl (by decide +kernel)

end Xcpc.Cpc.Board
