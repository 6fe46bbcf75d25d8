import Xcpc.Proofs.MemoryMap

/-!
# The indices of the gate array

Four fields of the gate array bound what it indexes: the pen selects one of
seventeen inks, an ink one of thirty-two colors, the line one of 576
scanlines, and `r52` stays below the 52 it counts to. A write to the port masks
what it stores, and the edges of the sync signals keep the counters in range.

A snapshot is the other way in. `load_vga` copies the pen and the inks out of
the header as they are, so the range is kept by exactly the snapshots that
were in range already.
-/

namespace Xcpc.Vga

structure State.InRange (s : State) : Prop where
  pen : s.pen.toNat ≤ 16
  ink : ∀ i, (s.ink i).toNat < 32
  r52 : s.r52.toNat < 52
  frameY : s.frameY.toNat < 576

theorem and_toNat_le (x m : Byte) : (x &&& m).toNat ≤ m.toNat := by
  rw [BitVec.toNat_and]
  exact Nat.and_le_right

theorem zero_lt_52 : (0 : Byte).toNat < 52 := by decide

theorem zero_lt_576 : (0 : Word).toNat < 576 := by decide

theorem reset_inRange (s : State) : (reset s).InRange where
  pen := Nat.zero_le 16
  ink _ := Nat.zero_lt_succ 31
  r52 := zero_lt_52
  frameY := zero_lt_576

/-- In range every write is defined and stays in range. -/
theorem setValue_inRange {s : State} (h : s.InRange) (v : Byte) :
    ∃ r, setValue s v = some r ∧ r.1.InRange := by
  have hpen (b : Bool) :
      (if b then v &&& 0x10 else v &&& 0x0f : Byte).toNat ≤ 16 := by
    have h10 := and_toNat_le v 0x10
    have h0f := and_toNat_le v 0x0f
    cases b with
    | true => exact h10
    | false => exact Nat.le_trans h0f (by decide)
  unfold setValue
  split
  · exact ⟨_, rfl, hpen _, h.ink, h.r52, h.frameY⟩
  · rw [dif_pos (Nat.lt_succ_of_le h.pen)]
    refine ⟨_, rfl, h.pen, fun i => ?_, h.r52, h.frameY⟩
    simp only [Function.update_apply]
    split
    · exact Nat.lt_of_le_of_lt (and_toNat_le v 0x1f) (by decide)
    · exact h.ink i
  · refine ⟨_, rfl, h.pen, h.ink, ?_, h.frameY⟩
    simp only []
    split
    · decide
    · exact h.r52
  · exact ⟨_, rfl, h⟩

theorem ackInterrupt_inRange {s : State} (h : s.InRange) :
    (ackInterrupt s).InRange := by
  refine ⟨h.pen, h.ink, ?_, h.frameY⟩
  have hle : (s.r52 &&& 0xdf).toNat ≤ s.r52.toNat := by
    rw [BitVec.toNat_and]
    exact Nat.and_le_left
  exact Nat.lt_of_le_of_lt hle h.r52

theorem latch_inRange {s : State} (h : s.InRange) :
    ∃ line, latch s = some line := by
  have hc : ∀ i, ((s.colormap.color (s.ink i)).isSome : Bool) := by
    intro i
    unfold Colormap.color
    rw [dif_pos (h.ink i)]
    rfl
  exact ⟨_, if_pos hc⟩

theorem risingHsync_inRange {s : State} (h : s.InRange) :
    ∃ s', risingHsync s = some s' ∧ s'.InRange := by
  obtain ⟨line, hl⟩ := latch_inRange h
  unfold risingHsync
  simp only []
  split
  · rename_i hy
    rw [hl]
    exact ⟨_, rfl, h.pen, h.ink, h.r52, hy⟩
  · have h575 : (575 : Word).toNat < 576 := by decide
    exact ⟨_, rfl, h.pen, h.ink, h.r52, h575⟩

/-- `r52` counts to 52 and starts again. -/
theorem count52 {r52 : Byte} (h : r52.toNat < 52) :
    (if r52 + 1 == 52 then (0 : Byte) else r52 + 1).toNat < 52 := by
  split
  · decide
  · rename_i hne
    have : r52 + 1 ≠ 52 := by simpa using hne
    bv_omega

theorem fallingHsync_inRange {s : State} (h : s.InRange) :
    (fallingHsync s).1.InRange := by
  have hr := count52 h.r52
  unfold fallingHsync
  simp only []
  split
  · split
    · exact ⟨h.pen, h.ink, zero_lt_52, h.frameY⟩
    · exact ⟨h.pen, h.ink, hr, h.frameY⟩
  · exact ⟨h.pen, h.ink, hr, h.frameY⟩

theorem assertHsync_inRange {s : State} (h : s.InRange) (hsync : Bool) :
    ∃ r, assertHsync s hsync = some r ∧ r.1.InRange := by
  unfold assertHsync
  split
  · obtain ⟨s', hs, hr⟩ := risingHsync_inRange h
    rw [hs]
    exact ⟨_, rfl, hr⟩
  · exact ⟨_, rfl, fallingHsync_inRange h⟩

theorem assertVsync_inRange {s : State} (h : s.InRange) (vsync : Bool) :
    (assertVsync s vsync).InRange := by
  unfold assertVsync
  split
  · exact ⟨h.pen, h.ink, h.r52, zero_lt_576⟩
  · exact h

end Xcpc.Vga

namespace Xcpc.Cpc.Board

open Prog

/-- A snapshot that the check of its format accepts. -/
structure Accepted where
  state : Sna.State
  check : Sna.check state.header = .ok ()

/-- What happens to the gate array. -/
inductive VgaEvent where
  | setValue (value : Byte)
  | hsync (signal : Bool)
  | vsync (signal : Bool)
  | ackInterrupt
  | loadCpc (s : Accepted)

/-- The event on the mainboard. There is no next state when the gate array
indexes past one of its arrays. -/
def vgaStep (b : Board) : VgaEvent → Option Board
  | .setValue v => b.vgaSetValue v
  | .hsync signal => (b.assertHsync signal).map (·.1)
  | .vsync signal => some (b.assertVsync signal)
  | .ackInterrupt => some b.iorqM1
  | .loadCpc s => some (b.reset.load s.state)

/-- The snapshot holds a pen and inks that the gate array has. -/
def HeaderInRange (h : Sna.Header) : Prop :=
  h.vgaInkIx.toNat ≤ 16 ∧ ∀ i, (h.vgaInk i).toNat < 32

def VgaEvent.InRange : VgaEvent → Prop
  | .loadCpc s => HeaderInRange s.state.header
  | _ => True

/-- The run has not stopped, and the gate array is in range. -/
def Safe (b : Option Board) : Prop := ∃ b', b = some b' ∧ b'.vga.InRange

theorem vga_updatePal (b : Board) : b.updatePal.vga = b.vga := by
  obtain ⟨rd, wr, h⟩ := updatePal_eq b
  rw [h]

theorem vgaSetValue_inRange {b : Board} (h : b.vga.InRange) (v : Byte) :
    ∃ b', b.vgaSetValue v = some b' ∧ b'.vga.InRange := by
  obtain ⟨r, hr, hin⟩ := Vga.setValue_inRange h v
  unfold vgaSetValue
  rw [hr]
  refine ⟨_, rfl, ?_⟩
  simp only []
  split
  · exact hin
  · rw [vgaSetupRmr, vga_updatePal]
    exact hin
  · rw [vgaSetupRam, vga_updatePal]
    exact hin

theorem load_inRange (b : Board) (s : Sna.State) :
    (b.reset.load s).vga.InRange ↔ HeaderInRange s.header := by
  have hv : (b.reset.load s).vga =
      { Vga.reset b.vga with
        pen := s.header.vgaInkIx
        ink := s.header.vgaInk
        rmr := s.header.vgaConfig } := by
    rw [load_vga, loadVga, reset, vga_updatePal]
  rw [hv]
  constructor
  · intro h
    exact ⟨h.pen, h.ink⟩
  · intro h
    exact ⟨h.1, h.2, Vga.zero_lt_52, Vga.zero_lt_576⟩

/-- From a state in range every event leads to one, but for the load of a
snapshot that is not. -/
theorem vgaStep_safe {b : Board} (h : b.vga.InRange) (e : VgaEvent) :
    Safe (vgaStep b e) ↔ e.InRange := by
  cases e with
  | setValue v =>
      obtain ⟨b', hb, hin⟩ := vgaSetValue_inRange h v
      exact ⟨fun _ => trivial, fun _ => ⟨b', hb, hin⟩⟩
  | hsync signal =>
      obtain ⟨r, hr, hin⟩ := Vga.assertHsync_inRange h signal
      refine ⟨fun _ => trivial, fun _ =>
        ⟨{ b with vdcHsync := signal, vga := r.1 }, ?_, hin⟩⟩
      rw [vgaStep, assertHsync, hr]
      rfl
  | vsync signal =>
      exact ⟨fun _ => trivial, fun _ =>
        ⟨_, rfl, Vga.assertVsync_inRange h signal⟩⟩
  | ackInterrupt =>
      exact ⟨fun _ => trivial, fun _ => ⟨_, rfl, Vga.ackInterrupt_inRange h⟩⟩
  | loadCpc s =>
      constructor
      · intro ⟨b', hb, hin⟩
        rw [← Option.some.inj hb] at hin
        exact (load_inRange b s.state).mp hin
      · intro hs
        exact ⟨_, rfl, (load_inRange b s.state).mpr hs⟩

/-- Over every run from reset the gate array stays in range, and no access
falls outside its array, exactly when every snapshot that is loaded is in
range. -/
theorem vga_index_safe (b : Board) (es : List VgaEvent) :
    Always (fun b e => b.bind (vgaStep · e)) Safe (some b.reset) es ↔
      ∀ e ∈ es, e.InRange := by
  have hreset : Safe (some b.reset) := by
    refine ⟨_, rfl, ?_⟩
    rw [reset, vga_updatePal]
    exact Vga.reset_inRange b.vga
  refine @always_iff _ _ _ Safe (fun _ => True) _ ?_ ?_ _ trivial hreset es
  · intro _ _ _
    trivial
  · intro o e _ hs
    obtain ⟨b', rfl, hin⟩ := hs
    exact vgaStep_safe hin e

/-- A snapshot whose pen is 200. -/
def badPen : Accepted where
  state := { Sna.fresh with header := { Sna.fresh.header with vgaInkIx := 200 } }
  check := by decide +kernel

/-- The snapshot loads, and the next write of an ink falls outside. -/
theorem bad_pen_escapes :
    ¬ ∀ es, Always (fun b e => b.bind (vgaStep · e)) Safe
      (some (reset (blank .k128))) es := by
  intro h
  obtain ⟨b, hb, _⟩ := (h [.loadCpc badPen, .setValue 0x40]).2.2
  have hsome := congrArg Option.isSome hb
  rw [Option.isSome_some] at hsome
  exact absurd hsome (by decide +kernel)

end Xcpc.Cpc.Board
