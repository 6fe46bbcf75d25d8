import Mathlib
import Xcpc.Proofs.SoundRegisters

/-!
# The snapshot and the sound generator

`load_psg` writes the registers in the order of their indices, through the
same calls that a program makes. The write of register 7 sets the directions
of the two ports, and the writes of registers 14 and 15 come after it. A port
that is an output stores what the mainboard answers, and the mainboard, with
nothing connected there, answers `0xff`.

Every access through the parallel interface is some calls of the generator, so
what holds in all states of the generator holds here.
-/

namespace Xcpc.Cpc.Board

open Prog

/-! ## Accesses as calls -/

/-- The generator went on by some calls. -/
def Calls (b b' : Board) : Prop :=
  ∃ es, b'.psg = run Psg.step b.psg es

theorem calls_refl {b b' : Board} (h : b'.psg = b.psg) : Calls b b' :=
  ⟨[], h⟩

theorem calls_one {b b' : Board} {e : Psg.Event}
    (h : b'.psg = Psg.step b.psg e) : Calls b b' :=
  ⟨[e], h⟩

theorem calls_order : Preorder Calls where
  refl _ := calls_refl rfl
  trans := by
    rintro a b c ⟨es, h⟩ ⟨fs, h'⟩
    exact ⟨es ++ fs, by rw [run_append, ← h, h']⟩

theorem calls_psgUpdate (b : Board) (data : Byte) :
    Calls b (b.psgUpdate data) := by
  unfold psgUpdate
  split
  · exact calls_one (e := .setValue b.psgPorts data) rfl
  · split
    · exact calls_one (e := .setIndex data) rfl
    · exact calls_refl rfl

theorem ppiInterface_calls : ppiInterface.Keeps Calls where
  order := calls_order
  rd p b data := by
    cases p with
    | a =>
        show Calls b (ppiPortARd b data).2
        unfold ppiPortARd
        split
        · exact calls_one (e := .getValue b.psgPorts data) rfl
        · exact calls_refl rfl
    | b => exact calls_refl rfl
    | c => exact calls_refl rfl
  wr p b data := by
    cases p with
    | a => exact calls_psgUpdate { b with psgData := data } data
    | b => exact calls_refl rfl
    | c => exact calls_psgUpdate _ b.psgData

theorem ppiStep_calls (b : Board) (e : PpiEvent) : Calls b (b.ppiStep e) :=
  ppiStep_keeps ppiInterface_calls (fun _ _ _ h => h) b e

/-- A run of accesses is a run of calls. -/
theorem run_calls (b : Board) (es : List PpiEvent) :
    Calls b (run ppiStep b es) :=
  run_keeps (fun _ e h => calls_order.trans h (ppiStep_calls _ e))
    (calls_order.refl b) es

theorem reset_psg (b : Board) : b.reset.psg = Psg.reset := by
  obtain ⟨rd, wr, h⟩ := updatePal_eq b.cleared
  rw [reset_eq, h]
  rfl

/-- After any accesses from a reset, the fields of the generator are what its
registers say. -/
theorem reached_decoded (b : Board) (es : List PpiEvent) :
    (run ppiStep b.reset es).psg.Decoded := by
  obtain ⟨calls, h⟩ := run_calls b.reset es
  rw [h, reset_psg]
  exact run_keeps Psg.step_decoded Psg.reset_decoded calls

end Xcpc.Cpc.Board

namespace Xcpc.Psg

/-! ## The registers restored -/

/-- A register of a port that is an output holds what the mainboard answers
on that port. -/
def State.PortsAnswered (s : State) (p : Ports) : Prop :=
  (s.array 7 &&& 0x40 ≠ 0 → s.array 14 = p.aWr) ∧
    (s.array 7 &&& 0x80 ≠ 0 → s.array 15 = p.bWr)

theorem restore_index (s : State) (p : Ports) (v : Fin 16 → Byte)
    (index : Byte) : (restore s p v index).index = index := rfl

/-- Writing registers that hold no more than they can gives them back, but for
the ports. -/
theorem restore_array_iff {s : State}
    (h : ∀ i, s.array i &&& mask i = s.array i) (s₀ : State) (p : Ports) :
    (restore s₀ p s.array s.index).array = s.array ↔ s.PortsAnswered p := by
  obtain ⟨h14, h15⟩ := restore_ports s₀ p s.array s.index
  rw [h] at h14 h15
  constructor
  · intro he
    rw [he] at h14 h15
    refine ⟨fun hd => ?_, fun hd => ?_⟩
    · rw [if_pos (bne_iff_ne.2 hd)] at h14
      exact h14
    · rw [if_pos (bne_iff_ne.2 hd)] at h15
      exact h15
  · intro ⟨ha, hb⟩
    funext i
    by_cases hi : i.val < 14
    · rw [restore_array s₀ p s.array s.index hi, h]
    · have hi' : i = 14 ∨ i = 15 := by
        obtain ⟨i, hlt⟩ := i
        simp only at hi
        interval_cases i
        · exact .inl rfl
        · exact .inr rfl
      rcases hi' with rfl | rfl
      · rw [h14]
        split
        · rename_i hd
          exact (ha (bne_iff_ne.1 hd)).symm
        · rfl
      · rw [h15]
        split
        · rename_i hd
          exact (hb (bne_iff_ne.1 hd)).symm
        · rfl

end Xcpc.Psg

namespace Xcpc.Cpc.Machine

open Prog Board

/-- The registers of the generator and the index are back. -/
def PsgRestored (b b' : Board) : Prop :=
  b'.psg.array = b.psg.array ∧ b'.psg.index = b.psg.index

/-- A register of a port that register 7 makes an output holds `0xff`. -/
def PsgSaved (b : Board) : Prop :=
  (b.psg.array 7 &&& 0x40 ≠ 0 → b.psg.array 14 = 0xff) ∧
    (b.psg.array 7 &&& 0x80 ≠ 0 → b.psg.array 15 = 0xff)

theorem decoded_restored_iff {φ : Type} (F : Fdc φ) (m m' : Machine φ)
    {b : Board} (h : b.psg.Decoded) (s : Sna.State) :
    PsgRestored b (m'.loadCpc F ((m.withBoard b).saveCpc s)).board ↔
      PsgSaved b := by
  show PsgRestored b (m'.board.reset.load (b.save _)) ↔ _
  obtain ⟨-, -, -, hpsg, -⟩ := load_ppi m'.board.reset (b.save _)
  unfold PsgRestored
  rw [hpsg]
  exact (and_iff_left (Psg.restore_index ..)).trans
    (Psg.restore_array_iff h.masked _ _)

/-- After any accesses to the generator through the parallel interface, a
snapshot, loaded into any machine, restores its registers exactly when those of
the output ports hold `0xff`. -/
theorem psg_restored_iff {φ : Type} (F : Fdc φ) (m m' : Machine φ)
    (es : List PpiEvent) (s : Sna.State) :
    let b := run ppiStep m.board.reset es
    PsgRestored b (m'.loadCpc F ((m.withBoard b).saveCpc s)).board ↔
      PsgSaved b := by
  intro b
  exact decoded_restored_iff F m m' (reached_decoded m.board es) s

/-- A program writes `0x55` to register 14 while its port is an input, and
then makes the port an output. -/
def outputPort : List PpiEvent :=
  [.wr .a 14, .wr .c 0xc0, .wr .c 0x00, .wr .a 0x55, .wr .c 0x80, .wr .c 0x00,
    .wr .a 7, .wr .c 0xc0, .wr .c 0x00, .wr .a 0x40, .wr .c 0x80]

/-- A snapshot of this does not give `0x55` back. -/
theorem register14_is_lost :
    let m := Machine.blank .k64
    let b := run ppiStep m.board.reset outputPort
    ¬ PsgRestored b
      ((m.withBoard b).loadCpc .absent
        ((m.withBoard b).saveCpc Sna.fresh)).board := by
  intro m b h
  have hd := reached_decoded m.board outputPort
  have hs : PsgSaved b :=
    (decoded_restored_iff .absent m (m.withBoard b) hd Sna.fresh).1 h
  exact absurd (hs.1 (by decide +kernel)) (by decide +kernel)

end Xcpc.Cpc.Machine
