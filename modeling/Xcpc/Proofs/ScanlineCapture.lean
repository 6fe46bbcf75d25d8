import Xcpc.Proofs.RasterInterrupts

/-!
# The scanlines that the gate array captures

At each rising edge of hsync the gate array keeps the mode and the inks of the
line for the renderer, in an array that starts again with vsync. The edges
after a vsync fill it in their order, as long as it has room.

`assert_hsync` advances its index before it stores, and vsync sets the index to
0, so the entries filled are those from 1 on. The first one, which the renderer
reads for the first line of the image, is as `reset` left it in every run.
-/

namespace Xcpc.Vga

open Prog

/-- The mode and the inks in force, with their pixels. -/
def captured (s : State) : Scanline := (latch s).getD .zero

def rises (es : List Event) : Nat := es.count (.hsync true)

def captures (s : State) : List Event → List Scanline
  | [] => []
  | e :: es =>
      (if e = .hsync true then [captured s] else []) ++ captures (step s e) es

theorem length_captures (s : State) (es : List Event) :
    (captures s es).length = rises es := by
  induction es generalizing s with
  | nil => rfl
  | cons e es ih =>
      rw [captures, List.length_append, ih, rises, rises, List.count_cons]
      by_cases he : e = .hsync true
      · subst he
        rw [if_pos rfl, Nat.add_comm]
        rfl
      · rw [if_neg he, if_neg (by simpa using he), Nat.add_comm]
        rfl

theorem step_rise {s : State} (h : s.InRange) (k : Fin 576) :
    (step s (.hsync true)).frameY.toNat = min (s.frameY.toNat + 1) 575 ∧
      (step s (.hsync true)).scanline k =
        if k.val = s.frameY.toNat + 1 then captured s else s.scanline k := by
  obtain ⟨line, hl⟩ := latch_inRange h
  have hy := h.frameY
  have hadd : (s.frameY + 1).toNat = s.frameY.toNat + 1 := by bv_omega
  have hc : captured s = line := by rw [captured, hl]; rfl
  simp only [step, call, assertHsync, risingHsync, if_pos, hl, hc]
  split
  · rename_i hlt
    refine ⟨?_, ?_⟩
    · show (s.frameY + 1).toNat = _
      omega
    · show Function.update s.scanline _ line k = _
      simp only [Function.update_apply, Fin.ext_iff, hadd]
  · rename_i hlt
    refine ⟨?_, ?_⟩
    · show 575 = _
      omega
    · rw [if_neg (by omega)]
      rfl

/-- Next to the rising edges no call touches the scanlines, and vsync puts the
index back. -/
theorem step_index {s : State} {e : Event} (he : e ≠ .hsync true) :
    (step s e).scanline = s.scanline ∧
      (step s e).frameY = if e = .vsync true then 0 else s.frameY := by
  cases e with
  | setValue v =>
      simp only [step, call, setValue]
      split
      · exact ⟨rfl, rfl⟩
      · split <;> exact ⟨rfl, rfl⟩
      · exact ⟨rfl, rfl⟩
      · exact ⟨rfl, rfl⟩
  | hsync x =>
      cases x with
      | false =>
          show (fallingHsync s).1.scanline = _ ∧ (fallingHsync s).1.frameY = _
          simp only [fallingHsync]
          split
          · split <;> exact ⟨rfl, rfl⟩
          · exact ⟨rfl, rfl⟩
      | true => exact absurd rfl he
  | vsync x => cases x <;> exact ⟨rfl, rfl⟩
  | ackInterrupt => exact ⟨rfl, rfl⟩

/-- The entries after the index take the captures in their order, up to the
end of the array. -/
theorem run_scanline {s : State} (h : s.InRange) {b : List Event}
    (hv : .vsync true ∉ b) (k : Fin 576) :
    (run step s b).scanline k =
      if s.frameY.toNat < k then
        (captures s b)[k - s.frameY.toNat - 1]?.getD (s.scanline k)
      else s.scanline k := by
  induction b generalizing s with
  | nil =>
      rw [captures, List.getElem?_nil]
      exact (ite_self _).symm
  | cons e es ih =>
      rw [run_cons,
        ih (step_inRange h e) (fun hm => hv (List.mem_cons_of_mem _ hm))]
      by_cases he : e = .hsync true
      · subst he
        obtain ⟨hy, hk⟩ := step_rise h k
        have hlt := k.isLt
        rw [hy, hk, captures, if_pos rfl, List.singleton_append]
        rcases Nat.lt_trichotomy k (s.frameY.toNat + 1) with hlow | heq | hhigh
        · rw [if_neg (by omega), if_neg (by omega), if_neg (by omega)]
        · have h0 : k.val - s.frameY.toNat - 1 = 0 := by omega
          rw [if_neg (by omega), if_pos heq, if_pos (by omega), h0]
          rfl
        · have hsucc : k.val - s.frameY.toNat - 1 =
              k - min (s.frameY.toNat + 1) 575 - 1 + 1 := by omega
          rw [if_pos (by omega), if_neg (by omega), if_pos (by omega), hsucc,
            List.getElem?_cons_succ]
      · obtain ⟨hline, hy⟩ := step_index (s := s) he
        have hne : e ≠ .vsync true := by
          rintro rfl
          exact hv List.mem_cons_self
        rw [hline, hy, if_neg hne, captures, if_neg he, List.nil_append]

theorem first_scanline (s : State) (es : List Event) :
    (run step (reset s) es).scanline 0 = .zero := by
  have hkeeps : ∀ t e, t.InRange ∧ t.scanline 0 = .zero →
      (step t e).InRange ∧ (step t e).scanline 0 = .zero := by
    rintro t e ⟨hin, h0⟩
    refine ⟨step_inRange hin e, ?_⟩
    by_cases he : e = .hsync true
    · subst he
      rw [(step_rise hin 0).2]
      exact (if_neg (Nat.zero_ne_add_one _)).trans h0
    · rw [(step_index he).1, h0]
  exact (run_keeps hkeeps ⟨reset_inRange s, rfl⟩ es).2

/-! ## The frame between two vsyncs -/

/-- After the run `a`, a vsync, the calls `b` and a second vsync, the entries
that the renderer reads for the lines of `b` are captures of edges that follow
each other, and none is left from the reset. -/
def CapturesFrame (s : State) (a b : List Event) : Prop :=
  let es := a ++ .vsync true :: (b ++ [.vsync true])
  let g := run step (reset s) es
  ∃ j, ∀ k : Fin 576, k < rises b →
    (captures (reset s) es)[j + k]? = some (g.scanline k) ∧ g.scanline k ≠ .zero

/-- What the code does: the capture of the edge `k` is in the entry after
`k`. -/
theorem frame_scanline (s : State) {a b : List Event} (hv : .vsync true ∉ b)
    {k : Nat} (hk : k < rises b) (h575 : k + 1 < 576) :
    let t := run step (reset s) (a ++ [.vsync true])
    (captures t b)[k]? = some ((run step (reset s)
      (a ++ .vsync true :: (b ++ [.vsync true]))).scanline ⟨k + 1, h575⟩) := by
  intro t
  have hin : t.InRange := run_inRange (reset_inRange s) _
  have hy : t.frameY.toNat = 0 := by
    show (run step (reset s) (a ++ [.vsync true])).frameY.toNat = 0
    rw [run_append]
    rfl
  have hrun : (run step (reset s)
      (a ++ .vsync true :: (b ++ [.vsync true]))).scanline =
        (run step t b).scanline := by
    have hend := (step_index (s := run step t b) (e := .vsync true)
      Event.noConfusion).1
    rw [← hend, ← List.singleton_append, ← List.append_assoc, run_append,
      run_append]
    rfl
  have hlen : k < (captures t b).length := by rwa [length_captures]
  rw [hrun, run_scanline hin hv, hy, if_pos (Nat.succ_pos k)]
  show _ = some ((captures t b)[k]?.getD _)
  rw [List.getElem?_eq_getElem hlen]
  rfl

/-- No run captures its frame: the first entry is left from the reset. -/
theorem not_capturesFrame (s : State) (a b : List Event) (hn : 0 < rises b) :
    ¬ CapturesFrame s a b := by
  rintro ⟨j, hj⟩
  exact (hj 0 hn).2 (first_scanline s _)

/-- A colormap in which every ink shows. -/
def bright : State :=
  { dark with colormap := ⟨fun _ => 0xffffff, fun _ => 0xffffff⟩ }

theorem bright_not_capturesFrame :
    ¬ CapturesFrame bright [] [.hsync true] :=
  not_capturesFrame bright [] [.hsync true] Nat.one_pos

/-- The one line of the frame, at the renderer's first entry and where the gate
array has put it. -/
theorem bright_line :
    let g := run step (reset bright) [.vsync true, .hsync true, .vsync true]
    ¬ CapturesFrame bright [] [.hsync true] ∧
      ((g.scanline 0).color 16).pixel0 = 0 ∧
      ((g.scanline 1).color 16).pixel0 = 0xffffff := by
  refine ⟨?_, by decide +kernel, by decide +kernel⟩
  rintro ⟨j, hj⟩
  exact (hj 0 Nat.one_pos).2 (first_scanline bright _)

end Xcpc.Vga
