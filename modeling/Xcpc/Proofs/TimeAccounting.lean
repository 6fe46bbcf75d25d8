import Xcpc.Proofs.ClockConsumes
import Xcpc.Proofs.Decode

/-!
# What the counters count

`t_states` and `i_period` are added to in the rows of the tables, inside the
macros, in the interrupt paths and, when an opcode is fetched, by the
mainboard. Nothing adds to one of them alone but the epilog, which takes one
from `i_period` in every call. So their difference is the number of calls.

The fetches are looked at one by one. A `Trace` tells a call of `clock` as a
sequence of moves; its list has an entry for each fetch, with the counters
before and after, and the other moves fetch no opcode and move both counters
alike. The prolog reports how many fetches an instruction took, and that is
the length of the list.
-/

namespace Xcpc.Cpu

open Prog

variable {β : Type} {I : Interface β}

/-! ## The difference -/

/-- `t_states - i_period`, modulo its width. -/
def Timing.elapsed (t : Timing) : BitVec 32 := t.tStates - t.iPeriod

theorem adjust_elapsed (t : Timing) : t.adjust.elapsed = t.elapsed := by
  simp only [Timing.elapsed, Timing.adjust]
  ring

theorem consume_elapsed (t : Timing) (c n : Nat) :
    (t.consume c n).elapsed = t.elapsed := by
  simp only [Timing.elapsed, Timing.consume]
  ring

def KeepsElapsed {α : Type} (m : CpuM β α) : Prop :=
  Moves (fun s t => t.time.elapsed = s.time.elapsed) m

theorem preorder_elapsed :
    Preorder fun s t : Instance β => t.time.elapsed = s.time.elapsed where
  refl _ := rfl
  trans h h' := h'.trans h

theorem judgment_keepsElapsed :
    Judgment I fun _ _ α m => KeepsElapsed (α := α) m where
  pure a := moves_pure preorder_elapsed a
  bind hm hf := moves_bind preorder_elapsed hm hf
  weaken hm _ _ := hm
  reads _ _ := rfl
  writes _ _ := rfl
  readsSt _ _ := rfl
  mreqM1 _ s := adjust_elapsed s.time
  mreqRd _ _ := rfl
  mreqWr _ _ _ := rfl
  iorqM1 _ _ := rfl
  iorqRd _ _ := rfl
  iorqWr _ _ _ := rfl
  consume c n s := consume_elapsed s.time c n

theorem prolog_elapsed (s : Instance β) :
    (prolog I s).2.time.elapsed = s.time.elapsed :=
  judgment_prolog judgment_keepsElapsed (fun _ _ => rfl) s

theorem epilog_elapsed (s : Instance β) :
    (epilog s).2.time.elapsed = s.time.elapsed + 1 := by
  show s.time.tStates - (s.time.iPeriod - 1) = s.time.elapsed + 1
  simp only [Timing.elapsed]
  ring

/-- A call of `clock`. -/
theorem clock_elapsed (s : Instance β) :
    (clock I s).time.elapsed = s.time.elapsed + 1 := by
  unfold clock
  split
  · rw [epilog_elapsed, prolog_elapsed]
  · exact epilog_elapsed s

def Event.isClock : Event β → Bool
  | .clock => true
  | _ => false

theorem step_elapsed (s : Instance β) (e : Event β) :
    (step I s e).time.elapsed =
      s.time.elapsed + (if e.isClock then 1 else 0) := by
  cases e with
  | clock => exact clock_elapsed s
  | _ => exact (BitVec.add_zero _).symm

theorem run_elapsed (s : Instance β) (es : List (Event β)) :
    (run (step I) s es).time.elapsed =
      s.time.elapsed + BitVec.ofNat 32 (es.countP Event.isClock) := by
  induction es generalizing s with
  | nil => simp
  | cons e es ih =>
      rw [run_cons, ih, step_elapsed, List.countP_cons, BitVec.add_assoc,
        BitVec.ofNat_add, BitVec.add_comm (BitVec.ofNat 32 _)]
      cases e.isClock with
      | true => rfl
      | false => rfl

/-! ## The fetches -/

/-- The counters before and after an opcode fetch. -/
structure Fetch where
  before : Timing
  after : Timing

/-- The fetch has rounded `t_states` up to a multiple of four, and has added
the same wait states to both counters. -/
structure Fetch.Rounded (f : Fetch) : Prop where
  multiple : f.after.tStates.toNat % 4 = 0
  waits : ∃ w < 4, f.after.tStates = f.before.tStates + BitVec.ofNat 32 w ∧
    f.after.iPeriod = f.before.iPeriod + BitVec.ofNat 32 w

theorem adjust_rounded (t : Timing) : (Fetch.mk t t.adjust).Rounded := by
  have hx := and_not_add_and (t.tStates + 3) 3
  have hlow : ((t.tStates + 3) &&& 3).toNat = (t.tStates + 3).toNat % 4 := by
    rw [BitVec.toNat_and]
    exact Nat.and_two_pow_sub_one_eq_mod _ 2
  have hdvd : ((t.tStates + 3) &&& ~~~3).toNat % 4 = 0 := by
    generalize ((t.tStates + 3) &&& ~~~3) = r at *
    generalize ((t.tStates + 3) &&& 3) = q at *
    bv_omega
  refine ⟨hdvd, 3 - ((t.tStates + 3) &&& 3).toNat, by omega, ?_⟩
  simp only [Timing.adjust]
  generalize ((t.tStates + 3) &&& ~~~3) = r at *
  generalize ((t.tStates + 3) &&& 3) = q at *
  constructor
  · bv_omega
  · congr 1
    bv_omega

/-- A move that fetches no opcode byte: it accesses the bus in another way or
not at all, and moves both counters alike. -/
structure Quiet (I : Interface β) (s t : Instance β) : Prop where
  bus : t.bus = s.bus ∨ (∃ a, t.bus = (I.mreqRd s.bus a).2) ∨
    (∃ a v, t.bus = I.mreqWr s.bus a v) ∨ (∃ a, t.bus = (I.iorqM1 s.bus a).2) ∨
    (∃ a, t.bus = (I.iorqRd s.bus a).2) ∨ ∃ a v, t.bus = I.iorqWr s.bus a v
  time : ∃ c n, t.time.mCycles = s.time.mCycles + c ∧
    t.time.tStates = s.time.tStates + n ∧ t.time.iPeriod = s.time.iPeriod + n

/-- The moves from one state to another, with the fetches among them. -/
inductive Trace (I : Interface β) : Instance β → List Fetch → Instance β → Prop
  | refl (s : Instance β) : Trace I s [] s
  | quiet {s t u : Instance β} {fs : List Fetch} (h : Trace I s fs t)
      (hq : Quiet I t u) : Trace I s fs u
  | fetch {s t : Instance β} {fs : List Fetch} (h : Trace I s fs t) (a : Word) :
      Trace I s (fs ++ [⟨t.time, (mreqM1 I a t).2.time⟩]) (mreqM1 I a t).2

namespace Trace

theorem append {s t u : Instance β} {fs gs : List Fetch} (h : Trace I s fs t)
    (h' : Trace I t gs u) : Trace I s (fs ++ gs) u := by
  induction h' with
  | refl => rwa [List.append_nil]
  | quiet _ hq ih => exact ih.quiet hq
  | fetch _ a ih =>
      rw [← List.append_assoc]
      exact ih.fetch a

theorem rounded {s t : Instance β} {fs : List Fetch} (h : Trace I s fs t) :
    ∀ f ∈ fs, f.Rounded := by
  induction h with
  | refl => exact fun f hf => absurd hf List.not_mem_nil
  | quiet _ _ ih => exact ih
  | fetch _ a ih =>
      intro f hf
      rcases List.mem_append.1 hf with hf | hf
      · exact ih f hf
      · rw [List.mem_singleton.1 hf]
        exact adjust_rounded _

end Trace

/-! ## Quiet programs -/

theorem quiet_of_bus {s t : Instance β} (ht : t.time = s.time)
    (hb : t.bus = s.bus ∨ (∃ a, t.bus = (I.mreqRd s.bus a).2) ∨
      (∃ a v, t.bus = I.mreqWr s.bus a v) ∨
      (∃ a, t.bus = (I.iorqM1 s.bus a).2) ∨
      (∃ a, t.bus = (I.iorqRd s.bus a).2) ∨
      ∃ a v, t.bus = I.iorqWr s.bus a v) : Quiet I s t :=
  ⟨hb, 0, 0, by simp [ht], by simp [ht], by simp [ht]⟩

theorem quiet_of_time {s t : Instance β} (hb : t.bus = s.bus) {d n : BitVec 32}
    (hm : t.time.mCycles = s.time.mCycles + d)
    (ht : t.time.tStates = s.time.tStates + n)
    (hi : t.time.iPeriod = s.time.iPeriod + n) : Quiet I s t :=
  ⟨.inl hb, d, n, hm, ht, hi⟩

/-- A program without opcode fetches. -/
def Quietly (I : Interface β) {α : Type} (m : CpuM β α) : Prop :=
  Moves (fun s t => Trace I s [] t) m

theorem preorder_quietly :
    Preorder fun s t : Instance β => Trace I s [] t where
  refl s := .refl s
  trans h h' := h.append h'

theorem Quietly.of_quiet {α : Type} {m : CpuM β α}
    (h : ∀ s, Quiet I s (m s).2) : Quietly I m :=
  fun s => (Trace.refl s).quiet (h s)

/-- On a bus that is never asked for an opcode, every program is quiet. -/
theorem judgment_quietly :
    Judgment (I.fetchedBy fun b _ => (0, b))
      fun _ _ α m => Quietly I (α := α) m where
  pure a := moves_pure preorder_quietly a
  bind hm hf := moves_bind preorder_quietly hm hf
  weaken hm _ _ := hm
  reads f := .of_quiet fun _ => quiet_of_bus rfl (.inl rfl)
  writes f := .of_quiet fun _ => quiet_of_bus rfl (.inl rfl)
  readsSt f := .of_quiet fun _ => quiet_of_bus rfl (.inl rfl)
  mreqM1 a := .of_quiet fun s => by
    obtain ⟨_, w, _, ht, hi⟩ := adjust_rounded s.time
    exact quiet_of_time rfl (BitVec.add_zero _).symm ht hi
  mreqRd a := .of_quiet fun _ => quiet_of_bus rfl (.inr (.inl ⟨a, rfl⟩))
  mreqWr a v := .of_quiet fun _ =>
    quiet_of_bus rfl (.inr (.inr (.inl ⟨a, v, rfl⟩)))
  iorqM1 a := .of_quiet fun _ =>
    quiet_of_bus rfl (.inr (.inr (.inr (.inl ⟨a, rfl⟩))))
  iorqRd a := .of_quiet fun _ =>
    quiet_of_bus rfl (.inr (.inr (.inr (.inr (.inl ⟨a, rfl⟩)))))
  iorqWr a v := .of_quiet fun _ =>
    quiet_of_bus rfl (.inr (.inr (.inr (.inr (.inr ⟨a, v, rfl⟩)))))
  consume c n := .of_quiet fun _ => quiet_of_time rfl rfl rfl rfl

theorem quietly_writesSt (f : Status → Status) :
    Quietly I (writesSt f : CpuM β Unit) :=
  .of_quiet fun _ => quiet_of_bus rfl (.inl rfl)

/-- No micro-instruction fetches. -/
theorem quietly_exec (opP wz : Word) (i : Instr) :
    Quietly I (exec I opP wz i) := by
  rw [← exec_fetchedBy fun b _ => (0, b)]
  exact judgment_exec (P := fun _ _ _ m => Quietly I m) judgment_quietly opP wz
    i fun _ => quietly_writesSt

theorem quietly_execEntry (opP wz : Word) (e : Entry) :
    Quietly I (execEntry I opP wz e) :=
  moves_bind preorder_quietly (quietly_exec opP wz e.micro) fun _ =>
    Quietly.of_quiet fun _ => quiet_of_time rfl rfl rfl rfl

/-! ## Counting -/

/-- The program answers the number of its fetches, on top of `n` that were
made before. -/
def Counts (I : Interface β) (n : Nat) (m : CpuM β (Nat × Instr)) : Prop :=
  ∀ s, ∃ fs, Trace I s fs (m s).2 ∧ (m s).1.1 = n + fs.length

theorem counts_pure (n : Nat) (i : Instr) :
    Counts I n (pure (n, i)) :=
  fun s => ⟨[], .refl s, rfl⟩

theorem counts_quietly {α : Type} {n : Nat} {m : CpuM β α}
    {f : α → CpuM β (Nat × Instr)} (hm : Quietly I m)
    (hf : ∀ a, Counts I n (f a)) : Counts I n (m >>= f) := by
  intro s
  obtain ⟨fs, htrace, hn⟩ := hf (m s).1 (m s).2
  exact ⟨fs, (hm s).append htrace, hn⟩

theorem counts_fetchM1 {n : Nat} {f : Byte → CpuM β (Nat × Instr)}
    (hf : ∀ op, Counts I (n + 1) (f op)) : Counts I n (fetchM1 I >>= f) := by
  intro s
  obtain ⟨fs, htrace, hn⟩ := hf (fetchM1 I s).1 (fetchM1 I s).2
  have hfetch : Trace I s [⟨s.time, s.time.adjust⟩] (fetchM1 I s).2 :=
    ((Trace.refl s).fetch s.regs.pc.w).quiet (quiet_of_bus rfl (.inl rfl))
  refine ⟨_, hfetch.append htrace, ?_⟩
  rw [bind_apply, hn, List.length_append, List.length_singleton]
  omega

/-- A fetch that was made before, and is counted afterwards. -/
theorem counts_succ {n : Nat} {m : CpuM β (Nat × Instr)} (h : Counts I n m) :
    Counts I (n + 1) (do let r ← m; return (r.1 + 1, r.2)) := by
  intro s
  obtain ⟨fs, htrace, hn⟩ := h s
  refine ⟨fs, htrace, ?_⟩
  show (m s).1.1 + 1 = n + 1 + fs.length
  omega

theorem counts_fetchPlain (entry : Byte → Entry) (opP : Word) :
    Counts I 0 (fetchPlainOpcode I entry opP) :=
  counts_fetchM1 fun op => counts_quietly (quietly_execEntry opP 0 (entry op))
    fun _ => counts_pure 1 (entry op).micro

theorem counts_fetchIndexedCb (r : R16) (entry : Byte → Entry) (opP : Word) :
    Counts I 0 (fetchIndexedCbOpcode I r entry opP) :=
  counts_quietly (judgment_quietly.fetchIndexed r) fun wz =>
    counts_quietly judgment_quietly.fetchByte fun op =>
      counts_quietly (quietly_execEntry opP wz (entry op)) fun _ =>
        counts_pure 0 (entry op).micro

theorem counts_fetchIndexed {entry : Byte → Entry}
    {fetchCb : Word → CpuM β (Nat × Instr)} (opP : Word)
    (hcb : Counts I 0 (fetchCb opP)) :
    Counts I 0 (fetchIndexedOpcode I entry fetchCb opP) := by
  refine counts_fetchM1 fun op =>
    counts_quietly (quietly_execEntry opP 0 (entry op)) fun _ => ?_
  split
  · exact counts_succ hcb
  · exact counts_succ hcb
  · exact counts_pure 1 (entry op).micro

theorem counts_executeOpcode (opP : Word) (op : Byte) :
    Counts I 0 (executeOpcode I opP op) := by
  refine counts_quietly (quietly_execEntry opP 0 (entryMain op)) fun _ => ?_
  split
  · exact counts_fetchPlain entryCb opP
  · exact counts_fetchPlain entryEd opP
  · exact counts_fetchIndexed opP (counts_fetchIndexedCb .ixW entryDdcb opP)
  · exact counts_fetchIndexed opP (counts_fetchIndexedCb .iyW entryFdcb opP)
  · exact counts_pure 0 (entryMain op).micro

/-- The program makes the fetches of the instruction that it reports. -/
def Reported (I : Interface β) (m : CpuM β Branch) : Prop :=
  ∀ s, ∃ fs, Trace I s fs (m s).2 ∧
    ∀ n i, (m s).1 = .exec n i → fs.length = n

theorem reported_fetchOpcode (opP : Word) : Reported I (fetchOpcode I opP) := by
  intro s
  have h : Counts I 0
      (do let op ← fetchM1 I; let r ← executeOpcode I opP op
          return (r.1 + 1, r.2)) :=
    counts_fetchM1 fun op => counts_succ (counts_executeOpcode opP op)
  obtain ⟨fs, htrace, hn⟩ := h s
  refine ⟨fs, htrace, ?_⟩
  rintro n i hexec
  injection hexec with hexec _
  have hr : (executeOpcode I opP (fetchM1 I s).1 (fetchM1 I s).2).1.1 + 1 =
      0 + fs.length := hn
  have hx : (executeOpcode I opP (fetchM1 I s).1 (fetchM1 I s).2).1.1 + 1 =
      n := hexec
  omega

theorem reported_checkHlt (opP : Word) : Reported I (checkHlt I opP) := by
  intro s
  cases hh : s.st.hlt with
  | true =>
      rw [checkHlt_hlt hh]
      have hq : Quiet I s
          { s with regs := refresh s.regs, time := s.time.consume 1 4 } :=
        quiet_of_time rfl rfl rfl rfl
      exact ⟨[], (Trace.refl s).quiet hq, fun n i h => nomatch h⟩
  | false =>
      rw [checkHlt_run hh]
      exact reported_fetchOpcode opP s

/-- An interrupt in mode 0 may fetch, for the instruction that the device
supplies. -/
theorem traced_serveInt (opP : Word) (mode : Nat) (s : Instance β) :
    ∃ fs, Trace I s fs (serveInt I opP mode s).2 := by
  match mode with
  | 0 =>
      have hread : Quietly I (iorqM1 I 0x0000) := judgment_quietly.iorqM1 0x0000
      obtain ⟨fs, htrace, _⟩ :=
        counts_quietly hread (counts_executeOpcode opP) s
      exact ⟨fs, htrace⟩
  | n + 1 =>
      -- The other modes use the bus as one without opcodes does.
      have h := judgment_serveAnyInt (Q := fun _ m => Quietly I m)
        (judgment_quietly (I := I)) quietly_writesSt opP (n + 1) s
      match n with
      | 0 => exact ⟨[], h⟩
      | 1 => exact ⟨[], h⟩
      | _ + 2 => exact ⟨[], h⟩

theorem reported_prolog : Reported I (prolog I) := by
  intro s
  have hst (st : Status) : Trace I s [] { s with st := st } :=
    (Trace.refl s).quiet (quiet_of_bus rfl (.inl rfl))
  cases haei : s.st.aei with
  | true =>
      rw [prolog_aei haei]
      obtain ⟨fs, htrace, hn⟩ := reported_checkHlt (I := I) s.regs.pc.w
        { s with st := { s.st with aei := false } }
      exact ⟨fs, (hst _).append htrace, hn⟩
  | false =>
      cases hnmi : s.st.nmi with
      | true =>
          rw [prolog_nmi haei hnmi]
          have h : Quietly I (serveNmi I) :=
            judgment_serveNmi (judgment_quietly (I := I))
          exact ⟨[], (hst _).append (h _), fun n i h => nomatch h⟩
      | false =>
          cases hint : s.acceptsInt with
          | true =>
              rw [prolog_int hint]
              obtain ⟨fs, htrace⟩ := traced_serveInt (I := I) s.regs.pc.w
                (interruptMode s.st) { s with st := takeInt s.st }
              exact ⟨fs, (hst _).append htrace, fun n i h => nomatch h⟩
          | false =>
              rw [prolog_none haei hnmi hint]
              exact reported_checkHlt s.regs.pc.w s

/-- After any run from reset the difference of the counters is the number of
calls of `clock`. In each call that does not only count down, every fetch has
rounded `t_states` up, and the fetches are as many as the instruction has
opcode bytes. -/
theorem t_states_accounted (b : β) (es : List (Event β)) :
    let s := run (step I) (.reset b) es
    s.time.tStates - s.time.iPeriod =
        BitVec.ofNat 32 (es.countP Event.isClock) ∧
      ∃ fs, Trace I s fs (prolog I s).2 ∧ (∀ f ∈ fs, f.Rounded) ∧
        ∀ n i, (prolog I s).1 = .exec n i → fs.length = n := by
  intro s
  obtain ⟨fs, htrace, hn⟩ := reported_prolog (I := I) s
  refine ⟨?_, fs, htrace, htrace.rounded, hn⟩
  have h := run_elapsed (I := I) (.reset b) es
  have hzero : (Instance.reset b).time.elapsed = 0 := by
    show Timing.zero.elapsed = 0
    decide
  rwa [hzero, zero_add] at h

end Xcpc.Cpu
