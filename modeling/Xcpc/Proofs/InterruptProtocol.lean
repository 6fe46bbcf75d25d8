import Xcpc.Proofs.ClockConsumes
import Xcpc.Proofs.StatusEffects
import Xcpc.Proofs.Boundary

/-!
# The interrupt protocol

Two latches say that a pulse came and was not taken yet. `Watched` runs the
processor and writes down what it has seen: what the clock did at the last
boundary, where the program continues after a `halt`, and how many pulses of
either kind came, merged with one that was pending, and were taken.

The law of the protocol compares the two. It is proved from four facts about
the reachable states: the shadow bit says that the last instruction was `ei`,
a halted processor's program counter is behind its `halt`, and no pulse of
either kind is lost or taken twice.
-/

namespace Xcpc.Cpu

open Prog

/-- Pulses of one kind. -/
structure Tally where
  pulses : Nat
  /-- Those that came while one was pending. -/
  merged : Nat
  taken : Nat
deriving DecidableEq

namespace Tally

def zero : Tally := ⟨0, 0, 0⟩

def pulse (t : Tally) (pending : Bool) : Tally :=
  ⟨t.pulses + 1, t.merged + pending.toNat, t.taken⟩

def take (t : Tally) : Tally := { t with taken := t.taken + 1 }

/-- Every pulse was merged, was taken, or is pending. -/
def Balanced (t : Tally) (pending : Bool) : Prop :=
  t.pulses = t.merged + t.taken + pending.toNat

theorem balanced_pulse {t : Tally} {pending : Bool} (h : t.Balanced pending) :
    (t.pulse pending).Balanced true := by
  unfold Balanced at *
  simp only [pulse, Bool.toNat_true]
  omega

theorem balanced_take {t : Tally} (h : t.Balanced true) :
    t.take.Balanced false := by
  unfold Balanced at *
  simp only [take, Bool.toNat_true, Bool.toNat_false] at *
  omega

end Tally

/-- An instance and what was seen of it. -/
structure Watched (β : Type) where
  cpu : Instance β
  /-- What the clock did at the last boundary. -/
  last : Option Branch
  /-- The address behind the last `halt` instruction. -/
  resume : Word
  ints : Tally
  nmis : Tally

variable {β : Type} (I : Interface β)

namespace Watched

def reset (bus : β) : Watched β := ⟨.reset bus, none, 0, .zero, .zero⟩

/-- The instruction that was just executed is `ei`. -/
def AfterEi (w : Watched β) : Prop := ∃ n, w.last = some (.exec n .ei)

/-- The address of the instruction that would be executed next. -/
def next (w : Watched β) : Word :=
  if w.cpu.st.hlt then w.resume else w.cpu.regs.pc.w

def clock (w : Watched β) : Watched β :=
  if w.cpu.atBoundary then
    let b := (prolog I w.cpu).1
    { cpu := Cpu.clock I w.cpu
      last := some b
      resume := match b with
        | .exec n .halt => w.cpu.regs.pc.w + BitVec.ofNat 16 n
        | _ => w.resume
      ints := if b = .int then w.ints.take else w.ints
      nmis := if b = .nmi then w.nmis.take else w.nmis }
  else
    { w with cpu := Cpu.clock I w.cpu }

def step (w : Watched β) : Event β → Watched β
  | .clock => w.clock I
  | .pulseNmi =>
      { w with cpu := pulseNmi w.cpu, nmis := w.nmis.pulse w.cpu.st.nmi }
  | .pulseInt =>
      { w with cpu := pulseInt w.cpu, ints := w.ints.pulse w.cpu.st.int }
  | .bus b => { w with cpu := { w.cpu with bus := b } }

/-- Watching does not disturb. -/
theorem step_cpu (w : Watched β) (e : Event β) :
    (w.step I e).cpu = Cpu.step I w.cpu e := by
  cases e with
  | clock =>
      simp only [step, clock]
      split
      · rfl
      · rfl
  | _ => rfl

end Watched

/-! ## The law -/

/-- The bus after `v` is pushed. -/
def pushed (b : β) (sp v : Word) : β :=
  I.mreqWr (I.mreqWr b (sp - 1) (hi v)) (sp - 2) (lo v)

/-- The bus after an interrupt is acknowledged and `v` is pushed. In mode 2 the
push is first, and the new program counter is read from the vector. -/
def acknowledged (s : Instance β) (v : Word) : β :=
  if interruptMode s.st = 2 then
    let r := I.iorqM1 (pushed I s.bus s.regs.sp.w v) 0
    let vector := s.regs.ir.h ++ r.1
    (I.mreqRd (I.mreqRd r.2 vector).2 (vector + 1)).2
  else
    pushed I (I.iorqM1 s.bus 0).2 s.regs.sp.w v

/-- From `s` a maskable interrupt leads to `t`, and returns to `v`. -/
structure TakesInt (v : Word) (s t : Instance β) : Prop where
  st : t.st =
    { s.st with int := false, iff1 := false, iff2 := false, hlt := false }
  sp : t.regs.sp.w = s.regs.sp.w - 2
  bus : t.bus = acknowledged I s v

/-- From `s` an NMI leads to `t`, and returns to `v`. `IFF2` is kept. -/
structure TakesNmi (v : Word) (s t : Instance β) : Prop where
  st : t.st = { s.st with nmi := false, iff1 := false, hlt := false }
  sp : t.regs.sp.w = s.regs.sp.w - 2
  pc : t.regs.pc.w = 0x66
  bus : t.bus = pushed I s.bus s.regs.sp.w v

/-- Nothing but `R` changes, and the shadow of `ei` ends. -/
structure Idles (s t : Instance β) : Prop where
  st : t.st = { s.st with aei := false }
  regs : t.regs =
    { s.regs with ir := { s.regs.ir with l := t.regs.ir.l } }
  bus : t.bus = s.bus

/-- What the law says of a call of `clock`. -/
structure ClockLaw (w : Watched β) : Prop where
  /-- Between two boundaries nothing happens. -/
  between : w.cpu.atBoundary = false → Same (clock I w.cpu) w.cpu
  acceptsInt : w.cpu.atBoundary = true →
    ((prolog I w.cpu).1 = .int ↔
      w.cpu.st.int = true ∧ w.cpu.st.iff1 = true ∧ w.cpu.st.nmi = false ∧
        ¬ w.AfterEi)
  acceptsNmi : w.cpu.atBoundary = true →
    ((prolog I w.cpu).1 = .nmi ↔ w.cpu.st.nmi = true ∧ ¬ w.AfterEi)
  takesInt : w.cpu.atBoundary = true → (prolog I w.cpu).1 = .int →
    TakesInt I w.next w.cpu (clock I w.cpu)
  takesNmi : w.cpu.atBoundary = true → (prolog I w.cpu).1 = .nmi →
    TakesNmi I w.next w.cpu (clock I w.cpu)
  idles : w.cpu.atBoundary = true → w.cpu.st.hlt = true →
    (prolog I w.cpu).1 ≠ .int → (prolog I w.cpu).1 ≠ .nmi →
    Idles w.cpu (clock I w.cpu)

/-- Of the other events the law asks nothing. -/
def Lawful (w : Watched β) : Event β → Prop
  | .clock => ClockLaw I w
  | _ => True

/-- No pulse is lost and none is taken twice. -/
structure Watched.Balanced (w : Watched β) : Prop where
  ints : w.ints.Balanced w.cpu.st.int
  nmis : w.nmis.Balanced w.cpu.st.nmi

/-- The opcodes of `rst`. -/
def IsRst (op : Byte) : Prop := op &&& 0xc7 = 0xc7

instance (op : Byte) : Decidable (IsRst op) :=
  inferInstanceAs (Decidable (_ = _))

/-- An interrupt is taken in one of the three modes only, and in mode 0 the
acknowledgement answers an `rst`. -/
def Answered (s : Instance β) : Event β → Prop
  | .clock => s.atBoundary = true → s.acceptsInt = true →
      interruptMode s.st < 3 ∧
        (interruptMode s.st = 0 → IsRst (I.iorqM1 s.bus 0).1)
  | _ => True

instance (s : Instance β) (e : Event β) : Decidable (Answered I s e) :=
  match e with
  | .clock => inferInstanceAs (Decidable (_ → _ → _ ∧ (_ → _)))
  | .pulseNmi | .pulseInt | .bus _ => isTrue trivial

variable {I}

/-! ## What the clock does at a boundary -/

/-- An instruction of `n` opcode bytes leads to `t`. -/
structure Executes (n : Nat) (i : Instr) (s t : Instance β) : Prop where
  st : t.st = i.status { s.st with aei := false }
  halt : i = .halt → t.regs.pc.w = s.regs.pc.w + BitVec.ofNat 16 n

/-- The four things that the prolog does. -/
inductive Outcome (I : Interface β) (s : Instance β) :
    Branch → Instance β → Prop where
  | nmi {t} : s.st.aei = false → s.st.nmi = true →
      TakesNmi I s.regs.pc.w s t → Outcome I s .nmi t
  | int {t} : s.acceptsInt = true → TakesInt I s.regs.pc.w s t →
      Outcome I s .int t
  | halted {t} : s.accepts = false → s.st.hlt = true → Idles s t →
      Outcome I s .halted t
  | exec {n i t} : s.accepts = false → s.st.hlt = false →
      Executes n i s t → Outcome I s (.exec n i) t

/-- The vector of an `rst`. -/
theorem entryMain_rst : ∀ op, IsRst op →
    entryMain op = Opcodes.row 3 11 (.rstVec16 ((0 : Byte) ++ (op &&& 0x38))) := by
  decide +kernel

theorem executeOpcode_rst {op : Byte} (h : IsRst op) (opP : Word)
    (s : Instance β) :
    (executeOpcode I opP op s).2.st = s.st ∧
      (executeOpcode I opP op s).2.regs.sp.w = s.regs.sp.w - 2 ∧
      (executeOpcode I opP op s).2.bus =
        pushed I s.bus s.regs.sp.w s.regs.pc.w := by
  unfold executeOpcode
  rw [entryMain_rst op h]
  exact ⟨rfl, Register.ofW_w _ ▸ rfl, rfl⟩

theorem prolog_takesInt {s : Instance β} (hi : s.acceptsInt = true)
    (hm : interruptMode s.st < 3)
    (hr : interruptMode s.st = 0 → IsRst (I.iorqM1 s.bus 0).1) :
    (prolog I s).1 = .int ∧ TakesInt I s.regs.pc.w s (prolog I s).2 := by
  rw [prolog_int hi]
  refine ⟨rfl, ?_⟩
  show TakesInt I _ s (serveInt I s.regs.pc.w (interruptMode s.st)
    { s with st := takeInt s.st }).2
  have hack : acknowledged I s s.regs.pc.w =
      if interruptMode s.st = 2 then _ else _ := rfl
  generalize hmode : interruptMode s.st = mode at *
  match mode, hm with
  | 0, _ =>
      obtain ⟨hst, hsp, hbus⟩ := executeOpcode_rst (I := I) (hr rfl)
        s.regs.pc.w { s with st := takeInt s.st, bus := (I.iorqM1 s.bus 0).2 }
      exact ⟨hst, hsp, hbus.trans hack.symm⟩
  | 1, _ =>
      refine ⟨rfl, ?_, hack.symm⟩
      show (Register.ofW (s.regs.sp.w - 2)).w = _
      rw [Register.ofW_w]
  | 2, _ =>
      refine ⟨rfl, ?_, hack.symm⟩
      show (Register.ofW (s.regs.sp.w - 2)).w = _
      rw [Register.ofW_w]

theorem prolog_takesNmi {s : Instance β} (ha : s.st.aei = false)
    (hn : s.st.nmi = true) :
    (prolog I s).1 = .nmi ∧
      TakesNmi I s.regs.pc.w s (prolog I s).2 := by
  rw [prolog_nmi ha hn]
  refine ⟨rfl, rfl, ?_, ?_, rfl⟩
  · show (Register.ofW (s.regs.sp.w - 2)).w = _
    rw [Register.ofW_w]
  · show (Register.ofW VECTOR_66H).w = _
    rw [Register.ofW_w]

theorem checkHlt_outcome {s : Instance β} (h : s.accepts = false) (opP : Word)
    {t : Instance β} (ht : t = { s with st := { s.st with aei := false } }) :
    Outcome I s (checkHlt I opP t).1 (checkHlt I opP t).2 := by
  subst ht
  cases hh : s.st.hlt with
  | true =>
      rw [checkHlt_hlt (by exact hh)]
      exact .halted h hh ⟨rfl, rfl, rfl⟩
  | false =>
      rw [checkHlt_run (by exact hh)]
      obtain ⟨n, i, hb, hst, hpc⟩ := fetchOpcode_reports (I := I) opP
        { s with st := { s.st with aei := false } }
      rw [hb]
      exact .exec h hh ⟨hst, hpc⟩

theorem prolog_outcome {s : Instance β} (hb : s.atBoundary = true)
    (h : Answered I s .clock) : Outcome I s (prolog I s).1 (prolog I s).2 := by
  cases ha : s.st.aei with
  | true =>
      rw [prolog_aei ha]
      refine checkHlt_outcome ?_ _ rfl
      rw [Instance.accepts, ha]
      rfl
  | false =>
      cases hn : s.st.nmi with
      | true =>
          obtain ⟨hbranch, htakes⟩ := prolog_takesNmi (I := I) ha hn
          rw [hbranch]
          exact .nmi ha hn htakes
      | false =>
          cases hi : s.acceptsInt with
          | true =>
              obtain ⟨hm, hr⟩ := h hb hi
              obtain ⟨hbranch, htakes⟩ := prolog_takesInt (I := I) hi hm hr
              rw [hbranch]
              exact .int hi htakes
          | false =>
              rw [prolog_none ha hn hi]
              refine checkHlt_outcome ?_ _ ?_
              · rw [Instance.acceptsInt, ha, hn] at hi
                rw [Instance.accepts, ha, hn]
                exact hi
              · cases s with
                | mk regs st time bus =>
                    cases st
                    cases ha
                    rfl

theorem clock_boundary {s : Instance β} (hb : s.atBoundary = true) :
    Same (clock I s) (prolog I s).2 := by
  rw [clock, if_pos hb]
  exact ⟨rfl, rfl, rfl⟩

theorem clock_between {s : Instance β} (hb : s.atBoundary = false) :
    Same (clock I s) s := by
  rw [clock, hb]
  exact ⟨rfl, rfl, rfl⟩

/-- What the clock does at a boundary. -/
theorem clock_outcome {s : Instance β} (hb : s.atBoundary = true)
    (h : Answered I s .clock) : Outcome I s (prolog I s).1 (clock I s) := by
  have ho := prolog_outcome hb h
  obtain ⟨hregs, hst, hbus⟩ := clock_boundary (I := I) hb
  generalize (prolog I s).1 = b at ho
  generalize clock I s = t at *
  generalize (prolog I s).2 = u at *
  cases ho with
  | nmi ha hn ht =>
      exact .nmi ha hn ⟨hst ▸ ht.st, hregs ▸ ht.sp, hregs ▸ ht.pc, hbus ▸ ht.bus⟩
  | int hi ht => exact .int hi ⟨hst ▸ ht.st, hregs ▸ ht.sp, hbus ▸ ht.bus⟩
  | halted hq hh ht => exact .halted hq hh ⟨hst ▸ ht.st, hregs ▸ ht.regs, hbus ▸ ht.bus⟩
  | exec hq hh ht => exact .exec hq hh ⟨hst ▸ ht.st, fun he => hregs ▸ ht.halt he⟩

/-- The bits of an instance that takes a maskable interrupt. -/
theorem acceptsInt_iff {s : Instance β} :
    s.acceptsInt = true ↔ s.st.aei = false ∧ s.st.nmi = false ∧
      s.st.iff1 = true ∧ s.st.int = true := by
  simp [Instance.acceptsInt, and_assoc]

theorem Outcome.int_iff {s t : Instance β} {b : Branch}
    (h : Outcome I s b t) : b = .int ↔ s.acceptsInt = true := by
  cases h with
  | nmi ha hn ht =>
      rw [acceptsInt_iff]
      simp [hn]
  | int hi ht => simp [hi]
  | halted hq hh ht => simp [accepts_eq_false hq]
  | exec hq hh ht => simp [accepts_eq_false hq]

theorem Outcome.nmi_iff {s t : Instance β} {b : Branch}
    (h : Outcome I s b t) :
    b = .nmi ↔ s.st.nmi = true ∧ s.st.aei = false := by
  cases h with
  | nmi ha hn ht => simp [ha, hn]
  | int hi ht => simp [(acceptsInt_iff.1 hi).2.1]
  | halted hq hh ht => simpa using (accepts_eq_false hq).2
  | exec hq hh ht => simpa using (accepts_eq_false hq).2

/-! ## What holds in every state of a run -/

structure Watched.Inv (w : Watched β) : Prop where
  aei : w.cpu.st.aei = true ↔ w.AfterEi
  hlt : w.cpu.st.hlt = true → w.cpu.regs.pc.w = w.resume
  balanced : w.Balanced

theorem inv_reset (bus : β) : (Watched.reset bus).Inv where
  aei := by
    constructor
    · intro h
      exact absurd h Bool.false_ne_true
    · intro ⟨n, h⟩
      exact absurd h (Option.some_ne_none _).symm
  hlt h := absurd h Bool.false_ne_true
  balanced := ⟨rfl, rfl⟩

theorem inv_clock {w : Watched β} (hw : w.Inv)
    (h : Answered I w.cpu .clock) : (w.clock I).Inv := by
  unfold Watched.clock
  cases hb : w.cpu.atBoundary with
  | false =>
      obtain ⟨hregs, hst, hbus⟩ := clock_between (I := I) hb
      rw [if_neg (by decide)]
      refine ⟨?_, ?_, ?_, ?_⟩
      · rw [hst]
        exact hw.aei
      · rw [hst, hregs]
        exact hw.hlt
      · rw [hst]
        exact hw.balanced.ints
      · rw [hst]
        exact hw.balanced.nmis
  | true =>
      rw [if_pos rfl]
      have ho := clock_outcome hb h
      generalize (prolog I w.cpu).1 = b at ho
      generalize clock I w.cpu = t at ho
      cases ho with
      | nmi ha hn ht =>
          have hint : t.st.int = w.cpu.st.int := by rw [ht.st]
          have hnmi : t.st.nmi = false := by rw [ht.st]
          refine ⟨?_, ?_, ?_, ?_⟩
          · simp [ht.st, ha, Watched.AfterEi]
          · simp [ht.st]
          · rw [hint]
            exact hw.balanced.ints
          · have hn' := hw.balanced.nmis
            rw [hn] at hn'
            rw [hnmi]
            exact Tally.balanced_take hn'
      | int hi ht =>
          obtain ⟨ha, hn, _, hint⟩ := acceptsInt_iff.1 hi
          refine ⟨?_, ?_, ?_, ?_⟩
          · simp [ht.st, ha, Watched.AfterEi]
          · simp [ht.st]
          · have hi' := hw.balanced.ints
            rw [hint] at hi'
            rw [ht.st]
            exact Tally.balanced_take hi'
          · rw [ht.st]
            exact hw.balanced.nmis
      | halted hq hh ht =>
          refine ⟨?_, ?_, ?_, ?_⟩
          · simp [ht.st, Watched.AfterEi]
          · intro _
            rw [ht.regs]
            exact hw.hlt hh
          · rw [ht.st]
            exact hw.balanced.ints
          · rw [ht.st]
            exact hw.balanced.nmis
      | exec hq hh ht =>
          rename_i n i
          refine ⟨?_, ?_, ?_, ?_⟩
          · rw [ht.st, status_aei rfl]
            simp [Watched.AfterEi]
          · have hrun : ({ w.cpu.st with aei := false } : Status).hlt = false :=
              hh
            rw [ht.st, status_hlt hrun]
            rintro rfl
            exact ht.halt rfl
          · rw [ht.st, status_int]
            exact hw.balanced.ints
          · rw [ht.st, status_nmi]
            exact hw.balanced.nmis

theorem inv_step {w : Watched β} (hw : w.Inv) (e : Event β)
    (h : Answered I w.cpu e) : (w.step I e).Inv := by
  cases e with
  | clock => exact inv_clock hw h
  | pulseNmi =>
      exact ⟨hw.aei, hw.hlt, hw.balanced.ints,
        Tally.balanced_pulse hw.balanced.nmis⟩
  | pulseInt =>
      exact ⟨hw.aei, hw.hlt, Tally.balanced_pulse hw.balanced.ints,
        hw.balanced.nmis⟩
  | bus b => exact ⟨hw.aei, hw.hlt, hw.balanced.ints, hw.balanced.nmis⟩

/-! ## The law holds -/

theorem Watched.Inv.next {w : Watched β} (hw : w.Inv) :
    w.next = w.cpu.regs.pc.w := by
  unfold Watched.next
  split
  · rename_i hh
    exact (hw.hlt hh).symm
  · rfl

theorem Watched.Inv.not_afterEi {w : Watched β} (hw : w.Inv) :
    ¬ w.AfterEi ↔ w.cpu.st.aei = false := by
  rw [← hw.aei, Bool.not_eq_true]

theorem clockLaw {w : Watched β} (hw : w.Inv)
    (h : Answered I w.cpu .clock) : ClockLaw I w := by
  refine ⟨clock_between, ?_, ?_, ?_, ?_, ?_⟩
  · intro hb
    rw [hw.not_afterEi, (clock_outcome hb h).int_iff, acceptsInt_iff]
    constructor
    · intro ⟨ha, hn, hf, hi⟩
      exact ⟨hi, hf, hn, ha⟩
    · intro ⟨hi, hf, hn, ha⟩
      exact ⟨ha, hn, hf, hi⟩
  · intro hb
    rw [hw.not_afterEi]
    exact (clock_outcome hb h).nmi_iff
  · intro hb hi
    have ho := clock_outcome hb h
    rw [hi] at ho
    rw [hw.next]
    cases ho with
    | int _ ht => exact ht
  · intro hb hn
    have ho := clock_outcome hb h
    rw [hn] at ho
    rw [hw.next]
    cases ho with
    | nmi _ _ ht => exact ht
  · intro hb hh hi hn
    have ho := clock_outcome hb h
    generalize (prolog I w.cpu).1 = b at ho hi hn
    cases ho with
    | nmi _ _ _ => exact absurd rfl hn
    | int _ _ => exact absurd rfl hi
    | halted _ _ ht => exact ht
    | exec _ hrun _ => exact absurd hh (by simp [hrun])

theorem lawful {w : Watched β} (hw : w.Inv) (e : Event β)
    (h : Answered I w.cpu e) : Lawful I w e := by
  cases e with
  | clock => exact clockLaw hw h
  | _ => exact trivial

/-- From reset, over every order of clocks and pulses, whatever the bus answers
and in whatever mode: the law holds of every step, and all pulses are
accounted for. -/
theorem interrupt_protocol (I : Interface β) (bus : β) (es : List (Event β))
    (h : Along (step I) (Answered I) (.reset bus) es) :
    Along (Watched.step I) (Lawful I) (.reset bus) es ∧
      (run (Watched.step I) (.reset bus) es).Balanced := by
  have hwatched : Along (Watched.step I) (fun w => Answered I w.cpu)
      (.reset bus) es :=
    (along_map (Watched.step_cpu I) _ es).2 h
  have hstep (w : Watched β) (e : Event β) (hw : w.Inv)
      (he : Answered I w.cpu e) : (w.step I e).Inv := inv_step hw e he
  refine ⟨?_, ?_⟩
  · exact along_of_inv hstep (fun w e hw he => lawful hw e he) (inv_reset bus)
      hwatched
  · exact (inv_run hstep (inv_reset bus) hwatched).balanced

/-- `ei`, `halt`, and a pulse. -/
theorem interrupt_protocol_halt :
    let es : List (Event (Word → Byte)) :=
      List.replicate 12 .clock ++ [.pulseInt, .clock]
    let bus := program [0xfb, 0x76]
    Along (Watched.step .ram) (Lawful .ram) (.reset bus) es ∧
      (run (Watched.step .ram) (.reset bus) es).Balanced :=
  interrupt_protocol .ram _ _ (by decide +kernel)

end Xcpc.Cpu
