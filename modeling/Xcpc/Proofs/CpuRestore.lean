import Xcpc.Cpc.Machine
import Xcpc.Proofs.Boundary

/-!
# The snapshot and the processor

A snapshot holds the registers, the two interrupt flip-flops and the interrupt
mode. Two latches of the status have no byte in its header: that the processor
is halted, and that the instruction before was `ei`. A processor in neither
state comes back as it was, and behaves as the original would have from then
on. A halted one comes back running, and one after `ei` accepts an interrupt
an instruction too early.
-/

namespace Xcpc.Cpu

open Prog

/-- What a processor meets at its boundaries: time to run an instruction,
pulses, and changes of whatever is behind its interface. -/
inductive Later (β : Type) where
  | instruction
  | pulseNmi
  | pulseInt
  | bus (b : β)

/-- What an instruction shows: what it was, the registers it leaves, and the
bus, which has seen all accesses. -/
structure Shown (β : Type) where
  branch : Branch
  regs : Regs
  bus : β

def shown {β : Type} (I : Interface β) :
    Instance β → List (Later β) → List (Shown β)
  | _, [] => []
  | s, .instruction :: es =>
      let t := instruction I s
      ⟨(prolog I s).1, t.regs, t.bus⟩ :: shown I t es
  | s, .pulseNmi :: es => shown I (pulseNmi s) es
  | s, .pulseInt :: es => shown I (pulseInt s) es
  | s, .bus b :: es => shown I { s with bus := b } es

def Instance.on {β γ : Type} (s : Instance β) (b : γ) : Instance γ :=
  ⟨s.regs, s.st, s.time, b⟩

/-- In front of any bus, and whatever comes later, the processors show the
same. -/
def Equivalent {β γ : Type} (s : Instance β) (t : Instance γ) : Prop :=
  ∀ (δ : Type) (I : Interface δ) (b : δ) (es : List (Later δ)),
    shown I (s.on b) es = shown I (t.on b) es

theorem shown_same {β : Type} {I : Interface β} {s t : Instance β}
    (h : Same s t) (hs : s.atBoundary = true) (ht : t.atBoundary = true)
    (es : List (Later β)) : shown I s es = shown I t es := by
  induction es generalizing s t with
  | nil => rfl
  | cons e es ih =>
      cases e with
      | instruction =>
          obtain ⟨hbranch, hafter⟩ := prolog_same (I := I) h
          have hnext : Same (instruction I s) (instruction I t) :=
            (instruction_same hs).trans
              (hafter.trans (instruction_same ht).symm)
          rw [shown, shown, hbranch, hnext.regs, hnext.bus,
            ih hnext (instruction_atBoundary hs) (instruction_atBoundary ht)]
      | pulseNmi =>
          have hst := congrArg (fun st => { st with nmi := true }) h.st
          exact ih ⟨h.regs, hst, h.bus⟩ hs ht
      | pulseInt =>
          have hst := congrArg (fun st => { st with int := true }) h.st
          exact ih ⟨h.regs, hst, h.bus⟩ hs ht
      | bus b => exact ih ⟨h.regs, h.st, rfl⟩ hs ht

/-! ## What a snapshot holds -/

theorem getIff_ne (iff : Bool) : (getIff iff != 0) = iff := by
  cases iff <;> rfl

theorem setIm_getIm (st st' : Status) :
    setIm st (getIm st') = { st with im1 := st'.im1, im2 := st'.im2 } := by
  unfold getIm
  cases st'.im1 <;> cases st'.im2 <;> rfl

/-- The bits of the status that a snapshot holds. -/
def Status.saved (st : Status) : Status :=
  { Status.zero with
    iff1 := st.iff1, iff2 := st.iff2, im1 := st.im1, im2 := st.im2 }

theorem load_save {β γ : Type} (s : Instance β) (b : γ) (h : Sna.Header) :
    (Instance.reset b).load (s.save h) = ⟨s.regs, s.st.saved, .zero, b⟩ := by
  simp only [Instance.load, Instance.save, getIff_ne, setIm_getIm]
  rfl

theorem saved_eq {st : Status} (hint : st.int = false) (hnmi : st.nmi = false)
    (hhlt : st.hlt = false) (haei : st.aei = false) : st.saved = st := by
  cases st
  cases hint
  cases hnmi
  cases hhlt
  cases haei
  rfl

/-- A bus where every access answers zero, which is `nop`. -/
def Interface.quiet : Interface Unit where
  mreqM1 _ _ := (0, ())
  mreqRd _ _ := (0, ())
  mreqWr _ _ _ := ()
  iorqM1 _ _ := (0, ())
  iorqRd _ _ := (0, ())
  iorqWr _ _ _ := ()

section

variable {β : Type} {I : Interface β} {s : Instance β}

theorem prolog_fst (h : s.st.aei = true ∨ s.st.int = false ∧ s.st.nmi = false) :
    if s.st.hlt then (prolog I s).1 = .halted
      else ∃ n i, (prolog I s).1 = .exec n i := by
  have hcheck (t : Instance β) (opP : Word) :
      if t.st.hlt then (checkHlt I opP t).1 = .halted
        else ∃ n i, (checkHlt I opP t).1 = .exec n i := by
    cases ht : t.st.hlt with
    | true => rw [checkHlt_hlt ht, if_pos rfl]
    | false =>
        rw [checkHlt_run ht]
        exact ⟨_, _, rfl⟩
  cases haei : s.st.aei with
  | true =>
      rw [prolog_aei haei]
      exact hcheck { s with st := { s.st with aei := false } } _
  | false =>
      obtain ⟨hint, hnmi⟩ : s.st.int = false ∧ s.st.nmi = false := by
        rcases h with h | h
        · rw [haei] at h
          cases h
        · exact h
      have hacc : s.acceptsInt = false := by
        rw [Instance.acceptsInt, hint, Bool.and_false]
      rw [prolog_none haei hnmi hacc]
      exact hcheck s _

end

/-- From equivalent processors, what comes after a pulse or at once is one
branch. -/
theorem Equivalent.branch {β γ : Type} {s : Instance β} {t : Instance γ}
    (h : Equivalent s t) :
    (prolog .quiet (s.on ())).1 = (prolog .quiet (t.on ())).1 ∧
      (prolog .quiet (pulseNmi (s.on ()))).1 =
        (prolog .quiet (pulseNmi (t.on ()))).1 := by
  have h₀ := congrArg (List.map Shown.branch)
    (h Unit .quiet () [.instruction])
  have h₁ := congrArg (List.map Shown.branch)
    (h Unit .quiet () [.pulseNmi, .instruction])
  exact ⟨(List.cons.inj h₀).1, (List.cons.inj h₁).1⟩

/-- What a snapshot holds of a processor is equivalent to it when it is not
halted and not after `ei`, and only then. -/
theorem equivalent_saved_iff {β γ : Type} {s : Instance β} (b : γ)
    (hs : s.atBoundary = true) (hint : s.st.int = false)
    (hnmi : s.st.nmi = false) :
    Equivalent s (⟨s.regs, s.st.saved, .zero, b⟩ : Instance γ) ↔
      s.st.hlt = false ∧ s.st.aei = false := by
  constructor
  · intro heq
    obtain ⟨hnow, hpulse⟩ := heq.branch
    have hhlt : s.st.hlt = false := by
      cases hh : s.st.hlt with
      | false => rfl
      | true =>
          have hleft := prolog_fst (I := .quiet) (s := s.on ())
            (Or.inr ⟨hint, hnmi⟩)
          rw [show (s.on ()).st.hlt = true from hh, if_pos rfl] at hleft
          obtain ⟨n, i, hright⟩ := prolog_fst (I := .quiet)
            (s := (⟨s.regs, s.st.saved, .zero, ()⟩ : Instance Unit))
            (Or.inr ⟨rfl, rfl⟩)
          have hne := hleft.symm.trans (hnow.trans hright)
          cases hne
    refine ⟨hhlt, ?_⟩
    cases ha : s.st.aei with
    | false => rfl
    | true =>
        have hleft := prolog_fst (I := .quiet) (s := pulseNmi (s.on ()))
          (Or.inl ha)
        rw [show (pulseNmi (s.on ())).st.hlt = false from hhlt] at hleft
        obtain ⟨n, i, hleft⟩ := hleft
        have hright : (prolog .quiet (pulseNmi
            (⟨s.regs, s.st.saved, .zero, ()⟩ : Instance Unit))).1 = .nmi := by
          rw [prolog_nmi rfl rfl]
          rfl
        have hne := hleft.symm.trans (hpulse.trans hright)
        cases hne
  · intro ⟨hhlt, haei⟩ δ I b' es
    have hsame : Same (s.on b') ⟨s.regs, s.st.saved, .zero, b'⟩ :=
      ⟨rfl, (saved_eq hint hnmi hhlt haei).symm, rfl⟩
    exact shown_same hsame hs rfl es

end Xcpc.Cpu

namespace Xcpc.Cpc.Machine

open Prog

theorem loadCpc_cpu {φ : Type} (F : Fdc φ) (m m' : Machine φ) (s : Sna.State) :
    ∃ b, m'.loadCpc F (m.saveCpc s) = ⟨m.regs, m.st.saved, .zero, b⟩ := by
  have h : Cpu.Instance.load (m'.reset F) (m.saveCpc s).header =
      Cpu.Instance.load (m'.reset F) (Cpu.Instance.save m s.header) := rfl
  rw [loadCpc, h, reset, Cpu.load_save]
  exact ⟨_, rfl⟩

/-- The snapshot of a machine whose processor is at a boundary with no
interrupt pending, loaded into any machine, gives an equivalent processor when
the original is not halted and not directly after `ei`, and only then. -/
theorem cpu_restored_iff {φ : Type} (F : Fdc φ) (m m' : Machine φ)
    (s : Sna.State) (hm : m.atBoundary = true) (hint : m.st.int = false)
    (hnmi : m.st.nmi = false) :
    Cpu.Equivalent m (m'.loadCpc F (m.saveCpc s)) ↔
      m.st.hlt = false ∧ m.st.aei = false := by
  obtain ⟨b, hb⟩ := loadCpc_cpu F m m' s
  rw [hb]
  exact Cpu.equivalent_saved_iff b hm hint hnmi

/-- A machine whose ROM begins with `ld bc,$1234`, `im 1` and `push bc`, after
these instructions. -/
def pushed : Machine Unit :=
  let code : List Byte := [0x01, 0x34, 0x12, 0xed, 0x56, 0xc5]
  let rom : Fin 2 → Sna.Bank := fun _ o => code.getD o.toNat 0
  let b := Board.construct .k64 ⟨fun _ => 0, fun _ => 0⟩ rom fun _ => none
  run (step .absent) (reset .absent ⟨.zero, .zero, .zero, b, ()⟩)
    (List.replicate 31 .clockCpu)

/-- Its snapshot, loaded into a machine that is switched on. -/
theorem cpu_restored_pushed :
    Cpu.Equivalent pushed
        ((Machine.blank .k128).loadCpc .absent (pushed.saveCpc Sna.fresh)) ↔
      pushed.st.hlt = false ∧ pushed.st.aei = false :=
  cpu_restored_iff .absent pushed (.blank .k128) Sna.fresh (by decide +kernel)
    (by decide +kernel) (by decide +kernel)

/-- A machine whose ROM begins with `halt`, after this instruction. -/
def halted : Machine Unit :=
  let rom : Fin 2 → Sna.Bank := fun _ o => if o = 0 then 0x76 else 0
  let b := Board.construct .k64 ⟨fun _ => 0, fun _ => 0⟩ rom fun _ => none
  run (step .absent) (reset .absent ⟨.zero, .zero, .zero, b, ()⟩)
    (List.replicate 4 .clockCpu)

/-- Its snapshot comes back running. -/
theorem halt_is_lost :
    halted.atBoundary = true ∧ halted.st.int = false ∧
      halted.st.nmi = false ∧
      ¬ Cpu.Equivalent halted
        (halted.loadCpc .absent (halted.saveCpc Sna.fresh)) := by
  have hb : halted.atBoundary = true := by decide +kernel
  have hint : halted.st.int = false := by decide +kernel
  have hnmi : halted.st.nmi = false := by decide +kernel
  refine ⟨hb, hint, hnmi, fun h => ?_⟩
  obtain ⟨b, hload⟩ := loadCpc_cpu .absent halted halted Sna.fresh
  rw [hload] at h
  have hhlt := ((Cpu.equivalent_saved_iff b hb hint hnmi).1 h).1
  exact absurd hhlt (by decide +kernel)

end Xcpc.Cpc.Machine
