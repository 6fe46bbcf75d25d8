import Xcpc.Proofs.BlockTransfer

/-!
# Repeated inputs and outputs

`inir` and its kind repeat as `ldir` does, but count with `B` alone, which is
also the upper half of the port. An input takes its port before `B` is
decremented and an output behind it, so the two go through different ports.

The bus is a memory whose ports may do anything, to the memory as well. What
it went through is told by the accesses themselves, one round after the other.
-/

namespace Xcpc.Cpu

open Prog

variable {β : Type} {I : Interface β}

/-! ## One round -/

/-- A byte from a port to the memory. -/
def Interface.input (I : Interface β) (b : β) (port a : Word) : β :=
  I.mreqWr (I.iorqRd b port).2 a (I.iorqRd b port).1

/-- A byte from the memory to a port. -/
def Interface.output (I : Interface β) (rd : β → Word → Byte) (b : β)
    (port a : Word) : β :=
  I.iorqWr b port (rd b a)

/-- The port when `B` has been decremented `n` times. -/
def Register.port (bc : Register) (n : Nat) : Word :=
  (bc.h - BitVec.ofNat 8 n) ++ bc.l

theorem exec_blockIn (opP wz : Word) (d : Dir) (rep : Bool) (s : Instance β) :
    let b := s.regs.bc.h - 1
    Same (exec I opP wz (.blockIn d rep) s).2
      { s with
        regs := { s.regs with
          af := { s.regs.af with l := iniFlags b s.regs.af.l }
          bc := { s.regs.bc with h := b }
          hl := .ofW (d.move s.regs.hl.w)
          pc := again (rep && b != 0) opP s.regs.pc }
        bus := I.input s.bus s.regs.bc.w s.regs.hl.w } := by
  intro b
  rw [exec]
  simp only [bind_apply, reads, writes, iorqRd, mreqWr, Regs.set8, Regs.set16,
    Regs.setF]
  obtain ⟨t, ht⟩ := restorePc_run opP (rep && b != 0)
    { s with
      regs := { s.regs with
        bc := { s.regs.bc with h := b }
        hl := .ofW (d.move s.regs.hl.w) }
      bus := I.input s.bus s.regs.bc.w s.regs.hl.w }
  exact ⟨congrArg (fun t : Instance β => t.regs.setF (iniFlags b t.regs.af.l)) ht,
    congrArg (·.st) ht, congrArg (·.bus) ht⟩

theorem exec_blockOut (opP wz : Word) (d : Dir) (rep : Bool)
    (s : Instance β) :
    let v := I.mreqRd s.bus s.regs.hl.w
    let b := s.regs.bc.h - 1
    Same (exec I opP wz (.blockOut d rep) s).2
      { s with
        regs := { s.regs with
          af := { s.regs.af with l := iniFlags b s.regs.af.l }
          bc := { s.regs.bc with h := b }
          hl := .ofW (d.move s.regs.hl.w)
          pc := again (rep && b != 0) opP s.regs.pc }
        bus := I.iorqWr v.2 (b ++ s.regs.bc.l) v.1 } := by
  intro v b
  rw [exec]
  simp only [bind_apply, reads, writes, mreqRd, iorqWr, Regs.set8, Regs.set16,
    Regs.setF]
  obtain ⟨t, ht⟩ := restorePc_run opP (rep && b != 0)
    { s with
      regs := { s.regs with
        bc := { s.regs.bc with h := b }
        hl := .ofW (d.move s.regs.hl.w) }
      bus := I.iorqWr v.2 (b ++ s.regs.bc.l) v.1 }
  exact ⟨congrArg (fun t : Instance β => t.regs.setF (iniFlags b t.regs.af.l)) ht,
    congrArg (·.st) ht, congrArg (·.bus) ht⟩

theorem iniFlags_zf_nf (b f : Byte) :
    (iniFlags b f).getLsbD 6 = (b == 0) ∧ (iniFlags b f).getLsbD 1 = true := by
  constructor
  · rw [← pzs_zf]
    simp [iniFlags, flags]
  · simp [iniFlags, flags]

/-- What a round has done to the instance: one access of kind `f`, with `B`
decremented `j` times before it. -/
structure Ported (f : β → Word → Word → β) (j : Nat) (d : Dir)
    (s t : Instance β) : Prop where
  bus : t.bus = f s.bus (s.regs.bc.port j) s.regs.hl.w
  hl : t.regs.hl.w = d.move s.regs.hl.w
  b : t.regs.bc.h = s.regs.bc.h - 1
  c : t.regs.bc.l = s.regs.bc.l
  de : t.regs.de = s.regs.de
  pc : t.regs.pc.w =
    if s.regs.bc.h - 1 = 0 then s.regs.pc.w + 2 else s.regs.pc.w
  zf : t.regs.af.l.getLsbD 6 = (s.regs.bc.h - 1 == 0)
  nf : t.regs.af.l.getLsbD 1 = true
  besides : t.regs.besides = s.regs.besides

/-- A round of either kind is seen in its registers and in its access. -/
theorem ported_of_regs {f : β → Word → Word → β} {j : Nat} {d : Dir}
    {s t : Instance β} {pc : Register} {l : Byte} (hpc : pc.w = s.regs.pc.w + 2)
    (hregs : t.regs = { s.regs with
      af := { s.regs.af with l := iniFlags (s.regs.bc.h - 1) s.regs.af.l }
      bc := { s.regs.bc with h := s.regs.bc.h - 1 }
      hl := .ofW (d.move s.regs.hl.w)
      ir := { s.regs.ir with l := l }
      pc := again (true && s.regs.bc.h - 1 != 0) s.regs.pc.w pc })
    (hbus : t.bus = f s.bus (s.regs.bc.port j) s.regs.hl.w) :
    Ported f j d s t := by
  constructor
  · exact hbus
  · rw [hregs]
    exact Register.ofW_w _
  · rw [hregs]
  · rw [hregs]
  · rw [hregs]
  · rw [hregs]
    refine (again_w _ _ _).trans ?_
    by_cases hz : s.regs.bc.h - 1 = 0
    · rw [if_pos hz, if_neg (by simpa using hz)]
      exact hpc
    · rw [if_neg hz, if_pos (by simpa using hz)]
  · rw [hregs]
    exact (iniFlags_zf_nf _ _).1
  · rw [hregs]
    exact (iniFlags_zf_nf _ _).2
  · rw [hregs]
    rfl

/-- One round of `inir` or `indr`. -/
theorem ported_in {rd : β → Word → Byte} (hI : I.IsMemory rd) {d : Dir}
    {op : Byte} {s : Instance β} (hs : Fetching s)
    (hd : Page.ed.Decodes I op s)
    (hop : (entryEd op).micro = .blockIn d true) :
    Ported I.input 0 d s (instruction I s) := by
  obtain ⟨pc, l, hpc, h⟩ := hI.instruction_ed hs hd
  rw [hop] at h
  have h := h.trans (exec_blockIn _ _ d true _)
  refine ported_of_regs hpc h.regs (h.bus.trans ?_)
  rw [Register.port, BitVec.sub_zero]
  rfl

/-- One round of `otir` or `otdr`. -/
theorem ported_out {rd : β → Word → Byte} (hI : I.IsMemory rd) {d : Dir}
    {op : Byte} {s : Instance β} (hs : Fetching s)
    (hd : Page.ed.Decodes I op s)
    (hop : (entryEd op).micro = .blockOut d true) :
    Ported (I.output rd) 1 d s (instruction I s) := by
  obtain ⟨pc, l, hpc, h⟩ := hI.instruction_ed hs hd
  rw [hop] at h
  have h := h.trans (exec_blockOut _ _ d true _)
  simp only [hI.mreqRd] at h
  exact ported_of_regs hpc h.regs h.bus

/-! ## All rounds -/

/-- The accesses of `n` rounds, in order: the round `i` goes to the port after
`i + j` decrements, and to the address `i` places along. -/
def accesses (f : β → Word → Word → β) (j : Nat) (d : Dir) (s : Instance β)
    (n : Nat) : β :=
  (List.range n).foldl
    (fun b i => f b (s.regs.bc.port (i + j)) (d.offset s.regs.hl.w i)) s.bus

theorem accesses_succ (f : β → Word → Word → β) (j : Nat) (d : Dir)
    (s : Instance β) (n : Nat) :
    accesses f j d s (n + 1) =
      f (accesses f j d s n) (s.regs.bc.port (n + j))
        (d.offset s.regs.hl.w n) := by
  rw [accesses, List.range_succ, List.foldl_append]
  rfl

/-- What `n` rounds have done. -/
structure Served (f : β → Word → Word → β) (j : Nat) (d : Dir)
    (s : Instance β) (n : Nat) (t : Instance β) : Prop where
  running : Running t
  bus : t.bus = accesses f j d s n
  hl : t.regs.hl.w = d.offset s.regs.hl.w n
  b : t.regs.bc.h = s.regs.bc.h - BitVec.ofNat 8 n
  c : t.regs.bc.l = s.regs.bc.l
  de : t.regs.de = s.regs.de
  zf : 0 < n → t.regs.af.l.getLsbD 6 = (t.regs.bc.h == 0)
  nf : 0 < n → t.regs.af.l.getLsbD 1 = true
  besides : t.regs.besides = s.regs.besides

theorem Served.zero {f : β → Word → Word → β} {j : Nat} {d : Dir}
    {s : Instance β} (h : Running s) : Served f j d s 0 s where
  running := h
  bus := rfl
  hl := (d.offset_zero _).symm
  b := (BitVec.sub_zero _).symm
  c := rfl
  de := rfl
  zf h := absurd h (Nat.lt_irrefl 0)
  nf h := absurd h (Nat.lt_irrefl 0)
  besides := rfl

theorem Served.port {f : β → Word → Word → β} {j : Nat} {d : Dir}
    {s t : Instance β} {n : Nat} (h : Served f j d s n t) :
    t.regs.bc.port j = s.regs.bc.port (n + j) := by
  rw [Register.port, Register.port, h.b, h.c, sub_sub, BitVec.ofNat_add]

theorem Served.succ {f : β → Word → Word → β} {j : Nat} {d : Dir}
    {s t u : Instance β} {n : Nat} (h : Served f j d s n t) (hu : Running u)
    (hp : Ported f j d t u) : Served f j d s (n + 1) u := by
  constructor
  · exact hu
  · rw [hp.bus, h.bus, h.hl, h.port, accesses_succ]
  · rw [hp.hl, h.hl, d.move_offset]
  · rw [hp.b, h.b, sub_succ]
  · rw [hp.c, h.c]
  · rw [hp.de, h.de]
  · intro _
    rw [hp.zf, hp.b]
  · intro _
    exact hp.nf
  · rw [hp.besides, h.besides]

/-- While no interrupt is taken, and while the accesses leave the bytes of the
instruction there, it is executed `B` times in all and is done. -/
def Repeats (I : Interface β) (rd : β → Word → Byte) (op : Byte)
    (f : β → Word → Word → β) (j : Nat) (d : Dir) (s : Instance β) : Prop :=
  let count := rounds s.regs.bc.h
  Uninterrupted I count s →
  (∀ n < count, rd (accesses f j d s n) s.regs.pc.w = 0xed ∧
    rd (accesses f j d s n) (s.regs.pc.w + 1) = op) →
  (∀ n < count, ((instruction I)^[n] s).regs.pc.w = s.regs.pc.w) ∧
    let t := (instruction I)^[count] s
    Served f j d s count t ∧ t.regs.bc.h = 0 ∧
      t.regs.pc.w = s.regs.pc.w + 2 ∧ t.regs.af.l.getLsbD 6 = true ∧
      t.regs.af.l.getLsbD 1 = true

theorem repeats {rd : β → Word → Byte} (hI : I.IsMemory rd)
    {f : β → Word → Word → β} {j : Nat} {d : Dir} {op : Byte} {s : Instance β}
    (hnext : (entryEd op).next = .epilog)
    (hst : (entryEd op).micro.writesSt = false)
    (hf : ∀ t : Instance β, Fetching t → Page.ed.Decodes I op t →
      Ported f j d t (instruction I t))
    (hs : Running s) : Repeats I rd op f j d s := by
  intro ha hcode
  have hpos := rounds_pos s.regs.bc.h
  obtain ⟨hmid, ht, hpc⟩ := iterate_loop (g := fun t => t.regs.pc.w)
    (P := Served f j d s) (b := s.regs.pc.w + 2) (.zero hs) (by
      intro k hk h hpc
      have hd : Page.ed.Decodes I op ((instruction I)^[k] s) := by
        obtain ⟨h0, h1⟩ := hcode k hk
        rw [← h.bus, ← hpc] at h0 h1
        exact hI.decodes_ed hnext h0 h1
      have hp := hf _ (h.running.fetching (ha k hk)) hd
      refine ⟨h.succ (h.running.instruction (ha k hk) hd hst) hp, ?_⟩
      rw [hp.pc, h.b, sub_succ, hpc]
      exact if_congr (count_eq_zero hk) rfl rfl) hpos
  refine ⟨hmid, ht, ?_, hpc, ?_, ht.nf hpos⟩
  · rw [ht.b, sub_rounds]
  · rw [ht.zf hpos, ht.b, sub_rounds]
    rfl

/-! ## The whole runs -/

/-- `inir` and `indr` -/
def Dir.inr : Dir → Byte
  | .up => 0xb2
  | .down => 0xba

/-- `otir` and `otdr` -/
def Dir.otr : Dir → Byte
  | .up => 0xb3
  | .down => 0xbb

theorem entryEd_inr (d : Dir) : (entryEd d.inr).micro = .blockIn d true ∧
    (entryEd d.inr).next = .epilog := by
  cases d with
  | up => exact ⟨by decide +kernel, by decide +kernel⟩
  | down => exact ⟨by decide +kernel, by decide +kernel⟩

theorem entryEd_otr (d : Dir) : (entryEd d.otr).micro = .blockOut d true ∧
    (entryEd d.otr).next = .epilog := by
  cases d with
  | up => exact ⟨by decide +kernel, by decide +kernel⟩
  | down => exact ⟨by decide +kernel, by decide +kernel⟩

/-- An input goes through the port before the decrement of its round, an
output through the port behind it. -/
theorem block_io {rd : β → Word → Byte} (hI : I.IsMemory rd) (d : Dir)
    {s : Instance β} (hs : Running s) :
    Repeats I rd d.inr I.input 0 d s ∧
      Repeats I rd d.otr (I.output rd) 1 d s := by
  constructor
  · obtain ⟨hop, hnext⟩ := entryEd_inr d
    refine repeats hI hnext (by rw [hop]; rfl) ?_ hs
    exact fun t ht hd => ported_in hI ht hd hop
  · obtain ⟨hop, hnext⟩ := entryEd_otr d
    refine repeats hI hnext (by rw [hop]; rfl) ?_ hs
    exact fun t ht hd => ported_out hI ht hd hop

/-- A memory, and the ports that have been used. A port answers with its upper
half. -/
def Interface.traced : Interface ((Word → Byte) × List Word) where
  mreqM1 b a := (b.1 a, b)
  mreqRd b a := (b.1 a, b)
  mreqWr b a v := (fun a' => if a' = a then v else b.1 a', b.2)
  iorqM1 b _ := (0xff, b)
  iorqRd b p := (hi p, (b.1, b.2 ++ [p]))
  iorqWr b p _ := (b.1, b.2 ++ [p])

theorem Interface.traced_isMemory :
    Interface.traced.IsMemory fun b a => b.1 a where
  mreqM1 _ _ := rfl
  mreqRd _ _ := rfl
  frame _ _ _ _ h := if_neg h

/-- Two inputs in a row, through two ports. -/
theorem inir_descends :
    let s : Instance ((Word → Byte) × List Word) :=
      { Instance.reset (program [0xed, 0xb2], []) with
        regs := (Regs.zero.set16 .hlW 2).set16 .bcW 0x0210 }
    let t := (instruction .traced)^[2] s
    t.bus.2 = [0x0210, 0x0110] ∧ t.bus.1 2 = 0x02 ∧ t.bus.1 3 = 0x01 := by
  intro s
  have hcount : rounds s.regs.bc.h = 2 := by decide
  have ha : ∀ k < 2, ((instruction .traced)^[k] s).accepts = false := by
    decide +kernel
  have hcode : ∀ n < 2,
      (accesses Interface.traced.input 0 .up s n).1 s.regs.pc.w = 0xed ∧
        (accesses Interface.traced.input 0 .up s n).1 (s.regs.pc.w + 1) =
          Dir.up.inr := by decide
  rw [← hcount] at hcode ha
  have h := ((block_io Interface.traced_isMemory .up ⟨rfl, rfl⟩).1 ha
    hcode).2.1.bus
  rw [hcount] at h
  intro t
  rw [h]
  decide

end Xcpc.Cpu
