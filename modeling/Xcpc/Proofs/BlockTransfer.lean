import Xcpc.Lib.Runs
import Xcpc.Proofs.StatusEffects

/-!
# Repeated transfers and searches

`ldir` and its kind have no loop. Each execution moves one byte, and as long
as the count is not used up it puts the program counter back, so that the next
fetch finds the same instruction. The loop is in the run.

What `k` rounds have done is one structure, and one round makes it that of
`k + 1`. While the instruction has not overwritten itself the rounds follow
one another, until the count is zero.
-/

namespace Xcpc.Cpu

open Prog

variable {β : Type} {I : Interface β}

/-- The processor is between two instructions and not halted. -/
structure Running (s : Instance β) : Prop where
  atBoundary : s.atBoundary = true
  hlt : s.st.hlt = false

theorem Running.fetching {s : Instance β} (h : Running s)
    (ha : s.accepts = false) : Fetching s :=
  ⟨h.atBoundary, h.hlt, ha⟩

/-- An instruction that does not write the status does not halt. -/
theorem Running.instruction {p : Page} {op : Byte} {s : Instance β}
    (h : Running s) (ha : s.accepts = false) (hd : p.Decodes I op s)
    (hst : (p.entry op).micro.writesSt = false) :
    Running (Cpu.instruction I s) := by
  refine ⟨instruction_atBoundary h.atBoundary, ?_⟩
  have hs : (Cpu.instruction I s).st = (p.fetched I s).calm.st := by
    rw [(instruction_decodes (h.fetching ha) hd).st, exec_st,
      status_of_not_writesSt hst]
  rw [hs]
  exact (congrArg (·.hlt) (fetched_st p s)).trans h.hlt

/-- No interrupt is taken before any of `n` instructions. -/
def Uninterrupted (I : Interface β) (n : Nat) (s : Instance β) : Prop :=
  ∀ k < n, ((Cpu.instruction I)^[k] s).accepts = false

/-! ## Memory -/

/-- The bus is a memory: what it answers is a function of its state and of the
address, reading leaves the state alone, and a write is seen at its own
address if anywhere. -/
structure Interface.IsMemory (I : Interface β) (rd : β → Word → Byte) :
    Prop where
  mreqM1 : ∀ b a, I.mreqM1 b a = (rd b a, b)
  mreqRd : ∀ b a, I.mreqRd b a = (rd b a, b)
  frame : ∀ b a v x, x ≠ a → rd (I.mreqWr b a v) x = rd b x

theorem Interface.ram_isMemory : Interface.ram.IsMemory fun b a => b a where
  mreqM1 _ _ := rfl
  mreqRd _ _ := rfl
  frame _ _ _ _ h := if_neg h

namespace Interface.IsMemory

variable {rd : β → Word → Byte} (hI : I.IsMemory rd)

include hI in
/-- An `ed` instruction in memory. -/
theorem decodes_ed {op : Byte} {s : Instance β}
    (hnext : (entryEd op).next = .epilog) (h0 : rd s.bus s.regs.pc.w = 0xed)
    (h1 : rd s.bus (s.regs.pc.w + 1) = op) : Page.ed.Decodes I op s := by
  refine ⟨⟨?_, ?_, trivial⟩, hnext⟩
  · rw [hI.mreqM1]
    exact h0
  · rw [hI.mreqM1, hI.mreqM1]
    exact h1

include hI in
theorem pass_bus (n : Nat) (s : Instance β) : (pass I n s).bus = s.bus := by
  induction n generalizing s with
  | zero => rfl
  | succ n ih =>
      rw [pass, ih, pass1, hI.mreqM1]

include hI in
/-- An `ed` instruction is executed behind its two bytes. -/
theorem instruction_ed {op : Byte} {s : Instance β} (hs : Fetching s)
    (hd : Page.ed.Decodes I op s) :
    ∃ pc l, pc.w = s.regs.pc.w + 2 ∧
      Same (instruction I s)
        (exec I s.regs.pc.w 0 (entryEd op).micro
          { s with regs := { s.regs with
            pc := pc
            ir := { s.regs.ir with l := l } } }.calm).2 := by
  obtain ⟨pc, l, h⟩ := pass_regs (I := I) 2 s
  have hpc : pc.w = s.regs.pc.w + 2 := by
    have hw := congrArg (fun r => r.pc.w) h
    rw [← hw, pass, pass, pass, pass1_pc, pass1_pc, BitVec.add_assoc]
    rfl
  have hf : Same (Page.ed.fetched I s).calm
      { s with regs := { s.regs with
        pc := pc
        ir := { s.regs.ir with l := l } } }.calm :=
    Same.calm ⟨h, (pass_keeps 2 s).2, hI.pass_bus 2 s⟩
  exact ⟨pc, l, hpc,
    (instruction_decodes hs hd).trans (exec_same _ _ _ hf)⟩

end Interface.IsMemory

/-! ## Addresses and counts -/

/-- The address `n` places along. -/
def Dir.offset (d : Dir) (v : Word) (n : Nat) : Word :=
  match d with
  | .up => v + BitVec.ofNat 16 n
  | .down => v - BitVec.ofNat 16 n

theorem Dir.offset_zero (d : Dir) (v : Word) : d.offset v 0 = v := by
  cases d with
  | up => exact BitVec.add_zero v
  | down => exact BitVec.sub_zero v

theorem Dir.move_offset (d : Dir) (v : Word) (n : Nat) :
    d.move (d.offset v n) = d.offset v (n + 1) := by
  cases d with
  | up =>
      simp only [Dir.move, Dir.offset]
      bv_omega
  | down =>
      simp only [Dir.move, Dir.offset]
      bv_omega

/-- The number of rounds. A count of zero stands for all of its values. -/
def rounds {w : Nat} (v : BitVec w) : Nat := if v = 0 then 2 ^ w else v.toNat

theorem rounds_pos {w : Nat} (v : BitVec w) : 0 < rounds v := by
  unfold rounds
  split
  · exact Nat.two_pow_pos w
  · rename_i hv
    have h : v.toNat ≠ 0 := fun h => hv (BitVec.eq_of_toNat_eq h)
    omega

theorem sub_succ {w : Nat} (v : BitVec w) (n : Nat) :
    v - BitVec.ofNat w n - 1 = v - BitVec.ofNat w (n + 1) := by
  rw [BitVec.ofNat_add, sub_sub]
  rfl

theorem rounds_le {w : Nat} (v : BitVec w) : rounds v ≤ 2 ^ w := by
  unfold rounds
  split
  · exact Nat.le_refl _
  · exact v.isLt.le

theorem sub_rounds {w : Nat} (v : BitVec w) :
    v - BitVec.ofNat w (rounds v) = 0 := by
  refine sub_eq_zero.2 (BitVec.eq_of_toNat_eq ?_)
  rw [BitVec.toNat_ofNat, rounds]
  split
  · rename_i hv
    rw [hv, Nat.mod_self]
    rfl
  · exact (Nat.mod_eq_of_lt v.isLt).symm

/-- The count is used up after the last round and not before. -/
theorem count_eq_zero {w : Nat} {v : BitVec w} {k : Nat} (hk : k < rounds v) :
    v - BitVec.ofNat w (k + 1) = 0 ↔ k + 1 = rounds v := by
  constructor
  · intro h
    by_contra hne
    have hle := rounds_le v
    have hval : v.toNat = k + 1 := by
      rw [sub_eq_zero.1 h, BitVec.toNat_ofNat, Nat.mod_eq_of_lt (by omega)]
    have hv : v ≠ 0 := by
      rintro rfl
      exact absurd hval.symm (Nat.succ_ne_zero k)
    exact hne (hval.symm.trans (if_neg hv).symm)
  · intro h
    rw [h, sub_rounds]

/-- The registers that a block instruction does not use. -/
def Regs.besides (r : Regs) : Regs :=
  { r with
    af := { r.af with l := 0 }
    bc := .zero
    de := .zero
    hl := .zero
    pc := .zero
    ir := { r.ir with l := 0 } }

/-- The program counter after a round. -/
def again (b : Bool) (opP : Word) (r : Register) : Register :=
  if b then .ofW opP else r

theorem restorePc_run (opP : Word) (b : Bool) (s : Instance β) :
    ∃ t, (restorePc opP b s).2 =
      { s with regs := { s.regs with pc := again b opP s.regs.pc }, time := t } := by
  cases b with
  | true => exact ⟨s.time.consume 1 5, rfl⟩
  | false => exact ⟨s.time, rfl⟩

/-! ## Transfers -/

/-- What a round of `ldi` or `ldir` does. -/
theorem exec_blockLd (opP wz : Word) (d : Dir) (rep : Bool) (s : Instance β) :
    let v := I.mreqRd s.bus s.regs.hl.w
    let bc := s.regs.bc.w - 1
    Same (exec I opP wz (.blockLd d rep) s).2
      { s with
        regs := { s.regs with
          af := { s.regs.af with
            l := ldiFlags s.regs.af.h v.1 bc s.regs.af.l }
          hl := .ofW (d.move s.regs.hl.w)
          de := .ofW (d.move s.regs.de.w)
          bc := .ofW bc
          pc := again (rep && bc != 0) opP s.regs.pc }
        bus := I.mreqWr v.2 s.regs.de.w v.1 } := by
  intro v bc
  rw [exec]
  simp only [bind_apply, reads, writes, mreqRd, mreqWr, Regs.set16, Regs.setF,
    Register.ofW_w]
  obtain ⟨t, ht⟩ := restorePc_run opP (rep && bc != 0)
    { s with
      regs := { s.regs with
        af := { s.regs.af with
          l := ldiFlags s.regs.af.h v.1 bc s.regs.af.l }
        hl := .ofW (d.move s.regs.hl.w)
        de := .ofW (d.move s.regs.de.w)
        bc := .ofW bc }
      bus := I.mreqWr v.2 s.regs.de.w v.1 }
  rw [ht]
  exact ⟨rfl, rfl, rfl⟩

/-- What a round has done to the instance. -/
structure Moved (I : Interface β) (rd : β → Word → Byte) (d : Dir)
    (s t : Instance β) : Prop where
  bus : t.bus = I.mreqWr s.bus s.regs.de.w (rd s.bus s.regs.hl.w)
  hl : t.regs.hl.w = d.move s.regs.hl.w
  de : t.regs.de.w = d.move s.regs.de.w
  bc : t.regs.bc.w = s.regs.bc.w - 1
  pc : t.regs.pc.w =
    if s.regs.bc.w - 1 = 0 then s.regs.pc.w + 2 else s.regs.pc.w
  pf : t.regs.af.l.getLsbD 2 = (s.regs.bc.w - 1 != 0)
  besides : t.regs.besides = s.regs.besides

theorem ldiFlags_pf (a v : Byte) (bc : Word) (f : Byte) :
    (ldiFlags a v bc f).getLsbD 2 = (bc != 0) := by
  unfold ldiFlags
  cases bc != 0 with
  | true => simp [flags, sel]
  | false => simp [flags, sel]

theorem again_w (b : Bool) (opP : Word) (r : Register) :
    (again b opP r).w = if b then opP else r.w := by
  cases b with
  | true => exact Register.ofW_w opP
  | false => rfl

/-- One round of `ldir` or `lddr`. -/
theorem moved {rd : β → Word → Byte} (hI : I.IsMemory rd) {d : Dir} {op : Byte}
    {s : Instance β} (hs : Fetching s) (hd : Page.ed.Decodes I op s)
    (hop : (entryEd op).micro = .blockLd d true) :
    Moved I rd d s (instruction I s) := by
  obtain ⟨pc, l, hpc, h⟩ := hI.instruction_ed hs hd
  rw [hop] at h
  have h := h.trans (exec_blockLd _ _ d true _)
  simp only [Instance.calm, hI.mreqRd] at h
  constructor
  · exact h.bus
  · rw [h.regs]
    exact Register.ofW_w _
  · rw [h.regs]
    exact Register.ofW_w _
  · rw [h.regs]
    exact Register.ofW_w _
  · rw [h.regs]
    refine (again_w _ _ _).trans ?_
    by_cases hz : s.regs.bc.w - 1 = 0
    · rw [if_pos hz, if_neg (by simpa using hz)]
      exact hpc
    · rw [if_neg hz, if_pos (by simpa using hz)]
  · rw [h.regs]
    exact ldiFlags_pf _ _ _ _
  · rw [h.regs]
    rfl

/-- `mem[DE+i] := mem[HL+i]` for each `i` below `n`, in order. -/
def transfers (I : Interface β) (rd : β → Word → Byte) (d : Dir)
    (s : Instance β) (n : Nat) : β :=
  (List.range n).foldl
    (fun b i => I.mreqWr b (d.offset s.regs.de.w i)
      (rd b (d.offset s.regs.hl.w i)))
    s.bus

theorem transfers_succ (rd : β → Word → Byte) (d : Dir) (s : Instance β)
    (n : Nat) :
    transfers I rd d s (n + 1) =
      I.mreqWr (transfers I rd d s n) (d.offset s.regs.de.w n)
        (rd (transfers I rd d s n) (d.offset s.regs.hl.w n)) := by
  rw [transfers, List.range_succ, List.foldl_append]
  rfl

/-- Addresses that are not written keep their bytes. -/
theorem transfers_frame {rd : β → Word → Byte} (hI : I.IsMemory rd) {d : Dir}
    {s : Instance β} {x : Word} {n : Nat}
    (h : ∀ i < n, d.offset s.regs.de.w i ≠ x) :
    rd (transfers I rd d s n) x = rd s.bus x := by
  induction n with
  | zero => rfl
  | succ n ih =>
      rw [transfers_succ, hI.frame _ _ _ _ (h n (by omega)).symm]
      exact ih fun i hi => h i (by omega)

/-- What `n` rounds have done. -/
structure Transferred (I : Interface β) (rd : β → Word → Byte) (d : Dir)
    (s : Instance β) (n : Nat) (t : Instance β) : Prop where
  running : Running t
  bus : t.bus = transfers I rd d s n
  hl : t.regs.hl.w = d.offset s.regs.hl.w n
  de : t.regs.de.w = d.offset s.regs.de.w n
  bc : t.regs.bc.w = s.regs.bc.w - BitVec.ofNat 16 n
  pf : 0 < n → t.regs.af.l.getLsbD 2 = (t.regs.bc.w != 0)
  besides : t.regs.besides = s.regs.besides

theorem Transferred.zero {rd : β → Word → Byte} {d : Dir} {s : Instance β}
    (h : Running s) : Transferred I rd d s 0 s where
  running := h
  bus := rfl
  hl := (d.offset_zero _).symm
  de := (d.offset_zero _).symm
  bc := (BitVec.sub_zero _).symm
  pf h := absurd h (Nat.lt_irrefl 0)
  besides := rfl

theorem Transferred.succ {rd : β → Word → Byte} (hI : I.IsMemory rd) {d : Dir}
    {op : Byte} {s t : Instance β} {n : Nat} (h : Transferred I rd d s n t)
    (ha : t.accepts = false) (hd : Page.ed.Decodes I op t)
    (hop : (entryEd op).micro = .blockLd d true) :
    Transferred I rd d s (n + 1) (instruction I t) := by
  have hm := moved hI (h.running.fetching ha) hd hop
  constructor
  · exact h.running.instruction ha hd (by
      rw [show (Page.ed.entry op).micro = _ from hop]
      rfl)
  · rw [hm.bus, h.bus, h.hl, h.de, transfers_succ]
  · rw [hm.hl, h.hl, d.move_offset]
  · rw [hm.de, h.de, d.move_offset]
  · rw [hm.bc, h.bc, sub_succ]
  · intro _
    rw [hm.pf, hm.bc]
  · rw [hm.besides, h.besides]

/-- `ldir` and `lddr` -/
def Dir.ldr : Dir → Byte
  | .up => 0xb0
  | .down => 0xb8

theorem entryEd_ldr (d : Dir) : (entryEd d.ldr).micro = .blockLd d true ∧
    (entryEd d.ldr).next = .epilog := by
  cases d with
  | up => exact ⟨by decide +kernel, by decide +kernel⟩
  | down => exact ⟨by decide +kernel, by decide +kernel⟩

/-- `ldir` and `lddr` move as many bytes as `BC` says, and are done. -/
theorem transferred {rd : β → Word → Byte} (hI : I.IsMemory rd) {d : Dir}
    {s : Instance β} (hs : Running s)
    (ha : Uninterrupted I (rounds s.regs.bc.w) s)
    (h0 : rd s.bus s.regs.pc.w = 0xed)
    (h1 : rd s.bus (s.regs.pc.w + 1) = d.ldr)
    (hw : ∀ i < rounds s.regs.bc.w, d.offset s.regs.de.w i ≠ s.regs.pc.w ∧
      d.offset s.regs.de.w i ≠ s.regs.pc.w + 1) :
    (∀ n < rounds s.regs.bc.w,
      ((instruction I)^[n] s).regs.pc.w = s.regs.pc.w) ∧
    let t := (instruction I)^[rounds s.regs.bc.w] s
    Transferred I rd d s (rounds s.regs.bc.w) t ∧ t.regs.bc.w = 0 ∧
      t.regs.pc.w = s.regs.pc.w + 2 ∧ t.regs.af.l.getLsbD 2 = false := by
  obtain ⟨hop, hnext⟩ := entryEd_ldr d
  have hpos := rounds_pos s.regs.bc.w
  obtain ⟨hmid, ht, hpc⟩ := iterate_loop (g := fun t => t.regs.pc.w)
    (P := Transferred I rd d s) (b := s.regs.pc.w + 2) (.zero hs) (by
      intro k hk h hpc
      -- The instruction is still there after `k` rounds.
      have hd : Page.ed.Decodes I d.ldr ((instruction I)^[k] s) := by
        refine hI.decodes_ed hnext ?_ ?_
        · rw [h.bus, hpc, transfers_frame hI fun i hi => (hw i (by omega)).1,
            h0]
        · rw [h.bus, hpc, transfers_frame hI fun i hi => (hw i (by omega)).2,
            h1]
      refine ⟨h.succ hI (ha k hk) hd hop, ?_⟩
      have hm := moved hI (h.running.fetching (ha k hk)) hd hop
      rw [hm.pc, h.bc, sub_succ, hpc]
      exact if_congr (count_eq_zero hk) rfl rfl) hpos
  refine ⟨hmid, ht, ?_, hpc, ?_⟩
  · rw [ht.bc, sub_rounds]
  · rw [ht.pf hpos, ht.bc, sub_rounds]
    rfl

/-! ## Searches -/

/-- What a round of `cpi` or `cpir` does. -/
theorem exec_blockCp (opP wz : Word) (d : Dir) (rep : Bool) (s : Instance β) :
    let v := I.mreqRd s.bus s.regs.hl.w
    let bc := s.regs.bc.w - 1
    Same (exec I opP wz (.blockCp d rep) s).2
      { s with
        regs := { s.regs with
          af := { s.regs.af with
            l := cpiFlags s.regs.af.h v.1 bc s.regs.af.l }
          hl := .ofW (d.move s.regs.hl.w)
          bc := .ofW bc
          pc := again (rep && bc != 0 && s.regs.af.h - v.1 != 0) opP
            s.regs.pc }
        bus := v.2 } := by
  intro v bc
  rw [exec]
  simp only [bind_apply, reads, writes, mreqRd, Regs.set16, Regs.setF,
    Register.ofW_w]
  obtain ⟨t, ht⟩ := restorePc_run opP
    (rep && bc != 0 && s.regs.af.h - v.1 != 0)
    { s with
      regs := { s.regs with
        hl := .ofW (d.move s.regs.hl.w)
        bc := .ofW bc }
      bus := v.2 }
  rw [ht]
  exact ⟨rfl, rfl, rfl⟩

theorem pzs_zf : ∀ r : Byte, (pzs r).getLsbD 6 = (r == 0) := by
  decide +kernel

theorem cpiFlags_zf (a v : Byte) (bc : Word) (f : Byte) :
    (cpiFlags a v bc f).getLsbD 6 = (v == a) ∧
      (cpiFlags a v bc f).getLsbD 2 = (bc != 0) := by
  have hzf : (pzs (a - v)).getLsbD 6 = (v == a) := by
    rw [pzs_zf, Bool.eq_iff_iff, beq_iff_eq, beq_iff_eq]
    constructor
    · intro h
      exact (sub_eq_zero.1 h).symm
    · rintro rfl
      exact BitVec.sub_self _
  constructor
  · rw [← hzf]
    unfold cpiFlags
    simp [flags]
  · unfold cpiFlags
    cases bc != 0 with
    | true => simp [flags, sel]
    | false => simp [flags, sel]

/-- What a round has done to the instance. -/
structure Compared (rd : β → Word → Byte) (d : Dir) (s t : Instance β) :
    Prop where
  bus : t.bus = s.bus
  hl : t.regs.hl.w = d.move s.regs.hl.w
  bc : t.regs.bc.w = s.regs.bc.w - 1
  pc : t.regs.pc.w =
    if s.regs.bc.w - 1 = 0 ∨ rd s.bus s.regs.hl.w = s.regs.af.h then
      s.regs.pc.w + 2
    else s.regs.pc.w
  zf : t.regs.af.l.getLsbD 6 = (rd s.bus s.regs.hl.w == s.regs.af.h)
  pf : t.regs.af.l.getLsbD 2 = (s.regs.bc.w - 1 != 0)
  besides : t.regs.besides = s.regs.besides

/-- One round of `cpir` or `cpdr`. -/
theorem compared {rd : β → Word → Byte} (hI : I.IsMemory rd) {d : Dir}
    {op : Byte} {s : Instance β} (hs : Fetching s)
    (hd : Page.ed.Decodes I op s)
    (hop : (entryEd op).micro = .blockCp d true) :
    Compared rd d s (instruction I s) := by
  obtain ⟨pc, l, hpc, h⟩ := hI.instruction_ed hs hd
  rw [hop] at h
  have h := h.trans (exec_blockCp _ _ d true _)
  simp only [Instance.calm, hI.mreqRd] at h
  constructor
  · exact h.bus
  · rw [h.regs]
    exact Register.ofW_w _
  · rw [h.regs]
    exact Register.ofW_w _
  · rw [h.regs]
    refine (again_w _ _ _).trans ?_
    have hsub : s.regs.af.h - rd s.bus s.regs.hl.w = 0 ↔
        rd s.bus s.regs.hl.w = s.regs.af.h :=
      sub_eq_zero.trans eq_comm
    have hb : (true && s.regs.bc.w - 1 != 0 &&
        s.regs.af.h - rd s.bus s.regs.hl.w != 0) = true ↔
        ¬ (s.regs.bc.w - 1 = 0 ∨ rd s.bus s.regs.hl.w = s.regs.af.h) := by
      rw [Bool.true_and, Bool.and_eq_true, bne_iff_ne, bne_iff_ne, ne_eq, ne_eq,
        hsub, not_or]
    by_cases hz : s.regs.bc.w - 1 = 0 ∨ rd s.bus s.regs.hl.w = s.regs.af.h
    · rw [if_pos hz, if_neg (fun h => hb.1 h hz)]
      exact hpc
    · rw [if_neg hz, if_pos (hb.2 hz)]
  · rw [h.regs]
    exact (cpiFlags_zf _ _ _ _).1
  · rw [h.regs]
    exact (cpiFlags_zf _ _ _ _).2
  · rw [h.regs]
    rfl

/-- What `n` rounds have done. -/
structure Searched (rd : β → Word → Byte) (d : Dir) (s : Instance β) (n : Nat)
    (t : Instance β) : Prop where
  running : Running t
  bus : t.bus = s.bus
  hl : t.regs.hl.w = d.offset s.regs.hl.w n
  bc : t.regs.bc.w = s.regs.bc.w - BitVec.ofNat 16 n
  zf : ∀ i, n = i + 1 → t.regs.af.l.getLsbD 6 =
    (rd s.bus (d.offset s.regs.hl.w i) == s.regs.af.h)
  pf : 0 < n → t.regs.af.l.getLsbD 2 = (t.regs.bc.w != 0)
  besides : t.regs.besides = s.regs.besides

theorem Searched.zero {rd : β → Word → Byte} {d : Dir} {s : Instance β}
    (h : Running s) : Searched rd d s 0 s where
  running := h
  bus := rfl
  hl := (d.offset_zero _).symm
  bc := (BitVec.sub_zero _).symm
  zf i h := absurd h (Nat.succ_ne_zero i).symm
  pf h := absurd h (Nat.lt_irrefl 0)
  besides := rfl

/-- The accumulator is one of the registers besides. -/
theorem Searched.af {rd : β → Word → Byte} {d : Dir} {s t : Instance β}
    {n : Nat} (h : Searched rd d s n t) : t.regs.af.h = s.regs.af.h := by
  show t.regs.besides.af.h = s.regs.besides.af.h
  rw [h.besides]

theorem Searched.succ {rd : β → Word → Byte} (hI : I.IsMemory rd) {d : Dir}
    {op : Byte} {s t : Instance β} {n : Nat} (h : Searched rd d s n t)
    (ha : t.accepts = false) (hd : Page.ed.Decodes I op t)
    (hop : (entryEd op).micro = .blockCp d true) :
    Searched rd d s (n + 1) (instruction I t) := by
  have hm := compared hI (h.running.fetching ha) hd hop
  constructor
  · exact h.running.instruction ha hd (by
      rw [show (Page.ed.entry op).micro = _ from hop]
      rfl)
  · rw [hm.bus, h.bus]
  · rw [hm.hl, h.hl, d.move_offset]
  · rw [hm.bc, h.bc, sub_succ]
  · rintro i ⟨⟩
    rw [hm.zf, h.bus, h.hl, h.af]
  · intro _
    rw [hm.pf, hm.bc]
  · rw [hm.besides, h.besides]

/-- `cpir` and `cpdr` -/
def Dir.cpr : Dir → Byte
  | .up => 0xb1
  | .down => 0xb9

theorem entryEd_cpr (d : Dir) : (entryEd d.cpr).micro = .blockCp d true ∧
    (entryEd d.cpr).next = .epilog := by
  cases d with
  | up => exact ⟨by decide +kernel, by decide +kernel⟩
  | down => exact ⟨by decide +kernel, by decide +kernel⟩

/-- `cpir` and `cpdr` stop at the first byte that equals `A`, or when the count
is used up. -/
theorem searched {rd : β → Word → Byte} (hI : I.IsMemory rd) {d : Dir}
    {s : Instance β} (hs : Running s) (h0 : rd s.bus s.regs.pc.w = 0xed)
    (h1 : rd s.bus (s.regs.pc.w + 1) = d.cpr) :
    let found (i : Nat) := rd s.bus (d.offset s.regs.hl.w i) = s.regs.af.h
    ∃ n < rounds s.regs.bc.w, (∀ i < n, ¬ found i) ∧
      (found n ∨ n + 1 = rounds s.regs.bc.w) ∧
      (Uninterrupted I (n + 1) s →
        (∀ i < n + 1, ((instruction I)^[i] s).regs.pc.w = s.regs.pc.w) ∧
        let t := (instruction I)^[n + 1] s
        Searched rd d s (n + 1) t ∧ t.regs.pc.w = s.regs.pc.w + 2 ∧
          (t.regs.af.l.getLsbD 6 = true ↔ found n) ∧
          (t.regs.af.l.getLsbD 2 = true ↔ t.regs.bc.w ≠ 0)) := by
  intro found
  obtain ⟨hop, hnext⟩ := entryEd_cpr d
  have hpos := rounds_pos s.regs.bc.w
  have hex : ∃ n, found n ∨ n + 1 = rounds s.regs.bc.w :=
    ⟨rounds s.regs.bc.w - 1, .inr (by omega)⟩
  have hdec : DecidablePred fun n => found n ∨ n + 1 = rounds s.regs.bc.w :=
    fun n => inferInstanceAs (Decidable (_ = _ ∨ _))
  obtain ⟨n, hn, hbefore⟩ : ∃ n, (found n ∨ n + 1 = rounds s.regs.bc.w) ∧
      ∀ i < n, ¬ (found i ∨ i + 1 = rounds s.regs.bc.w) :=
    ⟨Nat.find hex, Nat.find_spec hex, fun _ => Nat.find_min hex⟩
  have hlt : n < rounds s.regs.bc.w := by
    by_contra h
    exact hbefore (rounds s.regs.bc.w - 1) (by omega) (.inr (by omega))
  refine ⟨n, hlt, fun i hi => (not_or.1 (hbefore i hi)).1, hn, fun ha => ?_⟩
  obtain ⟨hmid, ht, hpc⟩ := iterate_loop (g := fun t => t.regs.pc.w)
    (P := Searched rd d s) (b := s.regs.pc.w + 2) (.zero hs) (by
      intro k hk h hpc
      have hd : Page.ed.Decodes I d.cpr ((instruction I)^[k] s) := by
        refine hI.decodes_ed hnext ?_ ?_
        · rw [h.bus, hpc, h0]
        · rw [h.bus, hpc, h1]
      refine ⟨h.succ hI (ha k hk) hd hop, ?_⟩
      have hm := compared hI (h.running.fetching (ha k hk)) hd hop
      have hdone : (s.regs.bc.w - BitVec.ofNat 16 (k + 1) = 0 ∨ found k) ↔
          k + 1 = n + 1 := by
        rw [count_eq_zero (by omega), or_comm]
        constructor
        · intro h
          by_contra hne
          exact hbefore k (by omega) h
        · intro h
          rw [Nat.succ.inj h]
          exact hn
      rw [hm.pc, h.bc, sub_succ, h.bus, h.hl, h.af, hpc]
      exact if_congr hdone rfl rfl) (Nat.succ_pos n)
  refine ⟨hmid, ht, hpc, ?_, ?_⟩
  · rw [ht.zf n rfl, beq_iff_eq]
  · rw [ht.pf (Nat.succ_pos n), bne_iff_ne]

/-- A repeated transfer or search in a memory, from its first fetch to the one
behind it. -/
theorem block_transfers {rd : β → Word → Byte} (hI : I.IsMemory rd) (d : Dir)
    {s : Instance β} (hs : Running s) (h0 : rd s.bus s.regs.pc.w = 0xed) :
    (rd s.bus (s.regs.pc.w + 1) = d.ldr →
      Uninterrupted I (rounds s.regs.bc.w) s →
      (∀ i < rounds s.regs.bc.w, d.offset s.regs.de.w i ≠ s.regs.pc.w ∧
        d.offset s.regs.de.w i ≠ s.regs.pc.w + 1) →
      (∀ n < rounds s.regs.bc.w,
        ((instruction I)^[n] s).regs.pc.w = s.regs.pc.w) ∧
      let t := (instruction I)^[rounds s.regs.bc.w] s
      Transferred I rd d s (rounds s.regs.bc.w) t ∧ t.regs.bc.w = 0 ∧
        t.regs.pc.w = s.regs.pc.w + 2 ∧ t.regs.af.l.getLsbD 2 = false) ∧
    (rd s.bus (s.regs.pc.w + 1) = d.cpr →
      let found (i : Nat) := rd s.bus (d.offset s.regs.hl.w i) = s.regs.af.h
      ∃ n < rounds s.regs.bc.w, (∀ i < n, ¬ found i) ∧
        (found n ∨ n + 1 = rounds s.regs.bc.w) ∧
        (Uninterrupted I (n + 1) s →
          (∀ i < n + 1, ((instruction I)^[i] s).regs.pc.w = s.regs.pc.w) ∧
          let t := (instruction I)^[n + 1] s
          Searched rd d s (n + 1) t ∧ t.regs.pc.w = s.regs.pc.w + 2 ∧
            (t.regs.af.l.getLsbD 6 = true ↔ found n) ∧
            (t.regs.af.l.getLsbD 2 = true ↔ t.regs.bc.w ≠ 0))) :=
  ⟨fun h1 ha hw => transferred hI hs ha h0 h1 hw, fun h1 => searched hI hs h0 h1⟩

/-- `ldir` on three bytes that overlap: the first is repeated. -/
theorem ldir_replicates :
    let s : Instance (Word → Byte) :=
      { Instance.reset (program [0xed, 0xb0, 0x2a]) with
        regs := ((Regs.zero.set16 .hlW 2).set16 .deW 3).set16 .bcW 3 }
    ((instruction .ram)^[3] s).bus 5 = 0x2a := by
  intro s
  have hcount : rounds s.regs.bc.w = 3 := by decide
  have hbus : transfers .ram (fun b a => b a) .up s 3 5 = 0x2a := by decide
  have ha : ∀ k < 3, ((instruction .ram)^[k] s).accepts = false := by
    decide +kernel
  have hw : ∀ i < 3, Dir.up.offset s.regs.de.w i ≠ s.regs.pc.w ∧
      Dir.up.offset s.regs.de.w i ≠ s.regs.pc.w + 1 := by decide
  rw [← hcount] at hw ha
  have h := ((block_transfers Interface.ram_isMemory .up ⟨rfl, rfl⟩
    (by decide)).1 (by decide) ha hw).2.1.bus
  rw [hcount] at h
  rw [h, hbus]

end Xcpc.Cpu
