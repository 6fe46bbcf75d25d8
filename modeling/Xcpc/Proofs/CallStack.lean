import Xcpc.Proofs.ControlFlow
import Xcpc.Proofs.MemoryMap

/-!
# The call stack

Nested calls leave their return addresses on the stack, and the returns take
them off again. On this machine the stack can be anywhere in memory, and what
is written is not always what is read: a ROM can lie over the RAM that a push
goes to. Where reads and writes go through the same bank, the bytes of a push
stay where they are until something else is written there.

The stack pointer wraps. The stack can take all of memory, and it never runs
over itself as long as its words fit.
-/

namespace Xcpc.Cpc.Board

open Prog
open Sna (Bank)

/-! ## Memory that can be written -/

/-- A write goes to RAM, and to another bank on every page. -/
def Backed (b : Board) : Prop :=
  ∃ banks : BitVec 2 → Fin 8, Function.Injective banks ∧
    ∀ i, b.palWr i = .ram (banks i)

/-- The address is read where it is written. -/
def SameBank (b : Board) (a : Word) : Prop := b.palRd (page a) = b.palWr (page a)

instance instDecidableSameBank (b : Board) (a : Word) :
    Decidable (b.SameBank a) :=
  inferInstanceAs (Decidable (_ = _))

theorem Backed.of_palWr {b b' : Board} (h : b.Backed)
    (hw : b'.palWr = b.palWr) : b'.Backed := by
  obtain ⟨banks, hinj, hb⟩ := h
  exact ⟨banks, hinj, fun i => (congrFun hw i).trans (hb i)⟩

theorem Backed.offPpi {b b' : Board} (h : b.Backed)
    (ho : b'.offPpi = b.offPpi) : b'.Backed :=
  h.of_palWr (show b'.offPpi.palWr = b.offPpi.palWr by rw [ho])

/-- No configuration shows a bank on two pages. -/
theorem layout_injective {conf : Byte} {banks : BitVec 2 → Fin 8}
    (h : layout conf = some banks) : Function.Injective banks := by
  unfold layout at h
  generalize (conf &&& 0x3f).toNat = n at h
  match n with
  | 0 | 1 | 2 | 3 | 4 | 5 | 6 | 7 =>
      rw [← Option.some.inj h]
      unfold Function.Injective
      decide
  | n + 8 => cases h

theorem backed_mapRam (b : Board) {banks : BitVec 2 → Fin 8}
    (h : Function.Injective banks) : (b.mapRam banks).Backed :=
  ⟨banks, h, fun _ => rfl⟩

theorem updatePal_palWr (b : Board) :
    b.updatePal.palWr = b.updateRam.palWr := by
  unfold updatePal
  rw [updateUpper_eq, updateLower_eq]

/-- A known configuration sets the pages, and an unknown one leaves them. -/
theorem backed_updatePal {b : Board} (h : b.ramBanks = none → b.Backed) :
    b.updatePal.Backed := by
  refine Backed.of_palWr ?_ (updatePal_palWr b)
  cases hb : b.ramBanks with
  | some banks =>
      rw [updateRam_some hb]
      refine backed_mapRam b ?_
      unfold ramBanks at hb
      split at hb
      · exact layout_injective hb
      · rw [← Option.some.inj hb]
        unfold Function.Injective
        decide
  | none =>
      unfold ramBanks at hb
      split at hb
      · rename_i hm
        rw [updateRam, if_pos hm, hb]
        exact h (by rw [ramBanks, if_pos hm, hb])
      · cases hb

theorem reset_backed (b : Board) : b.reset.Backed := by
  refine backed_updatePal fun h => ?_
  have hsome : b.cleared.ramBanks.isSome = true := by
    rw [ramBanks_isSome]
    intro _
    show ((0 : Byte) &&& 0x3f).toNat ≤ 7
    decide
  rw [show b.cleared.ramBanks = none from h] at hsome
  cases hsome

theorem store_palWr (b : Board) (ref : BankRef) (o : BitVec 14) (v : Byte) :
    (b.store ref o v).palWr = b.palWr := by
  cases ref with
  | _ => rfl

theorem vgaSetValue_backed {b : Board} (h : b.Backed) (v : Byte) :
    ((b.vgaSetValue v).getD b).Backed := by
  obtain ⟨_, hv⟩ | ⟨_, vga, hv⟩ | ⟨_, hv⟩ := vgaSetValue_cases b v
  · rw [hv]
    exact backed_updatePal fun _ => h.of_palWr rfl
  · rw [hv]
    exact backed_updatePal fun _ => h.of_palWr rfl
  · simp only [mapView, Prod.mk.injEq] at hv
    exact h.of_palWr hv.2.2.2.2.2.2

theorem iorqRd_backed {b : Board} (h : b.Backed) (port : Word) :
    (b.iorqRd port).2.Backed := by
  have hvdc (v : Byte) : (b.iorqRdVdc port v).2.Backed := by
    refine h.of_palWr ?_
    unfold iorqRdVdc
    split
    · split
      · rfl
      · rfl
      · rfl
      · rfl
    · rfl
  exact (hvdc _).offPpi (offPpi_iorqRdPpi _ port _)

theorem iorqWr_backed {b : Board} (h : b.Backed) (port : Word) (v : Byte) :
    (b.iorqWr port v).Backed := by
  have hvga : (b.iorqWrVga port v).Backed := by
    unfold iorqWrVga
    split
    · exact vgaSetValue_backed h v
    · exact h
  have hvdc : ((b.iorqWrVga port v).iorqWrVdc port v).Backed := by
    refine hvga.of_palWr ?_
    unfold iorqWrVdc
    split
    · split
      · rfl
      · rfl
      · rfl
    · rfl
  have hrom : (((b.iorqWrVga port v).iorqWrVdc port v).iorqWrRom port
      v).Backed := by
    unfold iorqWrRom
    split
    · exact backed_updatePal fun _ => hvdc.of_palWr rfl
    · exact hvdc
  exact hrom.offPpi (offPpi_iorqWrPpi _ port v)

theorem loaded_palWr (b : Board) (s : Sna.State) :
    (b.loaded s).palWr = b.palWr := by
  have hppi (b : Board) (h : Sna.Header) : (b.loadPpi h).palWr = b.palWr := by
    show (b.loadPpi h).offPpi.palWr = b.offPpi.palWr
    rw [offPpi_loadPpi]
  simp only [loaded, storeMem, loadRom, loadRam, loadPsg, hppi, loadVdc,
    loadVga]

/-- Every step of a machine keeps its memory backed. -/
theorem backed_invariant : Invariant Backed where
  mreqWr b a v h := h.of_palWr (store_palWr b _ _ v)
  iorqM1 b h := h.of_palWr rfl
  iorqRd b p h := iorqRd_backed h p
  iorqWr b p v h := iorqWr_backed h p v
  hsync b x r hr h := by
    unfold assertHsync at hr
    obtain ⟨r', _, rfl⟩ := Option.map_eq_some_iff.mp hr
    exact h.of_palWr rfl
  vsync b x h := h.of_palWr rfl
  vdc b h := h.of_palWr rfl
  psg b h := h.of_palWr rfl
  keys b keys h := h.of_palWr rfl
  reset b := reset_backed b
  load b s := backed_updatePal fun _ =>
    (reset_backed b).of_palWr (loaded_palWr b.reset s)

/-! ## Reads and writes -/

theorem page_offset_inj {a x : Word} (hp : page a = page x)
    (ho : offset a = offset x) : a = x := by
  have ha : page a ++ offset a = a := BitVec.extractLsb'_append_extractLsb'
  have hx : page x ++ offset x = x := BitVec.extractLsb'_append_extractLsb'
  rw [← ha, hp, ho, hx]

theorem sameBank_mreqWr (b : Board) (a x : Word) (v : Byte) :
    (b.mreqWr a v).SameBank x ↔ b.SameBank x := by
  unfold mreqWr SameBank
  cases b.palWr (page a) with
  | _ => rfl

theorem mreqWr_backed {b : Board} (h : b.Backed) (a : Word) (v : Byte) :
    (b.mreqWr a v).Backed :=
  h.of_palWr (store_palWr b _ _ v)

/-- What a read answers after a write, at an address that is read where it is
written. -/
theorem mreqRd_mreqWr {b : Board} (h : b.Backed) {a x : Word}
    (hx : b.SameBank x) (v : Byte) :
    (b.mreqWr a v).mreqRd x = if x = a then v else b.mreqRd x := by
  obtain ⟨banks, hinj, hb⟩ := h
  have hstore : b.mreqWr a v =
      { b with
        ram := Function.update b.ram (banks (page a))
          (Function.update (b.ram (banks (page a))) (offset a) v) } := by
    rw [mreqWr, hb]
    rfl
  have hread (ram : Fin 8 → Bank) :
      { b with ram := ram }.mreqRd x = ram (banks (page x)) (offset x) := by
    show bank _ (b.palRd (page x)) _ = _
    rw [hx, hb]
    rfl
  rw [hstore, hread, show b.mreqRd x = _ from hread b.ram]
  by_cases hp : page x = page a
  · rw [hp, Function.update_self]
    by_cases ho : offset x = offset a
    · rw [if_pos (page_offset_inj hp ho), ho, Function.update_self]
    · rw [Function.update_of_ne ho, if_neg fun h => ho (congrArg offset h)]
  · rw [Function.update_of_ne fun h => hp (hinj h),
      if_neg fun h => hp (congrArg page h)]

end Xcpc.Cpc.Board

namespace Xcpc.Cpu

open Prog

variable {β : Type} {I : Interface β}

/-! ## Calls and returns -/

/-- The operand bytes of a call that is taken. -/
def Instr.callBytes (f : Byte) : Instr → Option Nat
  | .callI16 => some 2
  | .callCcI16 cc => if cc.met f then some 2 else none
  | .rstVec16 _ => some 0
  | _ => none

/-- A return that is taken. -/
def Instr.returns (f : Byte) : Instr → Bool
  | .ret | .reti | .retn => true
  | .retCc cc => cc.met f
  | _ => false

/-- Reads do not change what is behind the interface. -/
def Interface.PureReads (I : Interface β) : Prop :=
  ∀ b a, (I.mreqRd b a).2 = b

theorem readWord_pure (hI : I.PureReads) (a : Word) (s : Instance β) :
    (readWord I a s).2 = s := by
  simp only [readWord]
  rw [hI s.bus a, hI]

/-- A taken call pushes the address behind its operand bytes. -/
theorem exec_called (hI : I.PureReads) (opP wz : Word) {i : Instr} {k : Nat}
    {s : Instance β} (h : i.callBytes s.regs.af.l = some k) :
    ∃ a, Same (exec I opP wz i s).2
      ((s.pushed I (s.regs.pc.w + BitVec.ofNat 16 k)).withPc a) := by
  cases i with
  | callI16 =>
      cases h
      have hcall := exec_takes (I := I) .call opP wz s
      rw [Flow.takes, readWord_pure hI] at hcall
      exact ⟨_, hcall⟩
  | callCcI16 cc =>
      cases hm : cc.met s.regs.af.l with
      | true =>
          rw [Instr.callBytes, hm] at h
          cases h
          have hcall := exec_rowCc (I := I) .call cc opP wz s
          rw [hm, if_pos rfl, Flow.takes, readWord_pure hI] at hcall
          exact ⟨_, hcall⟩
      | false =>
          rw [Instr.callBytes, hm] at h
          cases h
  | rstVec16 a =>
      cases h
      refine ⟨a, ?_⟩
      rw [exec, BitVec.add_zero]
      exact Same.refl _
  | _ => cases h

/-- A taken return takes the word at the stack pointer. Only `retn` touches
anything else. -/
theorem exec_returned (hI : I.PureReads) (opP wz : Word) {i : Instr}
    {s : Instance β} (h : i.returns s.regs.af.l = true) :
    (exec I opP wz i s).2.regs =
        (s.regs.setSp (s.regs.sp.w + 2)).setPc
          (readWord I s.regs.sp.w s).1 ∧
      (exec I opP wz i s).2.bus = s.bus := by
  have hbus : (readWord I s.regs.sp.w s).2.bus = s.bus := by
    rw [readWord_pure hI]
  cases i with
  | ret => exact ⟨rfl, hbus⟩
  | reti => exact ⟨rfl, hbus⟩
  | retn => exact ⟨rfl, hbus⟩
  | retCc cc =>
      have hret := exec_rowCc (I := I) .ret cc opP wz s
      rw [show cc.met s.regs.af.l = true from h, if_pos rfl] at hret
      exact ⟨hret.regs, hret.bus.trans hbus⟩
  | _ => cases h

end Xcpc.Cpu

namespace Xcpc.Cpc.Machine

open Prog Cpu

variable {φ : Type} (F : Fdc φ)

/-! ## The machine -/

/-- The machine after some run from a reset. -/
def Reached (m : Machine φ) : Prop :=
  ∃ (m₀ : Machine φ) (es : List Event), m = run (step F) (m₀.reset F) es

/-- The machine is about to take a call with this return address. -/
structure Calls (m : Machine φ) (r : Word) : Prop where
  fetching : Fetching m
  row : ∃ p op k, Page.Decodes (Bus.interface F) p op m ∧
    (p.entry op).micro.callBytes m.regs.af.l = some k ∧
    r = (p.fetched (Bus.interface F) m).regs.pc.w + BitVec.ofNat 16 k

/-- The machine is about to take a return. -/
structure Returns (m : Machine φ) : Prop where
  fetching : Fetching m
  row : ∃ p op, Page.Decodes (Bus.interface F) p op m ∧
    (p.entry op).micro.returns m.regs.af.l = true

/-- `t` has the `d` words on the stack of `s`. -/
def SameStack (d : Nat) (s t : Machine φ) : Prop :=
  t.regs.sp.w = s.regs.sp.w ∧ ∀ k < 2 * d,
    t.board.mreqRd (s.regs.sp.w + BitVec.ofNat 16 k) =
      s.board.mreqRd (s.regs.sp.w + BitVec.ofNat 16 k)

/-- The return addresses `r 0` to `r (d - 1)` are on the stack below `sp`, and
nothing else. -/
structure OnStack (sp : Word) (r : Nat → Word) (d : Nat) (m : Machine φ) :
    Prop where
  pointer : m.regs.sp.w = sp - BitVec.ofNat 16 (2 * d)
  high : ∀ j < d,
    m.board.mreqRd (sp - BitVec.ofNat 16 (2 * j + 1)) = hi (r j)
  low : ∀ j < d,
    m.board.mreqRd (sp - BitVec.ofNat 16 (2 * j + 2)) = lo (r j)

variable {F}

theorem interface_pureReads : (Bus.interface F).PureReads := fun _ _ => rfl

theorem pass_bus (n : Nat) (m : Machine φ) :
    (pass (Bus.interface F) n m).bus = m.bus := by
  induction n generalizing m with
  | zero => rfl
  | succ n ih => exact ih (pass1 (Bus.interface F) m)

theorem fetchByte_bus (m : Machine φ) :
    (fetchByte (Bus.interface F) m).2.bus = m.bus := rfl

theorem fetched_bus (p : Page) (m : Machine φ) :
    (p.fetched (Bus.interface F) m).bus = m.bus := by
  cases hi : p.index with
  | none =>
      rw [Page.fetched, hi]
      exact pass_bus _ m
  | some r =>
      rw [Page.fetched, hi]
      show (fetchByte _ (fetchByte _ (pass _ 2 m)).2).2.bus = _
      rw [fetchByte_bus, fetchByte_bus, pass_bus]

/-- Behind the opcode only the program counter and the refresh register have
moved. -/
theorem fetched_keeps (p : Page) (m : Machine φ) :
    (p.fetched (Bus.interface F) m).calm.regs.af = m.regs.af ∧
      (p.fetched (Bus.interface F) m).calm.regs.sp = m.regs.sp ∧
      (p.fetched (Bus.interface F) m).calm.bus = m.bus := by
  obtain ⟨pc, l, hregs⟩ := fetched_regs (I := Bus.interface F) p m
  refine ⟨?_, ?_, fetched_bus p m⟩
  · show (p.fetched (Bus.interface F) m).regs.af = _
    rw [hregs]
  · show (p.fetched (Bus.interface F) m).regs.sp = _
    rw [hregs]

/-- A call pushes its return address. -/
theorem instruction_calls {m : Machine φ} {r : Word} (h : Calls F m r) :
    let t : Machine φ := instruction (Bus.interface F) m
    t.regs.sp.w = m.regs.sp.w - 2 ∧
      t.board = (m.board.mreqWr (m.regs.sp.w - 1) (hi r)).mreqWr
        (m.regs.sp.w - 2) (lo r) := by
  intro t
  obtain ⟨p, op, k, hd, hk, hr⟩ := h.row
  obtain ⟨haf, hsp, hbus⟩ := fetched_keeps (F := F) p m
  have hsame := instruction_decodes h.fetching hd
  have hr' : r = (p.fetched (Bus.interface F) m).calm.regs.pc.w +
      BitVec.ofNat 16 k := hr
  generalize (p.fetched (Bus.interface F) m).calm = b at *
  rw [← haf] at hk
  obtain ⟨a, hcall⟩ := exec_called interface_pureReads m.regs.pc.w
    (p.wz (Bus.interface F) m) hk
  have hall := hsame.trans hcall
  rw [← hr'] at hall
  constructor
  · rw [show t.regs = _ from hall.regs]
    show (Register.ofW (b.regs.sp.w - 2)).w = _
    rw [Register.ofW_w, hsp]
  · rw [board, show t.bus = _ from hall.bus, ← hsp]
    show ((b.bus.board.mreqWr _ _).mreqWr _ _) = _
    rw [hbus]
    rfl

/-- A return goes on at the word on the stack. -/
theorem instruction_returns {m : Machine φ} (h : Returns F m) :
    let t : Machine φ := instruction (Bus.interface F) m
    t.regs.pc.w = m.board.mreqRd (m.regs.sp.w + 1) ++
        m.board.mreqRd m.regs.sp.w ∧
      t.regs.sp.w = m.regs.sp.w + 2 ∧ t.board = m.board := by
  intro t
  obtain ⟨p, op, hd, hk⟩ := h.row
  obtain ⟨haf, hsp, hbus⟩ := fetched_keeps (F := F) p m
  have hsame := instruction_decodes h.fetching hd
  generalize (p.fetched (Bus.interface F) m).calm = b at *
  rw [← haf] at hk
  obtain ⟨hregs, hb⟩ := exec_returned interface_pureReads m.regs.pc.w
    (p.wz (Bus.interface F) m) hk
  rw [← hsp]
  refine ⟨?_, ?_, ?_⟩
  · rw [show t.regs = _ from hsame.regs.trans hregs, Regs.setPc_pc]
    show (b.bus.board.mreqRd _ ++ b.bus.board.mreqRd _ : Word) = _
    rw [hbus]
    rfl
  · rw [show t.regs = _ from hsame.regs.trans hregs]
    exact Register.ofW_w _
  · rw [board, show t.bus = _ from hsame.bus.trans hb, hbus]
    rfl

/-! ## The stack -/

theorem OnStack.kept {sp : Word} {r : Nat → Word} {d : Nat}
    {s t : Machine φ} (h : OnStack sp r d s) (hk : SameStack d s t) :
    OnStack sp r d t := by
  obtain ⟨hsp, hread⟩ := hk
  rw [h.pointer] at hsp hread
  refine ⟨hsp, fun j hj => ?_, fun j hj => ?_⟩
  · have ha : sp - BitVec.ofNat 16 (2 * j + 1) =
        sp - BitVec.ofNat 16 (2 * d) +
          BitVec.ofNat 16 (2 * d - (2 * j + 1)) := by bv_omega
    rw [ha, hread _ (by omega), ← ha]
    exact h.high j hj
  · have ha : sp - BitVec.ofNat 16 (2 * j + 2) =
        sp - BitVec.ofNat 16 (2 * d) +
          BitVec.ofNat 16 (2 * d - (2 * j + 2)) := by bv_omega
    rw [ha, hread _ (by omega), ← ha]
    exact h.low j hj

/-- The `k`-th byte down the stack. -/
theorem below_inj {sp : Word} {k l : Nat} (hk : k ≤ 65536) (hl : l ≤ 65536)
    (hk0 : 0 < k) (hl0 : 0 < l)
    (h : sp - BitVec.ofNat 16 k = sp - BitVec.ofNat 16 l) : k = l := by
  bv_omega

/-- A call puts its return address on the stack. -/
theorem OnStack.call {sp : Word} {r : Nat → Word} {d : Nat} {m : Machine φ}
    (h : OnStack sp r d m) (hc : Calls F m (r d)) (hb : m.board.Backed)
    (hram : ∀ k < 2 * (d + 1),
      m.board.SameBank (m.regs.sp.w - 2 + BitVec.ofNat 16 k))
    (hd : 2 * (d + 1) ≤ 65536) :
    OnStack sp r (d + 1) (instruction (Bus.interface F) m) := by
  obtain ⟨hsp, hboard⟩ := instruction_calls hc
  rw [h.pointer] at hsp hboard hram
  have hhi : sp - BitVec.ofNat 16 (2 * d) - 1 =
      sp - BitVec.ofNat 16 (2 * d + 1) := by bv_omega
  have hlo : sp - BitVec.ofNat 16 (2 * d) - 2 =
      sp - BitVec.ofNat 16 (2 * d + 2) := by bv_omega
  rw [hhi, hlo] at hboard
  have hread {k : Nat} (hk0 : 0 < k) (hk : k ≤ 2 * (d + 1)) :
      (instruction (Bus.interface F) m).bus.board.mreqRd
          (sp - BitVec.ofNat 16 k) =
        if k = 2 * d + 2 then lo (r d)
        else if k = 2 * d + 1 then hi (r d)
        else m.board.mreqRd (sp - BitVec.ofNat 16 k) := by
    have hx : m.board.SameBank (sp - BitVec.ofNat 16 k) := by
      have ha : sp - BitVec.ofNat 16 k =
          sp - BitVec.ofNat 16 (2 * d) - 2 +
            BitVec.ofNat 16 (2 * (d + 1) - k) := by bv_omega
      rw [ha]
      exact hram _ (by omega)
    have hne {l : Nat} (hl0 : 0 < l) (hl : l ≤ 65536) :
        sp - BitVec.ofNat 16 k = sp - BitVec.ofNat 16 l ↔ k = l :=
      ⟨below_inj (by omega) hl hk0 hl0, fun h => by rw [h]⟩
    rw [show (instruction (Bus.interface F) m).bus.board = _ from hboard,
      Board.mreqRd_mreqWr (Board.mreqWr_backed hb _ _)
        ((Board.sameBank_mreqWr _ _ _ _).2 hx),
      Board.mreqRd_mreqWr hb hx]
    simp only [hne (show 0 < 2 * d + 2 by omega) (by omega),
      hne (show 0 < 2 * d + 1 by omega) (by omega)]
  refine ⟨hsp.trans (by bv_omega), fun j hj => ?_, fun j hj => ?_⟩
  · refine (hread (by omega) (by omega)).trans ?_
    rw [if_neg (by omega)]
    rcases Nat.lt_succ_iff_lt_or_eq.1 hj with hlt | rfl
    · rw [if_neg (by omega)]
      exact h.high j hlt
    · rw [if_pos rfl]
  · refine (hread (by omega) (by omega)).trans ?_
    rcases Nat.lt_succ_iff_lt_or_eq.1 hj with hlt | rfl
    · rw [if_neg (by omega), if_neg (by omega)]
      exact h.low j hlt
    · rw [if_pos rfl]

/-- A return takes the last return address off the stack. -/
theorem OnStack.ret {sp : Word} {r : Nat → Word} {d : Nat} {m : Machine φ}
    (h : OnStack sp r (d + 1) m) (hr : Returns F m) :
    OnStack sp r d (instruction (Bus.interface F) m) ∧
      (instruction (Bus.interface F) m).regs.pc.w = r d := by
  obtain ⟨hpc, hsp, hboard⟩ := instruction_returns hr
  have hhi : sp - BitVec.ofNat 16 (2 * (d + 1)) + 1 =
      sp - BitVec.ofNat 16 (2 * d + 1) := by bv_omega
  rw [h.pointer] at hpc hsp
  constructor
  · refine ⟨hsp.trans (by bv_omega), fun j hj => ?_, fun j hj => ?_⟩
    · rw [hboard]
      exact h.high j (by omega)
    · rw [hboard]
      exact h.low j (by omega)
  · rw [hpc, hhi, h.high d (by omega)]
    refine (congrArg (hi (r d) ++ ·) (h.low d (by omega))).trans ?_
    exact BitVec.extractLsb'_append_extractLsb'

/-! ## Nested calls -/

/-- The words on the stack before the `i`-th of `2 * n` instructions. -/
def depth (n i : Nat) : Nat := min i (2 * n - i)

variable (F) in
/-- `n` calls, and then `n` returns. `m i` is about to execute the `i`-th of
them, and `r i` is the return address of the `i`-th call. In between anything
may happen that leaves the stack alone. -/
structure Nested (n : Nat) (m : Nat → Machine φ) (r : Nat → Word) : Prop where
  reached : ∀ i < 2 * n, Reached F (m i)
  calls : ∀ i < n, Calls F (m i) (r i)
  returns : ∀ i < n, Returns F (m (n + i))
  ram : ∀ i < n, ∀ k < 2 * (i + 1),
    (m i).board.SameBank ((m i).regs.sp.w - 2 + BitVec.ofNat 16 k)
  kept : ∀ i, i + 1 < 2 * n →
    SameStack (depth n (i + 1)) (instruction (Bus.interface F) (m i))
      (m (i + 1))

theorem Reached.backed {m : Machine φ} (h : Reached F m) :
    m.board.Backed := by
  obtain ⟨m₀, es, rfl⟩ := h
  exact run_invariant Board.backed_invariant m₀ es

/-- Before each instruction the stack holds the calls that have not returned. -/
theorem Nested.onStack {n : Nat} {m : Nat → Machine φ} {r : Nat → Word}
    (h : Nested F n m r) (hn : 2 * n ≤ 65536) {i : Nat} (hi : i < 2 * n) :
    OnStack (m 0).regs.sp.w r (depth n i) (m i) := by
  induction i with
  | zero =>
      have hd : depth n 0 = 0 := Nat.zero_min _
      rw [hd]
      exact ⟨(BitVec.sub_zero _).symm, fun j hj => absurd hj (Nat.not_lt_zero j),
        fun j hj => absurd hj (Nat.not_lt_zero j)⟩
  | succ i ih =>
      have hstack := ih (by omega)
      refine OnStack.kept ?_ (h.kept i hi)
      rcases Nat.lt_or_ge i n with hlt | hge
      · have hd : depth n i = i := Nat.min_eq_left (by omega)
        have hd' : depth n (i + 1) = i + 1 := Nat.min_eq_left (by omega)
        rw [hd] at hstack
        rw [hd']
        exact hstack.call (h.calls i hlt) (h.reached i (by omega)).backed
          (h.ram i hlt) (by omega)
      · have hd : depth n i = 2 * n - (i + 1) + 1 :=
          (Nat.min_eq_right (by omega)).trans (by omega)
        have hd' : depth n (i + 1) = 2 * n - (i + 1) :=
          Nat.min_eq_right (by omega)
        have hret := h.returns (i - n) (by omega)
        rw [Nat.add_sub_cancel' hge] at hret
        rw [hd] at hstack
        rw [hd']
        exact (hstack.ret hret).1

/-- The returns go on where the calls came from, the last call first, and each
leaves the stack pointer as it was before its call. -/
theorem Nested.resumes {n : Nat} {m : Nat → Machine φ} {r : Nat → Word}
    (h : Nested F n m r) (hn : 2 * n ≤ 65536) {i : Nat} (hi : i < n) :
    let t : Machine φ := instruction (Bus.interface F) (m (2 * n - 1 - i))
    t.regs.pc.w = r i ∧ t.regs.sp.w = (m i).regs.sp.w := by
  have hcall := h.onStack hn (i := i) (by omega)
  have hstack := h.onStack hn (i := 2 * n - 1 - i) (by omega)
  have hd : depth n i = i := Nat.min_eq_left (by omega)
  have hd' : depth n (2 * n - 1 - i) = i + 1 :=
    (Nat.min_eq_right (by omega)).trans (by omega)
  have hret := h.returns (n - 1 - i) (by omega)
  rw [show n + (n - 1 - i) = 2 * n - 1 - i by omega] at hret
  rw [hd] at hcall
  rw [hd'] at hstack
  obtain ⟨hleft, hpc⟩ := hstack.ret hret
  exact ⟨hpc, hleft.pointer.trans hcall.pointer.symm⟩

/-- Jumps, calls and returns by their conditions, and calls that are nested
to any depth that fits in memory. -/
theorem control_and_call_stack (F : Fdc φ) :
    (∀ (β : Type) (I : Interface β), ControlLaw I) ∧
      ∀ (n : Nat) (m : Nat → Machine φ) (r : Nat → Word), Nested F n m r →
        2 * n ≤ 65536 → ∀ i < n,
          let t : Machine φ :=
            instruction (Bus.interface F) (m (2 * n - 1 - i))
          t.regs.pc.w = r i ∧ t.regs.sp.w = (m i).regs.sp.w :=
  ⟨fun _ I => control_flow I, fun _ _ _ h hn _ hi => h.resumes hn hi⟩

theorem Reached.instruction {m : Machine φ} (h : Reached F m) :
    Reached F (Cpu.instruction (Bus.interface F) m) := by
  obtain ⟨m₀, es, rfl⟩ := h
  have hclocks (k : Nat) (m : Machine φ) :
      run (step F) m (List.replicate k .clockCpu) =
        (Cpu.clock (Bus.interface F))^[k] m := by
    induction k generalizing m with
    | zero => rfl
    | succ k ih => exact ih (Cpu.clock (Bus.interface F) m)
  let k := clocks (Bus.interface F) (run (step F) (m₀.reset F) es)
  refine ⟨m₀, es ++ List.replicate k .clockCpu, ?_⟩
  rw [run_append, hclocks]
  rfl

/-- `ld sp,8000`, `call 0008`, where `rst 10` is called and returns. -/
def nestingRom : List Byte :=
  [0x31, 0x00, 0x80, 0xcd, 0x08, 0x00, 0x76, 0x00, 0xd7, 0xc9, 0x00, 0x00,
    0x00, 0x00, 0x00, 0x00, 0xc9]

def nestingOff : Machine Unit :=
  Instance.reset ⟨Board.construct .k64 ⟨fun _ => 0, fun _ => 0⟩
    (fun _ o => nestingRom.getD o.toNat 0) fun _ => none, ()⟩

/-- The machine after `i + 1` instructions of that ROM. -/
def nesting (i : Nat) : Machine Unit :=
  (Cpu.instruction (Bus.interface Fdc.absent))^[i + 1]
    (reset Fdc.absent nestingOff)

theorem nesting_succ (i : Nat) :
    nesting (i + 1) =
      Cpu.instruction (Bus.interface Fdc.absent) (nesting i) :=
  Function.iterate_succ_apply' _ (i + 1) _

theorem nesting_reached (i : Nat) : Reached Fdc.absent (nesting i) := by
  induction i with
  | zero =>
      have h : Reached Fdc.absent (reset Fdc.absent nestingOff) :=
        ⟨nestingOff, [], rfl⟩
      exact h.instruction
  | succ i ih =>
      rw [nesting_succ]
      exact ih.instruction

theorem nesting_nested :
    Nested Fdc.absent 2 nesting fun i => if i = 0 then 6 else 9 where
  reached i _ := nesting_reached i
  calls i hi := by
    interval_cases i
    · exact ⟨⟨by decide +kernel, by decide +kernel, by decide +kernel⟩,
        .main, 0xcd, 2, ⟨⟨by decide +kernel, trivial⟩, rfl⟩, rfl,
        by decide +kernel⟩
    · exact ⟨⟨by decide +kernel, by decide +kernel, by decide +kernel⟩,
        .main, 0xd7, 0, ⟨⟨by decide +kernel, trivial⟩, rfl⟩, rfl,
        by decide +kernel⟩
  returns i hi := by
    interval_cases i
    · exact ⟨⟨by decide +kernel, by decide +kernel, by decide +kernel⟩,
        .main, 0xc9, ⟨⟨by decide +kernel, trivial⟩, rfl⟩, rfl⟩
    · exact ⟨⟨by decide +kernel, by decide +kernel, by decide +kernel⟩,
        .main, 0xc9, ⟨⟨by decide +kernel, trivial⟩, rfl⟩, rfl⟩
  ram i hi := by
    revert i
    decide +kernel
  kept i _ := by
    rw [nesting_succ]
    exact ⟨rfl, fun _ _ => rfl⟩

/-- The return of `rst 10` goes on at 0009, and the one behind it at 0006. -/
theorem nesting_resumes :
    let t (i : Nat) : Machine Unit :=
      Cpu.instruction (Bus.interface Fdc.absent) (nesting (2 * 2 - 1 - i))
    ((t 1).regs.pc.w = 9 ∧ (t 1).regs.sp.w = (nesting 1).regs.sp.w) ∧
      (t 0).regs.pc.w = 6 ∧ (t 0).regs.sp.w = (nesting 0).regs.sp.w :=
  have h := (control_and_call_stack Fdc.absent).2 2 nesting _ nesting_nested
    (by decide)
  ⟨h 1 (by decide), h 0 (by decide)⟩

end Xcpc.Cpc.Machine
