import Mathlib
import Xcpc.Proofs.IndexSymmetry

/-!
# Chains of index prefixes

A `dd` or `fd` byte makes the next opcode use an index register, and of a
chain of them the last one counts. The tables of the two prefixes know the
other prefix bytes, and `ed`, as opcodes that do nothing: each pair is one
instruction, and the byte behind a chain of even length is executed as if
there were no prefix at all.

A chain of `k` prefixes and the opcode byte behind it are `k + 1` opcode bytes.
`executed` runs `clock` until so many have been fetched. What the rule asks for
is `reference`: the instruction at the last prefix, or at the `ed` byte.
-/

namespace Xcpc.Cpu

open Prog

variable {β : Type} (I : Interface β)

inductive IndexPrefix where
  | dd | fd
deriving DecidableEq, Repr

def IndexPrefix.byte : IndexPrefix → Byte
  | .dd => 0xdd
  | .fd => 0xfd

def IndexPrefix.entry : IndexPrefix → Byte → Entry
  | .dd => entryDd
  | .fd => entryFd

def IndexPrefix.fetchCb : IndexPrefix → Word → CpuM β (Nat × Instr)
  | .dd => fetchDdcbOpcode I
  | .fd => fetchFdcbOpcode I

/-- The processor is about to execute an instruction. -/
structure Ready (s : Instance β) : Prop where
  atBoundary : s.atBoundary = true
  hlt : s.st.hlt = false
  int : s.st.int = false
  nmi : s.st.nmi = false

/-- `clock`, until the instructions have fetched `n` opcode bytes. -/
def executed : Nat → Instance β → Instance β
  | 0, s => s
  | n + 1, s =>
      match (prolog I s).1 with
      | .exec fetched _ => executed (n - (fetched - 1)) (instruction I s)
      | _ => instruction I s
termination_by n => n
decreasing_by omega

/-- What the rule asks for. -/
def reference (ps : List IndexPrefix) (op : Byte) (s : Instance β) :
    Instance β :=
  if op = 0xed then instruction I (pass I ps.length s)
  else instruction I (pass I (ps.length - 1) s)

/-- The registers but for `PC` and `R`. -/
def Regs.visible (r : Regs) : Regs :=
  { r with pc := .zero, ir := { r.ir with l := 0 } }

structure SameEffect (s t : Instance β) : Prop where
  regs : s.regs.visible = t.regs.visible
  st : s.st = t.st
  bus : s.bus = t.bus

/-- The chain and the opcode have the effect of the last prefix and the opcode,
on every bus and from every state. -/
def PrefixRule (ps : List IndexPrefix) (op : Byte) : Prop :=
  ∀ (β : Type) (I : Interface β) (s : Instance β), Ready s →
    Fetches I s.bus s.regs.pc.w (ps.map IndexPrefix.byte ++ [op]) →
    SameEffect (executed I (ps.length + 1) s) (reference I ps op s)

variable {I}

theorem Ready.pass {s : Instance β} (h : Ready s) (n : Nat) :
    Ready (pass I n s) := by
  obtain ⟨htime, hst⟩ := pass_keeps (I := I) n s
  refine ⟨?_, ?_, ?_, ?_⟩
  · rw [Instance.atBoundary, htime]
    exact h.atBoundary
  · rw [hst]
    exact h.hlt
  · rw [hst]
    exact h.int
  · rw [hst]
    exact h.nmi

theorem Ready.fetching {s : Instance β} (h : Ready s) : Fetching s := by
  refine ⟨h.atBoundary, h.hlt, ?_⟩
  simp [Instance.accepts, h.int, h.nmi]

/-- A ready processor fetches an opcode. -/
theorem prolog_ready {s : Instance β} (h : Ready s) :
    prolog I s = fetchOpcode I s.regs.pc.w s.calm :=
  prolog_fetching h.fetching

/-- From ready states that agree past the shadow of `ei`, an instruction does
the same. -/
theorem instruction_calm {s t : Instance β} (hs : Ready s) (ht : Ready t)
    (h : Same s.calm t.calm) :
    (prolog I s).1 = (prolog I t).1 ∧
      Same (instruction I s) (instruction I t) := by
  have hpc : s.regs.pc.w = t.regs.pc.w := by
    rw [show s.regs = t.regs from h.regs]
  obtain ⟨hbranch, hafter⟩ :=
    judgment_fetchOpcode judgment_same sim_writesSt t.regs.pc.w s.calm t.calm h
  refine ⟨?_, ?_⟩
  · rw [prolog_ready hs, prolog_ready ht, hpc]
    exact hbranch
  · have hs' := instruction_same (I := I) hs.atBoundary
    have ht' := instruction_same (I := I) ht.atBoundary
    rw [prolog_ready hs, hpc] at hs'
    rw [prolog_ready ht] at ht'
    exact hs'.trans (hafter.trans ht'.symm)

/-- The opcode fetch of a prefix goes on to the table of the prefix. -/
theorem fetchOpcode_page {p : IndexPrefix} {s : Instance β}
    (h : (I.mreqM1 s.bus s.regs.pc.w).1 = p.byte) (opP : Word) :
    fetchOpcode I opP s =
      let r := fetchIndexedOpcode I p.entry (p.fetchCb I) opP (prefixed I s)
      (.exec (r.1.1 + 1) r.1.2, r.2) := by
  cases p with
  | dd => exact fetchOpcode_goto h (by decide) (.inr (.inr (.inl ⟨rfl, rfl⟩)))
  | fd => exact fetchOpcode_goto h (by decide) (.inr (.inr (.inr ⟨rfl, rfl⟩)))

/-- A prefix and the opcode behind it are at least two opcode bytes. -/
theorem fetchOpcode_page_fst {p : IndexPrefix} {s : Instance β}
    (h : (I.mreqM1 s.bus s.regs.pc.w).1 = p.byte) (opP : Word) :
    ∃ n i, (fetchOpcode I opP s).1 = .exec (n + 2) i := by
  rw [fetchOpcode_page h]
  generalize hop : (I.mreqM1 (prefixed I s).bus (prefixed I s).regs.pc.w).1 = op
  by_cases hn : (p.entry op).next = .fetchDdcb ∨ (p.entry op).next = .fetchFdcb
  · rw [fetchIndexedOpcode_goto _ opP hop hn]
    exact ⟨_, _, rfl⟩
  · rw [fetchIndexedOpcode_row _ opP hop hn]
    exact ⟨0, _, rfl⟩

/-- An opcode behind a prefix that leaves the switch. -/
theorem fetchOpcode_indexed {p : IndexPrefix} {op : Byte} {s : Instance β}
    (h : Fetches I s.bus s.regs.pc.w [p.byte, op])
    (hn : (p.entry op).next = .epilog) (opP : Word) :
    (fetchOpcode I opP s).1 = .exec 2 (p.entry op).micro ∧
      Same (fetchOpcode I opP s).2
        (exec I opP 0 (p.entry op).micro (pass I 2 s)).2 := by
  rw [fetchOpcode_page h.1, fetchIndexedOpcode_row _ opP (prefixed_fetches h)
    (by simp [hn])]
  refine ⟨rfl, (execEntry_same opP 0 (p.entry op) _).trans ?_⟩
  exact exec_same opP 0 (p.entry op).micro ⟨rfl, rfl, rfl⟩

/-- An opcode without a prefix that leaves the switch. -/
theorem fetchOpcode_main {op : Byte} {s : Instance β}
    (h : (I.mreqM1 s.bus s.regs.pc.w).1 = op)
    (hn : (entryMain op).next = .epilog) (opP : Word) :
    Same (fetchOpcode I opP s).2
      (exec I opP 0 (entryMain op).micro (pass I 1 s)).2 := by
  rw [fetchOpcode_eq, h, executeOpcode_row (.inl hn)]
  refine (execEntry_same opP 0 (entryMain op) _).trans ?_
  exact exec_same opP 0 (entryMain op).micro ⟨rfl, rfl, rfl⟩

/-! ## Chains -/

/-- The table of a prefix knows the prefixes, and `ed`, as opcodes that do
nothing. -/
theorem entry_idle {p : IndexPrefix} {op : Byte}
    (h : op = 0xdd ∨ op = 0xfd ∨ op = 0xed) :
    (p.entry op).next = .epilog ∧ (p.entry op).micro = .nop := by
  rcases h with rfl | rfl | rfl
  · cases p <;> decide
  · cases p <;> decide
  · cases p <;> decide

/-- A prefix and one of these bytes are one instruction, which does nothing. -/
theorem instruction_pair {p : IndexPrefix} {op : Byte} {s : Instance β}
    (hs : Ready s) (h : Fetches I s.bus s.regs.pc.w [p.byte, op])
    (hop : op = 0xdd ∨ op = 0xfd ∨ op = 0xed) :
    (prolog I s).1 = .exec 2 .nop ∧
      Same (instruction I s) (pass I 2 s).calm := by
  obtain ⟨hn, hi⟩ := entry_idle (p := p) hop
  obtain ⟨hbranch, hsame⟩ := fetchOpcode_indexed (s := s.calm) h hn s.regs.pc.w
  rw [hi] at hbranch hsame
  have hinstr := instruction_same (I := I) hs.atBoundary
  rw [prolog_ready hs] at hinstr ⊢
  rw [pass_calm] at hsame
  exact ⟨hbranch, hinstr.trans hsame⟩

/-- From a pair of a chain, the processor is ready for the rest. -/
theorem Ready.pair {s t : Instance β} (hs : Ready s)
    (ht : t.atBoundary = true) (h : Same t (Cpu.pass I 2 s).calm) : Ready t := by
  have hp := hs.pass (I := I) 2
  refine ⟨ht, ?_, ?_, ?_⟩
  · rw [h.st]
    exact hp.hlt
  · rw [h.st]
    exact hp.int
  · rw [h.st]
    exact hp.nmi

theorem IndexPrefix.byte_idle (p : IndexPrefix) :
    p.byte = 0xdd ∨ p.byte = 0xfd ∨ p.byte = 0xed := by
  cases p with
  | dd => exact Or.inl rfl
  | fd => exact Or.inr (Or.inl rfl)

/-- The chain up to its last odd prefix is passed over two at a time. -/
theorem executed_chain (ps : List IndexPrefix) (op : Byte) {s : Instance β}
    (hs : Ready s)
    (h : Fetches I s.bus s.regs.pc.w (ps.map IndexPrefix.byte ++ [op])) :
    ∃ t, Ready t ∧ Same t.calm (pass I (2 * (ps.length / 2)) s).calm ∧
      executed I (ps.length + 1) s = executed I (ps.length % 2 + 1) t := by
  induction ps using List.twoStepInduction generalizing s with
  | nil => exact ⟨s, hs, Same.refl _, rfl⟩
  | singleton p =>
      have hlen : 2 * ([p].length / 2) = 0 := by simp
      rw [hlen]
      exact ⟨s, hs, Same.refl _, rfl⟩
  | cons_cons p q ps ih _ =>
      have hpair : Fetches I s.bus s.regs.pc.w [p.byte, q.byte] :=
        ⟨h.1, h.2.1, trivial⟩
      obtain ⟨hbranch, hsame⟩ := instruction_pair hs hpair q.byte_idle
      have hready := hs.pair (instruction_atBoundary hs.atBoundary) hsame
      have hrest : Fetches I (instruction I s).bus (instruction I s).regs.pc.w
          (ps.map IndexPrefix.byte ++ [op]) := by
        rw [hsame.bus, hsame.regs]
        exact ((fetches_append [p.byte, q.byte] _ s).1 h).2
      obtain ⟨t, ht, hcalm, hexec⟩ := ih hready hrest
      refine ⟨t, ht, ?_, ?_⟩
      · have hlen : 2 * ((p :: q :: ps).length / 2) = 2 + 2 * (ps.length / 2) := by
          simp only [List.length_cons]
          omega
        have hpass := pass_same (I := I) hsame (2 * (ps.length / 2))
        rw [hlen, pass_add]
        refine hcalm.trans ?_
        have hc := hpass.calm
        rw [pass_calm] at hc
        exact hc
      · have hlen : (p :: q :: ps).length % 2 = ps.length % 2 := by
          simp only [List.length_cons]
          omega
        rw [hlen, ← hexec]
        simp only [List.length_cons]
        rw [executed, hbranch]
        rfl

/-- The last prefix of a chain, and the opcode. -/
theorem last_fetches {ps : List IndexPrefix} {op : Byte} {s : Instance β}
    (hps : ps ≠ [])
    (h : Fetches I s.bus s.regs.pc.w (ps.map IndexPrefix.byte ++ [op])) :
    ∃ p : IndexPrefix, Fetches I (pass I (ps.length - 1) s).bus
      (pass I (ps.length - 1) s).regs.pc.w [p.byte, op] := by
  obtain ⟨qs, p, rfl⟩ := (List.eq_nil_or_concat ps).resolve_left hps
  refine ⟨p, ?_⟩
  rw [List.concat_eq_append, List.map_append, List.append_assoc,
    fetches_append, List.length_map] at h
  rw [List.concat_eq_append, List.length_append]
  exact h.2

theorem executed_one (s : Instance β) : executed I 1 s = instruction I s := by
  rw [executed]
  split
  · rw [Nat.zero_sub, executed]
  · rfl

/-- Behind an even chain, the opcode is executed without a prefix. -/
theorem executed_even {ps : List IndexPrefix} {op : Byte} {s : Instance β}
    (hs : Ready s)
    (h : Fetches I s.bus s.regs.pc.w (ps.map IndexPrefix.byte ++ [op]))
    (hk : ps.length % 2 = 0) :
    Same (executed I (ps.length + 1) s) (instruction I (pass I ps.length s)) := by
  obtain ⟨t, ht, hcalm, hexec⟩ := executed_chain ps op hs h
  have hlen : 2 * (ps.length / 2) = ps.length := by omega
  rw [hlen] at hcalm
  rw [hexec, hk, executed_one]
  exact (instruction_calm ht (hs.pass ps.length) hcalm).2

/-- Behind an odd chain, the opcode is executed with the last prefix. -/
theorem executed_odd {ps : List IndexPrefix} {op : Byte} {s : Instance β}
    (hs : Ready s)
    (h : Fetches I s.bus s.regs.pc.w (ps.map IndexPrefix.byte ++ [op]))
    (hk : ps.length % 2 = 1) :
    Same (executed I (ps.length + 1) s)
      (instruction I (pass I (ps.length - 1) s)) := by
  obtain ⟨t, ht, hcalm, hexec⟩ := executed_chain ps op hs h
  have hlen : 2 * (ps.length / 2) = ps.length - 1 := by omega
  have hne : ps ≠ [] := by
    intro he
    rw [he] at hk
    cases hk
  rw [hlen] at hcalm
  obtain ⟨p, hp⟩ := last_fetches hne h
  have hv := hs.pass (I := I) (ps.length - 1)
  obtain ⟨hbranch, hsame⟩ := instruction_calm ht hv hcalm
  obtain ⟨n, i, hfetch⟩ :=
    fetchOpcode_page_fst (s := (pass I (ps.length - 1) s).calm) hp.1
      (pass I (ps.length - 1) s).regs.pc.w
  rw [prolog_ready hv, hfetch] at hbranch
  rw [hexec, hk, executed, hbranch]
  simp only []
  have hrest : 1 - (n + 2 - 1) = 0 := by omega
  rw [hrest, executed]
  exact hsame

/-! ## Opcodes that do not mind -/

/-- The opcode does the same with a prefix and without. The rows agree, but
for `ld h,h` and `ld l,l`, which do nothing in either table, and `jp (hl)`,
which writes `PC` alone. -/
def Neutral (op : Byte) : Prop :=
  (entryMain op).micro = (entryDd op).micro ∧ op ≠ 0xcb ∨
    op = 0x64 ∨ op = 0x6d ∨ op = 0xe9

instance (op : Byte) : Decidable (Neutral op) :=
  inferInstanceAs (Decidable (_ ∧ _ ∨ _ ∨ _ ∨ _))

/-- What there is to know about the rows of such an opcode. -/
def NeutralRows (p : IndexPrefix) (op : Byte) : Prop :=
  ((entryMain op).next = .epilog ∧ (p.entry op).next = .epilog) ∧
    ((entryMain op).micro.scratch = false ∧
      (p.entry op).micro = (entryMain op).micro ∨
    (∃ r r', (entryMain op).micro = .ldR08R08 r r ∧
      (p.entry op).micro = .ldR08R08 r' r') ∨
    (∃ r r', (entryMain op).micro = .jpR16 r ∧ (p.entry op).micro = .jpR16 r'))

/-- What there is to know about a row of the main table and one of `dd` that
do the same. -/
def Agreeing (op : Byte) (e e' : Entry) : Prop :=
  e.micro = e'.micro → op ≠ 0xcb → op ≠ 0xdd → op ≠ 0xfd → op ≠ 0xed →
    e.next = .epilog ∧ e.micro.scratch = false ∧
      e'.micro.rename .ixIy = e'.micro

instance (op : Byte) (e e' : Entry) : Decidable (Agreeing op e e') :=
  inferInstanceAs (Decidable (_ → _))

theorem rows_agreeing (op : Byte) : Agreeing op (entryMain op) (entryDd op) :=
  lookup_zip (by decide +kernel) (by decide +kernel) (by decide +kernel) op

theorem IndexPrefix.entry_next (p : IndexPrefix) {op : Byte} (h : op ≠ 0xcb) :
    (p.entry op).next = .epilog := by
  cases p with
  | dd => exact entryDd_next h
  | fd => exact entryFd_next h

/-- The rows of the tables that agree. The table of `fd` is the mirror of that
of `dd`, and a row without an index register is its own. -/
theorem rows_agree (p : IndexPrefix) {op : Byte}
    (h : (entryMain op).micro = (entryDd op).micro) (hcb : op ≠ 0xcb)
    (hdd : op ≠ 0xdd) (hfd : op ≠ 0xfd) (hed : op ≠ 0xed) :
    ((entryMain op).next = .epilog ∧ (p.entry op).next = .epilog) ∧
      (entryMain op).micro.scratch = false ∧
      (p.entry op).micro = (entryMain op).micro := by
  obtain ⟨hnext, hscratch, hrename⟩ := rows_agreeing op h hcb hdd hfd hed
  refine ⟨⟨hnext, p.entry_next hcb⟩, hscratch, ?_⟩
  cases p with
  | dd => exact h.symm
  | fd =>
      show (entryFd op).micro = _
      rw [(entryFd_mirrored op).1, hrename, h]

theorem neutralRows (p : IndexPrefix) {op : Byte} (h : Neutral op)
    (hdd : op ≠ 0xdd) (hfd : op ≠ 0xfd) (hed : op ≠ 0xed) :
    NeutralRows p op := by
  rcases h with ⟨hrow, hcb⟩ | rfl | rfl | rfl
  · obtain ⟨hnext, hmicro⟩ := rows_agree p hrow hcb hdd hfd hed
    exact ⟨hnext, Or.inl hmicro⟩
  · cases p with
    | dd => exact ⟨by decide, Or.inr (Or.inl ⟨.hlH, .ixH, by decide⟩)⟩
    | fd => exact ⟨by decide, Or.inr (Or.inl ⟨.hlH, .iyH, by decide⟩)⟩
  · cases p with
    | dd => exact ⟨by decide, Or.inr (Or.inl ⟨.hlL, .ixL, by decide⟩)⟩
    | fd => exact ⟨by decide, Or.inr (Or.inl ⟨.hlL, .iyL, by decide⟩)⟩
  · cases p with
    | dd => exact ⟨by decide, Or.inr (Or.inr ⟨.hlW, .ixW, by decide⟩)⟩
    | fd => exact ⟨by decide, Or.inr (Or.inr ⟨.hlW, .iyW, by decide⟩)⟩

theorem set8_get8 (r : Regs) (x : R8) : r.set8 x (r.get8 x) = r := by
  cases x <;> rfl

theorem Same.effect {s t : Instance β} (h : Same s t) : SameEffect s t :=
  ⟨congrArg Regs.visible h.regs, h.st, h.bus⟩

theorem SameEffect.trans {s t u : Instance β} (h : SameEffect s t)
    (h' : SameEffect t u) : SameEffect s u :=
  ⟨h.regs.trans h'.regs, h.st.trans h'.st, h.bus.trans h'.bus⟩

theorem SameEffect.symm {s t : Instance β} (h : SameEffect s t) :
    SameEffect t s :=
  ⟨h.regs.symm, h.st.symm, h.bus.symm⟩

theorem NeutralRows.exec {p : IndexPrefix} {op : Byte} (h : NeutralRows p op)
    (opP opP' : Word) (s : Instance β) :
    SameEffect (Cpu.exec I opP 0 (entryMain op).micro s).2
      (Cpu.exec I opP' 0 (p.entry op).micro s).2 := by
  rcases h.2 with ⟨hscratch, hrow⟩ | ⟨r, r', hmain, hrow⟩ | ⟨r, r', hmain, hrow⟩
  · rw [hrow, exec_scratch hscratch opP, exec_scratch hscratch opP']
    exact (Same.refl _).effect
  · rw [hmain, hrow]
    refine ⟨?_, rfl, rfl⟩
    simp only [Cpu.exec, writes, set8_get8]
  · rw [hmain, hrow]
    exact ⟨rfl, rfl, rfl⟩

/-- Such an opcode, at the last prefix or behind it. -/
theorem neutral_effect {p : IndexPrefix} {op : Byte} {s : Instance β}
    (hs : Ready s) (h : Fetches I s.bus s.regs.pc.w [p.byte, op])
    (hrows : NeutralRows p op) :
    SameEffect (instruction I (pass1 I s)) (instruction I s) := by
  have hs' : Ready (pass1 I s) := hs.pass 1
  have hop : (I.mreqM1 (pass1 I s.calm).bus (pass1 I s.calm).regs.pc.w).1 = op := by
    rw [pass1_pc]
    exact h.2.1
  have hmain := fetchOpcode_main hop hrows.1.1 (pass1 I s).regs.pc.w
  have hindexed := (fetchOpcode_indexed (s := s.calm) h hrows.1.2
    s.regs.pc.w).2
  have hleft := instruction_same (I := I) hs'.atBoundary
  have hright := instruction_same (I := I) hs.atBoundary
  rw [prolog_ready hs'] at hleft
  rw [prolog_ready hs] at hright
  have hexec := hrows.exec (I := I) (pass1 I s).regs.pc.w s.regs.pc.w
    (pass I 2 s.calm)
  exact ((hleft.trans hmain).effect.trans hexec).trans
    (hright.trans hindexed).effect.symm

/-! ## Opcodes that mind -/

/-- A bus whose opcode fetches come from a tape. Memory answers with the low
byte of the address, and the writes are kept. -/
structure Tape where
  fetch : List Byte
  log : List (Word × Byte)
deriving DecidableEq

def Interface.tape : Interface Tape where
  mreqM1 b _ := (b.fetch.headD 0, { b with fetch := b.fetch.tail })
  mreqRd b a := (a.setWidth 8, b)
  mreqWr b a v := { b with log := (a, v) :: b.log }
  iorqM1 b _ := (0xff, b)
  iorqRd b a := (a.setWidth 8, b)
  iorqWr b a v := { b with log := (a, v) :: b.log }

/-- A processor with different values in all registers, at a prefix, an opcode
and the byte behind it. -/
def atPrefix (p : IndexPrefix) (op : Byte) : Instance Tape where
  regs :=
    { Regs.zero with
      af := ⟨0x7a, 0⟩, bc := ⟨0x11, 0x22⟩, de := ⟨0x33, 0x44⟩, hl := ⟨0x55, 0x66⟩
      ix := ⟨0x0b, 0x98⟩, iy := ⟨0x79, 0xa8⟩, sp := ⟨0xcc, 0xdd⟩ }
  st := .zero
  time := .zero
  bus := ⟨[p.byte, op, 0x44], []⟩

instance [DecidableEq β] (s t : Instance β) : Decidable (SameEffect s t) :=
  decidable_of_iff (s.regs.visible = t.regs.visible ∧ s.st = t.st ∧ s.bus = t.bus)
    ⟨fun h => ⟨h.1, h.2.1, h.2.2⟩, fun h => ⟨h.regs, h.st, h.bus⟩⟩

/-- So does `neg`, an `ed` instruction. -/
theorem tape_differs_ed (p : IndexPrefix) :
    ¬ SameEffect (prolog .tape (atPrefix p 0xed)).2
      (prolog .tape (pass1 .tape (atPrefix p 0xed))).2 := by
  cases p with
  | dd => decide +kernel
  | fd => decide +kernel

theorem atPrefix_ready (p : IndexPrefix) (op : Byte) : Ready (atPrefix p op) :=
  ⟨rfl, rfl, rfl, rfl⟩

/-- What the opcode does behind `dd`, from its row behind either prefix. -/
def IndexPrefix.ddMicro : IndexPrefix → Entry → Instr
  | .dd, e => e.micro
  | .fd, e => e.micro.rename .ixIy

theorem IndexPrefix.ddMicro_entry (p : IndexPrefix) (op : Byte) :
    p.ddMicro (p.entry op) = (entryDd op).micro := by
  cases p with
  | dd => rfl
  | fd => exact (entryDd_mirrored op).1.symm

/-- The processor of the tape behind the opcode. It does not tell any more
which opcode that was. -/
def behindOpcode : Instance Tape := pass .tape 2 (atPrefix .dd 0)

theorem pass_atPrefix (p : IndexPrefix) (op : Byte) :
    pass .tape 2 (atPrefix p op) = behindOpcode := by
  cases p with
  | dd => rfl
  | fd => rfl

/-- Two rows that have different effects there, unless they do the same or the
opcode is one of the exceptions. -/
def Differing (p : IndexPrefix) (op : Byte) (e e' : Entry) : Prop :=
  e.micro = p.ddMicro e' ∨ op = 0x64 ∨ op = 0x6d ∨ op = 0xe9 ∨
    op = 0xcb ∨ op = 0xdd ∨ op = 0xfd ∨ op = 0xed ∨ e.next = .epilog ∧
      ¬ SameEffect (exec .tape 1 0 e.micro behindOpcode).2
        (exec .tape 0 0 e'.micro behindOpcode).2

instance (p : IndexPrefix) (op : Byte) (e e' : Entry) :
    Decidable (Differing p op e e') :=
  inferInstanceAs (Decidable (_ ∨ _))

theorem rows_differing (p : IndexPrefix) (op : Byte) :
    Differing p op (entryMain op) (p.entry op) := by
  have hmain : Opcodes.main.length = 256 := by decide +kernel
  cases p with
  | dd => exact lookup_zip hmain (by decide +kernel) (by decide +kernel) op
  | fd => exact lookup_zip hmain (by decide +kernel) (by decide +kernel) op

/-- An opcode that is not neutral shows on the tape whether the prefix
counts. -/
theorem tape_differs (p : IndexPrefix) {op : Byte} (hn : ¬ Neutral op)
    (hdd : op ≠ 0xdd) (hfd : op ≠ 0xfd) :
    ¬ SameEffect (prolog .tape (pass1 .tape (atPrefix p op))).2
      (prolog .tape (atPrefix p op)).2 := by
  by_cases hcb : op = 0xcb
  · subst hcb
    cases p with
    | dd => decide +kernel
    | fd => decide +kernel
  by_cases hed : op = 0xed
  · subst hed
    cases p with
    | dd => decide +kernel
    | fd => decide +kernel
  have hrows := rows_differing p op
  rw [Neutral, ← p.ddMicro_entry] at hn
  simp only [Differing, not_or, not_and] at hrows hn
  obtain ⟨hnext, hdiffers⟩ : (entryMain op).next = .epilog ∧
      ¬ SameEffect (exec .tape 1 0 (entryMain op).micro behindOpcode).2
        (exec .tape 0 0 (p.entry op).micro behindOpcode).2 := by
    rcases hrows with h | h | h | h | h | h | h | h | h
    · exact absurd hcb (hn.1 h)
    · exact absurd h hn.2.1
    · exact absurd h hn.2.2.1
    · exact absurd h hn.2.2.2
    · exact absurd h hcb
    · exact absurd h hdd
    · exact absurd h hfd
    · exact absurd h hed
    · exact h
  have hs := atPrefix_ready p op
  have hs' : Ready (pass1 .tape (atPrefix p op)) := hs.pass 1
  have hfetch : Fetches .tape (atPrefix p op).bus (atPrefix p op).regs.pc.w
      [p.byte, op] := ⟨rfl, rfl, trivial⟩
  have hop : (Interface.tape.mreqM1 (pass1 .tape (atPrefix p op).calm).bus
      (pass1 .tape (atPrefix p op).calm).regs.pc.w).1 = op := rfl
  have hpass : pass .tape 2 (atPrefix p op).calm = behindOpcode := by
    rw [pass_calm, pass_atPrefix]
    rfl
  have hmain : Same (fetchOpcode .tape 1 (pass1 .tape (atPrefix p op).calm)).2
      (exec .tape 1 0 (entryMain op).micro
        (pass .tape 2 (atPrefix p op).calm)).2 :=
    fetchOpcode_main hop hnext 1
  have hindexed := (fetchOpcode_indexed (s := (atPrefix p op).calm) hfetch
    (p.entry_next hcb) 0).2
  rw [hpass] at hmain hindexed
  have hpc : (atPrefix p op).regs.pc.w = 0 :=
    (by decide : Regs.zero.pc.w = 0)
  have hpc' : (pass1 .tape (atPrefix p op)).regs.pc.w = 1 := by
    rw [pass1_pc, hpc]
    rfl
  intro h
  rw [prolog_ready hs, prolog_ready hs', hpc, hpc'] at h
  exact hdiffers ((hmain.effect.symm.trans h).trans hindexed.effect)

/-- The refresh goes round in 128 steps, so every value of `R` has one before
it. -/
theorem refresh_before : ∀ l : Byte,
    let l' := (l &&& 0x80) ||| ((l - 1) &&& 0x7f)
    (l' &&& 0x80) ||| ((l' + 1) &&& 0x7f) = l := by
  decide

/-- The state that passing over `op` leads to `s` from. -/
def before (op : Byte) (s : Instance Tape) : Instance Tape :=
  { s with
    regs :=
      { s.regs with
        pc := .ofW (s.regs.pc.w - 1)
        ir := { s.regs.ir with
          l := (s.regs.ir.l &&& 0x80) ||| ((s.regs.ir.l - 1) &&& 0x7f) } }
    bus := { s.bus with fetch := op :: s.bus.fetch } }

theorem pass1_before (op : Byte) (s : Instance Tape) :
    pass1 .tape (before op s) = s := by
  have hpc : (before op s).regs.pc.w + 1 = s.regs.pc.w := by
    show (Register.ofW (s.regs.pc.w - 1)).w + 1 = _
    rw [Register.ofW_w, BitVec.sub_add_cancel]
  have hl := refresh_before s.regs.ir.l
  unfold pass1
  rw [hpc]
  simp only [Regs.setPc, Register.ofW_of_w, refresh, before, hl]
  rfl

/-- Any bytes can lie in front of a state on a tape. -/
theorem exists_before (ops : List Byte) (s : Instance Tape) :
    ∃ t, pass .tape ops.length t = s ∧ t.time = s.time ∧ t.st = s.st ∧
      Fetches .tape t.bus t.regs.pc.w ops := by
  induction ops with
  | nil => exact ⟨s, rfl, rfl, rfl, trivial⟩
  | cons op ops ih =>
      obtain ⟨t, hpass, htime, hst, hfetch⟩ := ih
      have hb := pass1_before op t
      refine ⟨before op t, ?_, htime, hst, rfl, ?_⟩
      · rw [List.length_cons, pass, hb]
        exact hpass
      · have hpc := pass1_pc (I := .tape) (before op t)
        rw [hb] at hpc
        have hbus : (Interface.tape.mreqM1 (before op t).bus
            (before op t).regs.pc.w).2 = t.bus := rfl
        rw [hbus, ← hpc]
        exact hfetch

/-- A chain that ends at `atPrefix`. -/
theorem exists_chain (ps : List IndexPrefix) (p : IndexPrefix) (op : Byte) :
    ∃ s, Ready s ∧ pass .tape ps.length s = atPrefix p op ∧
      Fetches .tape s.bus s.regs.pc.w
        ((ps.concat p).map IndexPrefix.byte ++ [op]) := by
  obtain ⟨s, hpass, htime, hst, hfetch⟩ :=
    exists_before (ps.map IndexPrefix.byte) (atPrefix p op)
  rw [List.length_map] at hpass
  refine ⟨s, ⟨?_, ?_, ?_, ?_⟩, hpass, ?_⟩
  · rw [Instance.atBoundary, htime]
    rfl
  · rw [hst]
    rfl
  · rw [hst]
    rfl
  · rw [hst]
    rfl
  · rw [List.concat_eq_append, List.map_append, List.append_assoc,
      fetches_append, List.length_map, hpass]
    exact ⟨hfetch, rfl, rfl, trivial⟩

/-! ## The rule, decided -/

/-- The rule holds of chains of odd length in front of anything but `ed`, and
of chains of even length in front of opcodes that do not mind. -/
theorem prefixRule_iff {ps : List IndexPrefix} {op : Byte} (hps : ps ≠ [])
    (hdd : op ≠ 0xdd) (hfd : op ≠ 0xfd) :
    PrefixRule ps op ↔
      if ps.length % 2 = 1 then op ≠ 0xed else Neutral op := by
  have hlen : ps.length = ps.length - 1 + 1 := by
    have := List.length_pos_iff.2 hps
    omega
  constructor
  · intro hrule
    obtain ⟨qs, p, rfl⟩ := (List.eq_nil_or_concat ps).resolve_left hps
    obtain ⟨s, hs, hpass, hfetch⟩ := exists_chain qs p op
    have heffect := hrule Tape .tape s hs hfetch
    have hlast : (qs.concat p).length - 1 = qs.length := by simp
    have hall : pass .tape (qs.concat p).length s =
        pass1 .tape (atPrefix p op) := by
      rw [hlen, pass_succ, hlast, hpass]
    have hready := atPrefix_ready p op
    have hready' : Ready (pass1 .tape (atPrefix p op)) := hready.pass 1
    have hfirst := (instruction_same (I := .tape) hready.atBoundary).effect
    have hsecond := (instruction_same (I := .tape) hready'.atBoundary).effect
    split
    · rename_i hk
      rintro rfl
      have hodd := (executed_odd hs hfetch hk).effect
      rw [hlast, hpass] at hodd
      rw [reference, if_pos rfl, hall] at heffect
      exact tape_differs_ed p ((hfirst.symm.trans (hodd.symm.trans heffect)).trans
        hsecond)
    · rename_i hk
      have heven := (executed_even hs hfetch (by omega)).effect
      rw [hall] at heven
      by_cases hed : op = 0xed
      · rw [hed]
        decide
      · rw [reference, if_neg hed, hlast, hpass] at heffect
        refine Decidable.byContradiction fun hn => ?_
        exact tape_differs p hn hdd hfd
          ((hsecond.symm.trans (heven.symm.trans heffect)).trans hfirst)
  · intro hcond β I s hs hfetch
    split at hcond
    · rename_i hk
      rw [reference, if_neg hcond]
      exact (executed_odd hs hfetch hk).effect
    · rename_i hk
      have heven := (executed_even hs hfetch (by omega)).effect
      by_cases hed : op = 0xed
      · rw [reference, if_pos hed]
        exact heven
      · obtain ⟨p, hp⟩ := last_fetches hps hfetch
        rw [reference, if_neg hed]
        rw [hlen, pass_succ] at heven
        rw [← hlen] at heven
        exact heven.trans (neutral_effect (hs.pass _) hp
          (neutralRows p hcond hdd hfd hed))

/-- Three prefixes in front of `ld h,n` count as the last one. Two do not, but
in front of `nop` they do. -/
theorem prefixRule_chains :
    PrefixRule [.dd, .fd, .dd] 0x26 ∧ ¬ PrefixRule [.fd, .dd] 0x26 ∧
      PrefixRule [.fd, .dd] 0x00 := by
  refine ⟨?_, fun h => ?_, ?_⟩
  · exact (prefixRule_iff (by decide) (by decide) (by decide)).2 (by decide)
  · exact absurd
      ((prefixRule_iff (by decide) (by decide) (by decide)).1 h) (by decide)
  · exact (prefixRule_iff (by decide) (by decide) (by decide)).2 (by decide)

/-- In `dd dd 26 05` the two prefixes cancel out, and `h` is loaded instead of
the high byte of `ix`. -/
theorem double_prefix_is_dropped :
    let s := Instance.reset (program [0xdd, 0xdd, 0x26, 0x05])
    Ready s ∧ Fetches .ram s.bus s.regs.pc.w [0xdd, 0xdd, 0x26] ∧
      ¬ SameEffect (executed .ram 3 s) (reference .ram [.dd, .dd] 0x26 s) := by
  intro s
  have hs : Ready s := ⟨rfl, rfl, rfl, rfl⟩
  have hf : Fetches .ram s.bus s.regs.pc.w
      (([.dd, .dd] : List IndexPrefix).map IndexPrefix.byte ++ [0x26]) :=
    ⟨by decide, by decide, by decide, trivial⟩
  refine ⟨hs, hf, fun h => ?_⟩
  have hexec : Same (executed .ram 3 s) (instruction .ram (pass .ram 2 s)) :=
    executed_even hs hf rfl
  have hleft : (executed .ram 3 s).regs.hl.h = 0x05 := by
    rw [hexec.regs, (instruction_same (hs.pass 2).atBoundary).regs]
    decide +kernel
  have hright : (reference .ram [.dd, .dd] 0x26 s).regs.hl.h = 0 := by
    show (instruction .ram (pass .ram 1 s)).regs.hl.h = 0
    rw [(instruction_same (hs.pass 1).atBoundary).regs]
    decide +kernel
  have hh := congrArg (fun r => r.hl.h) h.regs
  have hne := hleft.symm.trans (hh.trans hright)
  exact absurd hne (by decide)

end Xcpc.Cpu
