import Xcpc.Dev.Fdc
import Xcpc.Lib.PartialRuns

/-!
# The phases of the controller

The controller is idle, or takes a command, or transfers data in one of the
two directions, or reports. The main status register says which, and the
counters say how many bytes are left; `Good` ties the two together and to the
sizes of the buffers. A program that looks at the register before every access,
gives only commands that the controller can complete, and does not stop the
motor under a command, keeps the controller `Good`: no access leaves a buffer
or meets a drive that is not there, and from every access on, the
controller is idle again after a bounded number of others.

The commands that cannot be completed are told by `Proper`: reading a track
never ends its report, formatting a track that cannot be written has no length
for its report, the state of a drive that is not there is read through a null
pointer, and a transfer of no bytes, or of more than the buffer holds, runs out
of the buffer. The table for a track comes after the command, and none of its
size codes may shift too far.
-/

namespace Xcpc.Lib765

open Prog

variable {δ : Type} {V : Vtable δ}

/-- No size code in the table of a format command shifts out of an `int`. -/
def Shiftable (table : Nat → Byte) (n : Nat) : Prop :=
  ∀ i < n, (table (4 * i + 3)).toNat < 24

instance shiftableDecidable (table : Nat → Byte) (n : Nat) :
    Decidable (Shiftable table n) :=
  inferInstanceAs (Decidable (∀ i < n, _))

/-- A drive stores no more than it was asked for, and can be called with every
table that it can shift by. -/
structure Vtable.Lawful (V : Vtable δ) : Prop where
  readSector : ∀ d t len deleted,
    (V.readSector d t len deleted).stored.length ≤ len
  readId : ∀ d head n, (V.readId d head n).stored.length ≤ 4
  formatTrack : ∀ d head n table filler, Shiftable table (BitVec.toNat n) →
    (V.formatTrack d head n table filler).isSome

namespace Fdc

/-! ## What does not move bytes -/

section frame

variable (s : Fdc δ)

@[simp] theorem toBuffers_clearStatus :
    s.clearStatus.toBuffers = s.toBuffers := rfl

@[simp] theorem toBuffers_getDrive : s.getDrive.toBuffers = s.toBuffers := rfl

@[simp] theorem toBuffers_start : s.start.toBuffers = s.toBuffers := rfl

@[simp] theorem toBuffers_resultInterrupt :
    s.resultInterrupt.toBuffers = s.toBuffers := rfl

@[simp] theorem toBuffers_execInterrupt :
    s.execInterrupt.toBuffers = s.toBuffers := rfl

@[simp] theorem toBuffers_motors (running : Byte) :
    (s.motors running).toBuffers = s.toBuffers := rfl

@[simp] theorem toBuffers_setFd (d : FloppyDrive δ) :
    (s.setFd d).toBuffers = s.toBuffers := rfl

@[simp] theorem fd_setFd (d : FloppyDrive δ) : (s.setFd d).fd = some d :=
  Function.update_self ..

@[simp] theorem toBuffers_withFd {α : Type} (absent : α)
    (f : FloppyDrive δ → α × FloppyDrive δ) :
    (s.withFd absent f).2.toBuffers = s.toBuffers := by
  rw [withFd]
  cases s.fd <;> rfl

@[simp] theorem toBuffers_transferFd {ω : Type} (out : ω)
    (f : FloppyDrive δ → Transfer δ ω) :
    (s.transferFd out f).2.toBuffers = s.toBuffers := toBuffers_withFd ..

@[simp] theorem toBuffers_isready :
    (s.isready V).2.toBuffers = s.toBuffers := by
  simp only [isready]
  split
  · exact toBuffers_withFd ..
  · exact toBuffers_withFd ..

@[simp] theorem toBuffers_xltError (err : FdErr) :
    (s.xltError err).toBuffers = s.toBuffers := by
  cases err <;> rfl

@[simp] theorem toBuffers_scanByte (a b : Byte) :
    (s.scanByte a b).toBuffers = s.toBuffers := by
  rw [scanByte]
  split
  · rfl
  · split
    · rfl
    · split <;> try rfl
      · split <;> rfl
      · split <;> rfl

@[simp] theorem toBuffers_clearPendingInterrupt :
    s.clearPendingInterrupt.toBuffers = s.toBuffers := by
  rw [clearPendingInterrupt]
  split <;> rfl

@[simp] theorem toBuffers_writable :
    (s.writable V).2.toBuffers = s.toBuffers := by
  have h := toBuffers_isready (V := V) s
  simp only [writable]
  split
  · exact h
  · split <;> exact h

theorem toBuffers_getSt3 {s s' : Fdc δ} (h : s.getSt3 V = some s') :
    s'.toBuffers = s.toBuffers := by
  rw [getSt3] at h
  cases hd : s.fd with
  | none =>
      rw [hd] at h
      cases h
  | some d =>
      rw [hd] at h
      cases h
      rfl

theorem toBuffers_results7 : s.results7.toBuffers =
    { s.toBuffers with
      resultBuf := Buffer.put s.resultBuf 0 s.resultBytes
      mainstat := 0xd0 } := rfl

theorem toBuffers_seekTo (cylinder : Byte) : (s.seekTo V cylinder).toBuffers =
    { s.toBuffers with mainstat := 0x80, cmdId := none } := by
  have hr (s : Fdc δ) := toBuffers_isready (V := V) s
  simp only [seekTo]
  split
  · exact hr _
  · split
    · exact (toBuffers_withFd ..).trans (hr _)
    · exact (toBuffers_withFd ..).trans (hr _)

end frame

theorem withFd_of_fd {α : Type} {s : Fdc δ} {d : FloppyDrive δ}
    (h : s.fd = some d) (absent : α) (f : FloppyDrive δ → α × FloppyDrive δ) :
    s.withFd absent f = ((f d).1, s.setFd (f d).2) := by
  rw [withFd, h]

theorem isready_of_fd {s : Fdc δ} {d : FloppyDrive δ} (h : s.fd = some d) :
    s.isready V = if (V.isready d).1 then
        (true, { s.setFd (V.isready d).2 with st3 := s.st3 ||| 0x20 })
      else (false, { s.setFd (V.isready d).2 with st3 := s.st3 &&& 0xdf }) := by
  rw [isready, withFd_of_fd h]
  rfl

theorem fd_isready {s : Fdc δ} {d : FloppyDrive δ} (h : s.fd = some d) :
    (s.isready V).2.fd = some (V.isready d).2 := by
  rw [isready_of_fd h]
  split <;> exact fd_setFd s (V.isready d).2

/-! ## The invariant -/

end Fdc

/-- The report that ends the commands of data transfer can be made. -/
def Buffers.Ends (b : Buffers) : Prop :=
  b.code ∈ [6, 12, 13, 17, 25, 30] ∨ b.code ∈ [5, 9] ∧ b.transferLen.isSome

/-- Between commands and after one, the main status register tells the phase
of the counters, and no counter leads out of its buffer. -/
inductive Buffers.Served (b : Buffers) : Prop where
  | idle (stat : b.mainstat = 0x80) (id : b.cmdId = none)
      (result : b.resultLen = 0)
  | sending (stat : b.mainstat = 0xf0) (ends : b.Ends) (reads : b.code ≠ 13)
      (left : Nat)
      (len : b.execLen = left + 1)
      (room : b.execPos + (left + 1) ≤ execSize)
  | receiving (stat : b.mainstat = 0xb0) (ends : b.Ends) (left : Nat)
      (len : b.execLen = left + 1)
      (room : b.execPos + (left + 1) ≤ execSize)
  | reporting (stat : b.mainstat = 0xd0) (left : Nat)
      (len : b.resultLen = left + 1)
      (room : b.resultPos + (left + 1) ≤ 7)

/-- The same with the command phase. -/
inductive Buffers.Good (b : Buffers) : Prop where
  | served (h : b.Served)
  | command (stat : b.mainstat = 0x90) (id : b.cmdId.isSome) (left : Nat)
      (len : b.cmdLen = left + 1)
      (size : b.cmdPos + 1 + (left + 1) = bytesInCmd b.code)
      (result : b.resultLen = 0)

/-- The controller waits for a command. -/
def Buffers.Idle (b : Buffers) : Prop := b.mainstat = 0x80

/-- A bound on the accesses to the data register until the controller is idle
again. -/
def Buffers.left (b : Buffers) : Nat :=
  if b.mainstat = 0x80 then execSize + 16
  else if b.mainstat = 0x90 then b.cmdLen.toNat + (execSize + 7)
  else if b.mainstat = 0xd0 then b.resultLen.toNat
  else b.execLen.toNat + 7

/-- An access has brought the end of the transaction nearer. -/
def Buffers.Nearer (b b' : Buffers) : Prop := b'.Idle ∨ b'.left < b.left

theorem Buffers.Served.left_le {b : Buffers} (h : b.Served) :
    b.Idle ∨ b.left ≤ execSize + 7 := by
  rw [Buffers.left]
  cases h with
  | idle stat => exact .inl stat
  | sending stat ends reads left len room => right; simp [stat, len]; omega
  | receiving stat ends left len room => right; simp [stat, len]; omega
  | reporting stat left len room => right; simp [stat, len]; omega

namespace Fdc

theorem endExecutionPhase_plain {s : Fdc δ}
    (h : s.code ∉ [5, 6, 9, 12, 13, 17, 25, 30]) : s.endExecutionPhase V =
      some { s with mainstat := 0xd0, resultPos := 0 } := by
  simp only [List.mem_cons, List.not_mem_nil, or_false, not_or] at h
  simp only [endExecutionPhase]
  have hc : ({ s with mainstat := 0xd0, resultPos := 0 } : Fdc δ).code =
      s.code := rfl
  rw [hc]
  split <;> first | rfl | omega

theorem formatEnd_some (hV : V.Lawful) {s : Fdc δ}
    (h : Shiftable s.execBuf (s.cmdBuf 3).toNat) :
    ∃ s', s.formatEnd V = some s' ∧ s'.mainstat = 0xd0 ∧
      s'.resultPos = s.resultPos := by
  simp only [formatEnd, Option.bind_eq_bind]
  cases s.fd with
  | none => exact ⟨_, rfl, rfl, by simp [toBuffers_results7]⟩
  | some d =>
      obtain ⟨r, hr⟩ := Option.isSome_iff_exists.1
        (hV.formatTrack d s.curhead (s.cmdBuf 3) s.execBuf (s.cmdBuf 5) h)
      simp only [hr]
      exact ⟨_, rfl, rfl, by simp [toBuffers_results7]⟩

theorem endExecutionPhase_ends (hV : V.Lawful) {s : Fdc δ} (h : s.Ends)
    (hf : s.code = 13 → Shiftable s.execBuf (s.cmdBuf 3).toNat) :
    ∃ s', s.endExecutionPhase V = some s' ∧ s'.mainstat = 0xd0 ∧
      s'.resultLen = 7 ∧ s'.resultPos = 0 := by
  simp only [endExecutionPhase]
  have hc : ({ s with mainstat := 0xd0, resultPos := 0 } : Fdc δ).code =
      s.code := rfl
  rw [hc]
  rcases h with h | ⟨h, ht⟩
  · simp only [List.mem_cons, List.not_mem_nil, or_false] at h
    rcases h with h | h | h | h | h | h <;> rw [h]
    · exact ⟨_, rfl, rfl, rfl, rfl⟩
    · exact ⟨_, rfl, rfl, rfl, rfl⟩
    · obtain ⟨s', hs, hm, hp⟩ := formatEnd_some hV
        (s := { s with mainstat := 0xd0, resultPos := 0 }) (hf h)
      simp only [hs]
      exact ⟨_, rfl, hm, rfl, hp⟩
    · exact ⟨_, rfl, rfl, rfl, rfl⟩
    · exact ⟨_, rfl, rfl, rfl, rfl⟩
    · exact ⟨_, rfl, rfl, rfl, rfl⟩
  · obtain ⟨len, hlen⟩ := Option.isSome_iff_exists.1 ht
    have hl : ({ s with mainstat := 0xd0, resultPos := 0 } :
        Fdc δ).transferLen = some len := hlen
    simp only [List.mem_cons, List.not_mem_nil, or_false] at h
    rcases h with h | h <;> rw [h] <;>
      refine ⟨_, by simp only [writeEnd, hl]; rfl, rfl, rfl, ?_⟩ <;>
      simp [toBuffers_results7]

theorem finish_some (hV : V.Lawful) {s : Fdc δ} (h : s.Ends)
    (hf : s.code = 13 → Shiftable s.execBuf (s.cmdBuf 3).toNat) :
    ∃ s', s.finish V = some s' ∧ s'.mainstat = 0xd0 ∧ s'.resultLen = 7 ∧
      s'.resultPos = 0 := by
  obtain ⟨s', hs, h⟩ := endExecutionPhase_ends hV h hf
  exact ⟨s'.resultInterrupt, by rw [finish, hs]; rfl, h⟩

/-! ## Commands that can be completed -/

/-- The drive that the command in the buffer names. -/
def unit (s : Fdc δ) : Option (FloppyDrive δ) :=
  s.drive ((s.cmdBuf 1).setWidth 2)

/-- The number of sectors that a read command names. -/
def rounds (s : Fdc δ) : Nat := (s.cmdBuf 6).toNat + 1 - (s.cmdBuf 4).toNat

variable (V) in
/-- The drive that the command names is ready and not write-protected. -/
def Writable (s : Fdc δ) : Prop :=
  ∃ d, s.unit = some d ∧ (V.isready d).1 ∧ ¬ (V.isready d).2.readonly

instance writableDecidable (s : Fdc δ) : Decidable (Writable V s) :=
  decidable_of_iff (∃ d ∈ s.unit, (V.isready d).1 ∧ ¬ (V.isready d).2.readonly)
    Iff.rfl

variable (V) in
/-- The error of the drive that a scan command starts with. -/
def scanErr (s : Fdc δ) (len : Nat) : FdErr :=
  match s.unit with
  | none => .notRdy
  | some d => (V.readSector d s.start.target len none).err

variable (V) in
/-- The command in the buffer can be completed. -/
def Proper (s : Fdc δ) : Prop :=
  match s.code with
  | 2 => False
  | 4 => s.unit.isSome
  | 5 | 9 => ∃ len, s.transferLen = some len ∧ len ≤ execSize ∧
      (Writable V s → 0 < len)
  | 17 | 25 | 30 => ∃ len, s.transferLen = some len ∧ len ≤ execSize ∧
      ((scanErr V s len).fatal = false → 0 < len)
  | 6 | 12 =>
      ∃ len, s.lensector = some len ∧ 0 < len ∧ 0 < s.rounds ∧
        s.rounds * len ≤ execSize
  | 13 => s.cmdBuf 3 ≠ 0 ∧ Writable V s
  | _ => True

instance properDecidable (s : Fdc δ) : Decidable (Proper V s) := by
  have hsome {o : Option Nat} {p : Nat → Prop} [DecidablePred p] :
      Decidable (∃ len, o = some len ∧ p len) :=
    decidable_of_iff (∃ len ∈ o, p len) Iff.rfl
  unfold Proper
  split <;> infer_instance

theorem served_report {b : Buffers} (h : b.mainstat = 0xd0 ∧ b.resultLen = 7 ∧
    b.resultPos = 0) : b.Served := by
  obtain ⟨hm, hl, hp⟩ := h
  exact .reporting hm 6 (by omega) (by omega)

theorem served_idle {s : Fdc δ} {b : Buffers} (hr : s.resultLen = 0)
    (h : b = { s.toBuffers with mainstat := 0x80, cmdId := none }) :
    b.Served := by
  subst h
  exact .idle rfl rfl hr

theorem specifyCmd_served {s : Fdc δ} (hr : s.resultLen = 0) :
    s.specifyCmd.Served := served_idle hr rfl

theorem recalibrate_served {s : Fdc δ} (hr : s.resultLen = 0) :
    (s.recalibrate V).Served := served_idle hr (toBuffers_seekTo ..)

theorem seek_served {s : Fdc δ} (hr : s.resultLen = 0) :
    (s.seek V).Served := served_idle hr (toBuffers_seekTo ..)

theorem senseDrive_served_iff {s : Fdc δ} (hc : s.code = 4) :
    (∃ s', s.senseDrive V = some s' ∧ s'.Served) ↔ s.unit.isSome := by
  have hf : s.getDrive.fd = s.unit := rfl
  cases hu : s.unit with
  | none =>
      simp only [senseDrive, getSt3, hf, hu]
      simp
  | some d =>
      obtain ⟨s₁, h₁⟩ : ∃ s₁, s.getDrive.getSt3 V = some s₁ := by
        rw [getSt3, hf, hu]
        exact ⟨_, rfl⟩
      have hb : s₁.toBuffers = s.toBuffers :=
        (toBuffers_getSt3 h₁).trans rfl
      simp only [senseDrive, h₁, Option.bind_eq_bind, Option.bind_some]
      rw [endExecutionPhase_plain (by simp [Buffers.code, hb] at hc ⊢; omega)]
      exact iff_of_true
        ⟨_, rfl, .reporting rfl 0 rfl (by show 0 + 1 ≤ 7; omega)⟩ rfl

theorem senseInt_served {s : Fdc δ} (hc : s.code = 8) :
    ∃ s', s.senseInt V = some s' ∧ s'.mainstat = 0xd0 ∧ s'.Served := by
  simp only [senseInt, Option.bind_eq_bind]
  split
  · rw [endExecutionPhase_plain (by simp [Buffers.code] at hc ⊢; omega)]
    exact ⟨_, rfl, rfl, .reporting rfl 1 rfl (by show 0 + 2 ≤ 7; omega)⟩
  · rw [endExecutionPhase_plain (by simp [Buffers.code] at hc ⊢; omega)]
    exact ⟨_, rfl, rfl, .reporting rfl 0 rfl (by show 0 + 1 ≤ 7; omega)⟩

theorem error_served (s : Fdc δ) : s.error.Served :=
  .reporting rfl 0 rfl (by show 0 + 1 ≤ 7; omega)

theorem code_put {b : Buffers} {pos : Nat} {xs : List Byte} (h : 0 < pos) :
    ({ b with cmdBuf := Buffer.put b.cmdBuf pos xs } : Buffers).code =
      b.code := by
  simp only [Buffers.code]
  rw [Buffer.put_of_lt h]

theorem nextId_some (hV : V.Lawful) (s : Fdc δ) :
    ∃ s' bytes, s.nextId V = some s' ∧ s'.toBuffers =
      { s.toBuffers with cmdBuf := Buffer.put s.cmdBuf 2 bytes } := by
  have hid (t : Fdc δ) (err : FdErr) :
      (t.idError err).toBuffers = t.toBuffers := by
    cases err <;> rfl
  have hlen : (s.transferFd () fun d =>
      V.readId d s.curhead s.lastidread).1.2.1.length ≤ 4 := by
    simp only [transferFd, withFd]
    cases s.fd with
    | none => exact Nat.zero_le 4
    | some d => exact hV.readId d _ _
  have hb := toBuffers_transferFd s () fun d =>
    V.readId d s.curhead s.lastidread
  simp only [nextId, Option.bind_eq_bind]
  generalize s.transferFd () _ = r at hlen hb
  obtain ⟨⟨ret, stored, _⟩, t⟩ := r
  have hs : Buffer.store cmdSize t.cmdBuf 2 stored =
      some (Buffer.put t.cmdBuf 2 stored) :=
    Buffer.store_some.2 ⟨by simp only [cmdSize] at *; omega, rfl⟩
  simp only [hs, Option.bind_some]
  refine ⟨_, stored, rfl, (hid _ _).trans ?_⟩
  simp only at hb
  simp only [hb]

theorem readId_served (hV : V.Lawful) {s : Fdc δ} (hc : s.code = 10) :
    ∃ s', s.readId V = some s' ∧ s'.Served := by
  have hend {t : Fdc δ} (ht : t.code = 10) (hl : t.resultLen = 7) :
      ∃ s', t.results7.resultInterrupt.endExecutionPhase V = some s' ∧
        s'.Served := by
    have hn : t.results7.resultInterrupt.code = t.code := rfl
    rw [endExecutionPhase_plain (by rw [hn, ht]; simp)]
    exact ⟨_, rfl, served_report ⟨rfl, hl, rfl⟩⟩
  have hb := toBuffers_isready (V := V)
    { s.clearStatus.getDrive with resultLen := 7 }
  simp only [readId, Option.bind_eq_bind]
  generalize isready V { s.clearStatus.getDrive with resultLen := 7 } = r
    at hb
  obtain ⟨ready, t⟩ := r
  have hc' : t.code = 10 := (congrArg Buffers.code hb).trans hc
  have hl : t.resultLen = 7 := congrArg Buffers.resultLen hb
  cases ready with
  | false => exact hend hc' hl
  | true =>
      obtain ⟨t', bytes, ht, hbt⟩ := nextId_some hV t
      simp only [if_true, ht, Option.bind_some]
      exact hend ((congrArg Buffers.code hbt).trans
        ((code_put (by omega)).trans hc'))
        ((congrArg Buffers.resultLen hbt).trans hl)

/-! ## Transfers -/

theorem storeExec_some {s : Fdc δ} {pos : Nat} {xs : List Byte}
    (h : pos + xs.length ≤ execSize) : s.storeExec pos xs =
      some { s with execBuf := Buffer.put s.execBuf pos xs } := by
  rw [storeExec, Buffer.store_some.2 ⟨h, rfl⟩]
  rfl

/-- The execution phases of the commands that write can be gone through unless
they are empty. -/
theorem served_receiving {b : Buffers} {n : Nat} (hm : b.mainstat = 0xb0)
    (he : b.Ends) (hp : b.execPos = 0) (hl : b.execLen = n)
    (hs : n ≤ execSize) : b.Served ↔ 0 < n := by
  constructor
  · intro h
    cases h with
    | idle stat => simp [stat] at hm
    | sending stat => simp [stat] at hm
    | reporting stat => simp [stat] at hm
    | receiving _ _ left len => omega
  · intro hn
    exact .receiving hm he (n - 1) (by omega) (by omega)

theorem fdReadonly_of_fd {s : Fdc δ} {d : FloppyDrive δ} (h : s.fd = some d) :
    s.fdReadonly = d.readonly := by
  rw [fdReadonly, h]

theorem writable_eq {s t : Fdc δ} (h : t.fd = s.unit) :
    (t.writable V).1 = .ok ↔ Writable V s := by
  cases hd : t.fd with
  | none =>
      have hr : (t.isready V).1 = false := by simp [isready, withFd, hd]
      rw [h] at hd
      simp [writable, hr, Writable, hd]
  | some d =>
      have hro : (t.isready V).2.fdReadonly = (V.isready d).2.readonly :=
        fdReadonly_of_fd (fd_isready hd)
      have hr : (t.isready V).1 = (V.isready d).1 := by
        rw [isready_of_fd hd]
        cases (V.isready d).1 <;> rfl
      rw [h] at hd
      simp only [writable, hro, hr, Writable, hd, Option.some.injEq,
        exists_eq_left']
      cases (V.isready d).1 <;> cases (V.isready d).2.readonly <;> simp

theorem storeExec_none {s : Fdc δ} {pos : Nat} {xs : List Byte}
    (h : ¬ pos + xs.length ≤ execSize) : s.storeExec pos xs = none := by
  rw [storeExec, Buffer.store, if_neg h]
  rfl

theorem write_served_iff {s : Fdc δ} (hc : s.code = 5 ∨ s.code = 9)
    (deleted : Bool) : (∃ s', s.write V deleted = some s' ∧ s'.Served) ↔
      ∃ len, s.transferLen = some len ∧ len ≤ execSize ∧
        (Writable V s → 0 < len) := by
  have ht' : s.start.transferLen = s.transferLen := rfl
  simp only [write, Option.bind_eq_bind, ht']
  cases ht : s.transferLen with
  | none => simp
  | some len =>
      simp only [Option.bind_some, Option.some.injEq, exists_eq_left']
      by_cases hmax : len ≤ execSize
      · rw [storeExec_some (by rw [List.length_replicate]; omega)]
        simp only [Option.bind_some]
        generalize hg : Fdc.mk _ _ _ _ _ _ _ _ _ _ _ _ = t
        have htb : t.toBuffers = { s.toBuffers with
            execLen := len
            execBuf := Buffer.put s.execBuf 0 (List.replicate len 0) } := by
          rw [← hg]
          rfl
        have hb := (toBuffers_writable (V := V) t).trans htb
        have hok : (t.writable V).1 = .ok ↔ Writable V s :=
          writable_eq (by rw [← hg]; rfl)
        generalize t.writable V = r at hb hok
        obtain ⟨err, u⟩ := r
        rw [← hok]
        simp only [hmax, true_and] at hb ⊢
        split
        · next herr =>
          have hends : u.Ends := by
            refine .inr ⟨?_, ?_⟩
            · rw [hb]
              simp only [List.mem_cons, List.not_mem_nil, or_false]
              exact hc
            · rw [hb]
              exact Option.isSome_iff_exists.2 ⟨len, ht⟩
          have hsv := served_receiving (b := { u.toBuffers with
            mainstat := 0xb0, execPos := 0 }) (n := len) rfl hends rfl
            (congrArg Buffers.execLen hb) hmax
          constructor
          · rintro ⟨s', hs, h⟩
            cases hs
            exact fun _ => hsv.1 h
          · intro h
            exact ⟨_, rfl, hsv.2 (h herr)⟩
        · next herr =>
          refine iff_of_true ⟨_, rfl, served_report ⟨rfl, rfl, rfl⟩⟩ fun h => ?_
          exact absurd h herr
      · rw [storeExec_none (by rw [List.length_replicate]; omega)]
        simp [hmax]

theorem transferFd_stored {ω : Type} (s : Fdc δ) (out : ω)
    {f : FloppyDrive δ → Transfer δ ω} {n : Nat}
    (h : ∀ d, (f d).stored.length ≤ n) :
    (s.transferFd out f).1.2.1.length ≤ n := by
  simp only [transferFd, withFd]
  cases s.fd with
  | none => exact Nat.zero_le n
  | some d => exact h d

theorem scan_served_iff (hV : V.Lawful) {s : Fdc δ}
    (hc : s.code = 17 ∨ s.code = 25 ∨ s.code = 30) :
    (∃ s', s.scan V = some s' ∧ s'.Served) ↔
      ∃ len, s.transferLen = some len ∧ len ≤ execSize ∧
        ((scanErr V s len).fatal = false → 0 < len) := by
  have ht' : s.start.transferLen = s.transferLen := rfl
  simp only [scan, Option.bind_eq_bind, ht']
  cases ht : s.transferLen with
  | none => simp
  | some len =>
      simp only [Option.bind_some, Option.some.injEq, exists_eq_left']
      by_cases hmax : len ≤ execSize
      · rw [storeExec_some (by rw [List.length_replicate]; omega)]
        simp only [Option.bind_some]
        generalize hg : Fdc.mk _ _ _ _ _ _ _ _ _ _ _ _ = t
        have htb : t.code = s.code ∧ t.execLen = len := by
          rw [← hg]
          exact ⟨rfl, rfl⟩
        have hstored := transferFd_stored t false
          (f := fun d => V.readSector d t.target len none) fun d =>
            hV.readSector d t.target len none
        have hb := toBuffers_transferFd t false fun d =>
          V.readSector d t.target len none
        have herr : (t.transferFd false fun d =>
            V.readSector d t.target len none).1.1 = scanErr V s len := by
          have hf : t.fd = s.unit := by
            rw [← hg]
            rfl
          have hta : t.target = s.start.target := by
            rw [← hg]
            rfl
          rw [transferFd, withFd, scanErr, hf, hta]
          cases s.unit <;> rfl
        generalize t.transferFd false _ = r at hstored hb herr
        obtain ⟨⟨err, stored, _⟩, u⟩ := r
        simp only at hstored hb herr ⊢
        subst herr
        rw [storeExec_some (by omega)]
        simp only [Option.bind_some, hmax, true_and]
        generalize hw : Fdc.xltError _ _ = w
        have hwb : w.toBuffers =
            { u.toBuffers with execBuf := Buffer.put u.execBuf 0 stored } := by
          rw [← hw, toBuffers_xltError]
        have hwc : w.results7.code = s.code := by
          have h₁ : w.results7.code = w.code := rfl
          have h₂ : w.code = u.code := (congrArg Buffers.code hwb).trans rfl
          rw [h₁, h₂, hb, htb.1]
        have hends : w.results7.Ends := by
          refine .inl ?_
          rw [hwc]
          simp only [List.mem_cons, List.not_mem_nil, or_false]
          omega
        split
        · next hf =>
          obtain ⟨s', hs, h⟩ := finish_some hV hends fun h13 => by omega
          refine iff_of_true ⟨s', hs, served_report h⟩ fun h => ?_
          rw [hf] at h
          cases h
        · next hf =>
          have hlen : w.execLen = len := by
            have h₁ : w.execLen = u.execLen :=
              (congrArg Buffers.execLen hwb).trans rfl
            have h₂ : u.execLen = t.execLen := congrArg Buffers.execLen hb
            exact (h₁.trans h₂).trans htb.2
          have hsv := served_receiving (b := { w.results7.toBuffers with
            mainstat := 0xb0, execPos := 0 }) (n := len) rfl hends rfl hlen hmax
          constructor
          · rintro ⟨s', hs, h⟩
            cases hs
            exact fun _ => hsv.1 h
          · intro h
            exact ⟨_, rfl, hsv.2 (h (by simpa using hf))⟩
      · rw [storeExec_none (by rw [List.length_replicate]; omega)]
        simp [hmax]

theorem format_served_iff {s : Fdc δ} (hc : s.code = 13)
    (hr : s.resultLen = 0) : (s.format V).Served ↔
      s.cmdBuf 3 ≠ 0 ∧ Writable V s := by
  simp only [format]
  generalize hg : Fdc.mk _ _ _ _ _ _ _ _ _ _ _ _ = t
  have hok : (t.writable V).1 = .ok ↔ Writable V s :=
    writable_eq (by rw [← hg]; rfl)
  have htb : t.toBuffers = { s.toBuffers with
      execBuf := Buffer.put s.execBuf 0 (List.replicate maxSectorLen 0) } := by
    rw [← hg]
    rfl
  have hb := (toBuffers_writable (V := V) t).trans htb
  generalize t.writable V = r at hok hb
  obtain ⟨err, u⟩ := r
  rw [← hok]
  simp only at hb ⊢
  have hbuf : u.cmdBuf = s.cmdBuf := (congrArg Buffers.cmdBuf hb).trans rfl
  split
  · next herr =>
    have hends : u.Ends := by
      refine .inl ?_
      have h : u.code = s.code := (congrArg Buffers.code hb).trans rfl
      rw [h, hc]
      simp
    have hlen : (4 * (u.cmdBuf 3).toNat : Int) =
        (4 * (s.cmdBuf 3).toNat : Nat) := by
      rw [hbuf]
      push_cast
      rfl
    have hsv := served_receiving (b := { u.toBuffers with
      mainstat := 0xb0, execPos := 0, execLen := 4 * (u.cmdBuf 3).toNat })
      (n := 4 * (s.cmdBuf 3).toNat) rfl hends rfl hlen (by
        have := (s.cmdBuf 3).isLt
        simp only [execSize]
        omega)
    have hne : 0 < 4 * (s.cmdBuf 3).toNat ↔ s.cmdBuf 3 ≠ 0 := by
      rw [Ne, ← BitVec.toNat_inj]
      simp
      omega
    exact (hsv.trans hne).trans (and_iff_left herr).symm
  · next herr =>
    refine iff_of_false (fun h => ?_) fun h => herr h.2
    have hm : u.resultLen = 0 := (congrArg Buffers.resultLen hb).trans hr
    have hl (w : Fdc δ) (hw : w.toBuffers = u.toBuffers) :
        (results7 { w with mainstat := 0xd0, resultPos := 0 }).resultLen = 0 := by
      show w.toBuffers.resultLen = 0
      rw [hw, hm]
    have hl' := hl (u.xltError err) (toBuffers_xltError u err)
    cases h with
    | idle stat => cases stat
    | sending stat => cases stat
    | receiving stat => cases stat
    | reporting _ left len =>
        have h0 : (left + 1 : Int) = 0 := len.symm.trans hl'
        omega

/-- The frame of a sector: the buffer of the execution phase changes, and with
it the drive and the status registers. -/
theorem readSector_some (hV : V.Lawful) {s : Fdc δ} {off len : Nat}
    (h : off + len ≤ execSize) (deleted : Bool) :
    ∃ r, s.readSector V off len deleted = some r ∧ ∃ buf,
      r.2.toBuffers = { s.toBuffers with execBuf := buf } := by
  simp only [readSector, Option.bind_eq_bind]
  rw [storeExec_some (by rw [List.length_replicate]; omega)]
  simp only [Option.bind_some]
  generalize hg : Fdc.mk _ _ _ _ _ _ _ _ _ _ _ _ = t
  have hb := toBuffers_isready (V := V) t
  generalize t.isready V = r at hb
  obtain ⟨ready, u⟩ := r
  have hx (err : FdErr) (stored : List Byte) (del : Bool) (w : Fdc δ)
      (hs : stored.length ≤ len) (hw : w.toBuffers = t.toBuffers) :
      ∃ r, (w.storeExec off stored).bind (fun w =>
          some ((err, del), if del then
            { w.xltError err with st2 := (w.xltError err).st2 ||| 0x40 }
            else w.xltError err)) = some r ∧ ∃ buf,
        r.2.toBuffers = { s.toBuffers with execBuf := buf } := by
    rw [storeExec_some (by omega), Option.bind_some]
    refine ⟨_, rfl, Buffer.put w.execBuf off stored, ?_⟩
    have hfin : ({ w with execBuf := Buffer.put w.execBuf off stored } :
        Fdc δ).toBuffers = { s.toBuffers with
          execBuf := Buffer.put w.execBuf off stored } := by
      simp only [hw, ← hg]
    split <;> exact (toBuffers_xltError _ err).trans hfin
  cases ready with
  | false => exact hx .notRdy [] deleted u (Nat.zero_le _) hb
  | true =>
      have hstored := transferFd_stored u deleted
        (f := fun d => V.readSector d u.target len (some deleted)) fun d =>
          hV.readSector d u.target len (some deleted)
      have hub := toBuffers_transferFd u deleted fun d =>
        V.readSector d u.target len (some deleted)
      simp only [if_true]
      generalize u.transferFd deleted _ = q at hstored hub
      obtain ⟨⟨err, stored, del⟩, w⟩ := q
      exact hx err stored del w hstored (hub.trans hb)

/-- What the loop of a read command leaves: it has counted the bytes of the
sectors, unless it broke off. -/
theorem readSectors_some (hV : V.Lawful) {len : Nat} (n : Nat) {s : Fdc δ}
    {e o : Nat} (hl : s.lensector = some len) (he : s.execLen = e)
    (hroom : o + n * len ≤ execSize) (err : FdErr) (deleted : Bool) :
    ∃ err' s', readSectors V n err deleted o s = some (err', s') ∧
      s'.code = s.code ∧
      (err'.fatal = false ∨ n = 0 → s'.execLen = e + n * len) := by
  induction n generalizing s e o err deleted with
  | zero => exact ⟨err, s, rfl, rfl, fun _ => by omega⟩
  | succ n ih =>
      have hle : o + len ≤ execSize := by
        have : (n + 1) * len = n * len + len := Nat.succ_mul n len
        omega
      obtain ⟨⟨⟨err₁, del₁⟩, s₁⟩, h₁, buf, hb₁⟩ :=
        readSector_some hV (s := s) hle deleted
      simp only at hb₁
      simp only [readSectors, Option.bind_eq_bind, hl, Option.bind_some, h₁]
      split
      · next hf =>
        refine ⟨err₁, s₁, rfl, (congrArg Buffers.code hb₁).trans rfl, ?_⟩
        rintro (h | h)
        · rw [hf] at h
          cases h
        · cases h
      · have hl₁ : (s₁.nextSector len).lensector = some len := by
          rw [← hl]
          simp only [nextSector, Buffers.lensector, hb₁]
          rw [Buffer.put_of_le (by simp), Buffer.put_of_le (by simp)]
        have he₁ : (s₁.nextSector len).execLen = (e + len : Nat) := by
          have : s₁.execLen = s.execLen :=
            (congrArg Buffers.execLen hb₁).trans rfl
          simp only [nextSector]
          omega
        obtain ⟨err', s', h', hc', he'⟩ := ih (o := o + len) hl₁ he₁
          (by have : (n + 1) * len = n * len + len := Nat.succ_mul n len
              omega) err₁ del₁
        refine ⟨err', s', h', ?_, ?_⟩
        · rw [hc']
          exact (code_put (by omega)).trans ((congrArg Buffers.code hb₁).trans rfl)
        · intro h
          have := he' (by
            rcases h with h | h
            · exact .inl h
            · cases h)
          rw [this]
          push_cast
          ring

theorem read_served (hV : V.Lawful) {s : Fdc δ} (hc : s.code = 6 ∨ s.code = 12)
    {len : Nat} (hl : s.lensector = some len) (hpos : 0 < len)
    (hr : 0 < s.rounds) (hmax : s.rounds * len ≤ execSize) (deleted : Bool) :
    ∃ s', s.read V deleted = some s' ∧ s'.Served := by
  simp only [read, Option.bind_eq_bind]
  generalize hg : s.start.setExecLen 0 = t
  have htl : t.lensector = some len := by
    rw [← hg]
    exact hl
  have hte : t.execLen = (0 : Nat) := by
    rw [← hg]
    rfl
  have htc : t.code = s.code := by
    rw [← hg]
    rfl
  have htn : (t.cmdBuf 6).toNat + 1 - (t.cmdBuf 4).toNat = s.rounds := by
    rw [← hg]
    rfl
  obtain ⟨err, u, hu, huc, hue⟩ := readSectors_some hV s.rounds htl hte
    (o := 0) (by omega) .ok deleted
  simp only [htn, hu, Option.bind_some]
  have hrc : u.results7.code = s.code := by
    have h' : u.results7.code = u.code := rfl
    rw [h', huc, htc]
  have hends : u.results7.Ends := by
    refine .inl ?_
    rw [hrc]
    simp only [List.mem_cons, List.not_mem_nil, or_false]
    omega
  split
  · obtain ⟨s', hs, h⟩ := finish_some hV hends fun h13 => by omega
    exact ⟨s', hs, served_report h⟩
  · next hf =>
    have hlen : u.execLen = (s.rounds * len : Nat) := by
      have := hue (.inl (by simpa using hf))
      push_cast
      omega
    have hp : 0 < s.rounds * len := Nat.mul_pos hr hpos
    have hl' : (u.results7.execInterrupt).execLen = (s.rounds * len : Nat) :=
      hlen
    have hne : u.results7.execInterrupt.code ≠ 13 := by
      show u.results7.code ≠ 13
      omega
    refine ⟨_, rfl, .sending rfl hends hne (s.rounds * len - 1) ?_ ?_⟩
    · show u.execLen = _
      omega
    · show 0 + _ ≤ _
      omega

/-- Reading a track leaves no length for its report. -/
theorem readTrack_shape {s s' : Fdc δ} (hc : s.code = 2) (hr : s.resultLen = 0)
    (h : s.readTrack V = some s') : s'.code = 2 ∧ s'.resultLen = 0 ∧
      (s'.mainstat = 0xd0 ∧ s'.resultPos = 0 ∨ s'.mainstat = 0xf0) := by
  have hend {err : FdErr} {t : Fdc δ} (ht : t.code = 2) (hl : t.resultLen = 0)
      (h : (if err.fatal then t.results7.finish V
        else some { t.results7.execInterrupt with
          mainstat := 0xf0, execPos := 0 }) = some s') :
      s'.code = 2 ∧ s'.resultLen = 0 ∧
        (s'.mainstat = 0xd0 ∧ s'.resultPos = 0 ∨ s'.mainstat = 0xf0) := by
    split at h
    · have hn : t.results7.code = t.code := rfl
      rw [finish, endExecutionPhase_plain (by rw [hn, ht]; simp)] at h
      cases h
      exact ⟨ht, hl, .inl ⟨rfl, rfl⟩⟩
    · cases h
      exact ⟨ht, hl, .inr rfl⟩
  simp only [readTrack, Option.bind_eq_bind] at h
  generalize hg : s.start.setExecLen maxSectorLen = t at h
  have htb : t.toBuffers = { s.toBuffers with execLen := maxSectorLen } := by
    rw [← hg]
    rfl
  have hb := (toBuffers_isready (V := V) t).trans htb
  generalize t.isready V = r at h hb
  obtain ⟨ready, u⟩ := r
  have hstore {err : FdErr} {bytes : List Byte} {len : Nat} {w : Fdc δ}
      (hw : w.toBuffers = u.toBuffers)
      (h : ((w.setExecLen len).storeExec 0 bytes).bind (fun s =>
        if err.fatal then (s.xltError err).results7.finish V
        else some { (s.xltError err).results7.execInterrupt with
          mainstat := 0xf0, execPos := 0 }) = some s') :
      s'.code = 2 ∧ s'.resultLen = 0 ∧
        (s'.mainstat = 0xd0 ∧ s'.resultPos = 0 ∨ s'.mainstat = 0xf0) := by
    rw [Option.bind_eq_some_iff] at h
    obtain ⟨x, hx, h⟩ := h
    rw [storeExec, Option.map_eq_some_iff] at hx
    obtain ⟨buf, -, rfl⟩ := hx
    refine hend ?_ ?_ h
    · rw [toBuffers_xltError]
      show w.toBuffers.code = 2
      rw [hw, hb]
      exact hc
    · rw [toBuffers_xltError]
      show w.toBuffers.resultLen = 0
      rw [hw, hb]
      exact hr
  cases ready with
  | false => exact hstore rfl h
  | true => exact hstore (toBuffers_transferFd ..) h

theorem readTrack_not_served (s : Fdc δ) (hc : s.code = 2)
    (hr : s.resultLen = 0) : ¬ ∃ s', s.readTrack V = some s' ∧ s'.Served := by
  rintro ⟨s', hs, h⟩
  obtain ⟨hc', hr', hm⟩ := readTrack_shape hc hr hs
  cases h with
  | idle stat => simp [stat] at hm
  | receiving stat => simp [stat] at hm
  | reporting stat left len => omega
  | sending stat ends =>
      rcases ends with h | ⟨h, -⟩ <;> simp [hc'] at h

theorem execute_st0 (s : Fdc δ) (st0 : Byte) :
    Proper V { s with st0 := st0 } ↔ Proper V s := Iff.rfl

/-- A command that can be completed is: the controller is idle again, or has
bytes to transfer or to report, and knows how many. The other commands, apart
from those that read sectors, never are. -/
theorem execute_iff (hV : V.Lawful) {s : Fdc δ} (hr : s.resultLen = 0) :
    (Proper V s → ∃ s', s.execute V = some s' ∧ s'.Served) ∧
      (s.code ∉ [6, 12] → (∃ s', s.execute V = some s' ∧ s'.Served) →
        Proper V s) := by
  rw [← execute_st0 s (s.st0 &&& 0xbf)]
  simp only [execute]
  generalize hg : ({ s with st0 := s.st0 &&& 0xbf } : Fdc δ) = t
  have hc : s.code = t.code := by rw [← hg]
  have hr' : t.resultLen = 0 := by rw [← hg, hr]
  rw [hc]
  have hyes {p : Prop} {u : Fdc δ} (hu : u.Served) :
      (True → ∃ s', some u = some s' ∧ s'.Served) ∧
        (p → (∃ s', some u = some s' ∧ s'.Served) → True) :=
    ⟨fun _ => ⟨u, rfl, hu⟩, fun _ _ => trivial⟩
  have hiff {p q : Prop} {x : Option (Fdc δ)}
      (h : (∃ s', x = some s' ∧ s'.Served) ↔ q) :
      (q → ∃ s', x = some s' ∧ s'.Served) ∧
        (p → (∃ s', x = some s' ∧ s'.Served) → q) := ⟨h.2, fun _ => h.1⟩
  have hread (del : Bool) (hcode : t.code = 6 ∨ t.code = 12) :
      ((∃ len, t.lensector = some len ∧ 0 < len ∧ 0 < t.rounds ∧
        t.rounds * len ≤ execSize) →
          ∃ s', t.read V del = some s' ∧ s'.Served) ∧
      (t.code ∉ [6, 12] → (∃ s', t.read V del = some s' ∧ s'.Served) →
        ∃ len, t.lensector = some len ∧ 0 < len ∧ 0 < t.rounds ∧
          t.rounds * len ≤ execSize) := by
    refine ⟨fun ⟨len, hl, hpos, hn, hmax⟩ =>
      read_served hV hcode hl hpos hn hmax del, fun h => ?_⟩
    simp at h
    omega
  split <;> rename_i hcode <;> simp only [Proper, hcode]
  · exact hiff (iff_of_false (readTrack_not_served t hcode hr') id)
  · exact hyes (specifyCmd_served hr')
  · exact hiff (senseDrive_served_iff hcode)
  · exact hiff (write_served_iff (.inl hcode) false)
  · exact hcode ▸ hread false (.inl hcode)
  · exact hyes (recalibrate_served hr')
  · obtain ⟨s', hs, -, h⟩ := senseInt_served (V := V) hcode
    rw [hs]
    exact hyes h
  · exact hiff (write_served_iff (.inr hcode) true)
  · obtain ⟨s', hs, h⟩ := readId_served hV hcode
    rw [hs]
    exact hyes h
  · exact hcode ▸ hread true (.inr hcode)
  · have := format_served_iff (V := V) hcode hr'
    exact ⟨fun h => ⟨_, rfl, this.2 h⟩,
      fun _ ⟨s', hs, h⟩ => this.1 (Option.some.inj hs ▸ h)⟩
  · exact hyes (seek_served hr')
  · exact hiff (scan_served_iff hV (.inl hcode))
  · exact hiff (scan_served_iff hV (.inr (.inl hcode)))
  · exact hiff (scan_served_iff hV (.inr (.inr hcode)))
  · exact hyes (error_served t)

/-- The commands of one byte report. -/
theorem execute_short {s s' : Fdc δ} (h1 : bytesInCmd s.code = 1)
    (h : s.execute V = some s') : s'.mainstat = 0xd0 := by
  simp only [execute] at h
  generalize hg : ({ s with st0 := s.st0 &&& 0xbf } : Fdc δ) = t at h
  have hc : s.code = t.code := by rw [← hg]
  rw [hc] at h h1
  split at h <;> rename_i hcode <;> try simp [hcode, bytesInCmd] at h1
  · obtain ⟨s'', hs, hm, -⟩ := senseInt_served (V := V) hcode
    rw [hs] at h
    cases h
    exact hm
  · cases h
    rfl

/-! ## Accesses -/

/-- The command with one more byte. -/
def command (s : Fdc δ) (value : Byte) : Option (Fdc δ) :=
  if s.cmdId.isNone then some (s.firstByte value) else s.nextByte value

variable (V) in
/-- The program reads when the main status register says that there is a byte
for it and writes when it says that there is none. Its commands can be
completed, no table that it sends for a track shifts too far, and it stops the
motor of the current drive only between commands. -/
def Obeys (s : Fdc δ) : Access → Prop
  | .read => s.mainstat.getLsbD 6
  | .write value => ¬ s.mainstat.getLsbD 6 ∧
      (¬ s.mainstat.getLsbD 5 → ∀ t, s.command value = some t →
        t.cmdLen = 0 → Proper V t) ∧
      (s.mainstat.getLsbD 5 → s.code = 13 → s.execLen = 1 →
        Shiftable (Buffer.put s.execBuf s.execPos [value]) (s.cmdBuf 3).toNat)
  | .motor running => s.mainstat = 0x80 ∨
      (s.curMotor → running.getLsbD s.curunit.toNat)

instance obeysDecidable (s : Fdc δ) : (a : Access) → Decidable (Obeys V s a)
  | .read => inferInstanceAs (Decidable (_ = true))
  | .write value =>
      let _ : Decidable (∀ t, s.command value = some t → t.cmdLen = 0 →
          Proper V t) :=
        decidable_of_iff (∀ t ∈ s.command value, t.cmdLen = 0 → Proper V t)
          Iff.rfl
      inferInstanceAs (Decidable (_ ∧ _ ∧ _))
  | .motor _ => inferInstanceAs (Decidable (_ ∨ _))

theorem execByteDone_served (hV : V.Lawful) {s : Fdc δ}
    (stat : s.mainstat = 0xb0 ∨ s.mainstat = 0xf0 ∧ s.code ≠ 13)
    (ends : s.Ends) {left : Nat} (len : s.execLen = left + 1)
    (room : s.execPos + (left + 1) ≤ execSize)
    (hf : s.execLen = 1 → s.code = 13 →
      Shiftable s.execBuf (s.cmdBuf 3).toNat) :
    ∃ s', s.execByteDone V = some s' ∧ s'.Served ∧ s.Nearer s'.toBuffers := by
  have hleft : s.left = left + 8 := by
    rcases stat with stat | ⟨stat, -⟩
    · simp [Buffers.left, stat, len]
    · simp [Buffers.left, stat, len]
  simp only [execByteDone]
  split
  · next h0 =>
    obtain ⟨s', hs, h⟩ := finish_some hV
      (s := { s with execPos := s.execPos + 1, execLen := s.execLen - 1 }) ends
      (hf (by omega))
    have h7 : s'.left = 7 := by simp [Buffers.left, h]
    exact ⟨s', hs, served_report h, .inr (by omega)⟩
  · next hne =>
    have hl : s.execLen - 1 = ((left - 1 : Nat) : Int) + 1 := by omega
    have hp : s.execPos + 1 + (left - 1 + 1) ≤ execSize := by omega
    rcases stat with stat | ⟨stat, hne⟩
    · refine ⟨_, rfl, .receiving stat ends (left - 1) hl hp, .inr ?_⟩
      rw [hleft]
      simp [Buffers.left, stat]
      omega
    · refine ⟨_, rfl, .sending stat ends hne (left - 1) hl hp, .inr ?_⟩
      rw [hleft]
      simp [Buffers.left, stat]
      omega

theorem readData_served (hV : V.Lawful) {s : Fdc δ} (hg : s.Good)
    (hd : s.mainstat.getLsbD 6) :
    ∃ v s', s.readData V = some (v, s') ∧ s'.Served ∧ s.Nearer s'.toBuffers := by
  have hb := toBuffers_clearPendingInterrupt s
  simp only [readData]
  generalize s.clearPendingInterrupt = t at hb
  rw [← hb] at hg hd ⊢
  rcases hg with hg | ⟨stat⟩
  · cases hg with
    | idle stat => simp [stat] at hd
    | receiving stat => simp [stat] at hd
    | sending stat ends reads left len room =>
        obtain ⟨s', hs, h⟩ := execByteDone_served hV (.inr ⟨stat, reads⟩) ends
          len room fun _ hc => absurd hc reads
        have hv : Buffer.load? execSize t.execBuf t.execPos =
            some (t.execBuf t.execPos) := Buffer.load?_some.2 ⟨by omega, rfl⟩
        simp only [stat, hv, hs]
        exact ⟨_, s', rfl, h⟩
    | reporting stat left len room =>
        have hv : Buffer.load? resultSize t.resultBuf t.resultPos =
            some (t.resultBuf t.resultPos) :=
          Buffer.load?_some.2 ⟨by simp only [resultSize]; omega, rfl⟩
        have hleft : t.left = left + 1 := by simp [Buffers.left, stat, len]
        simp only [stat, hv]
        refine ⟨_, _, rfl, ?_⟩
        split
        · next h0 =>
          exact ⟨.idle rfl rfl h0, .inl rfl⟩
        · refine ⟨.reporting rfl (left - 1) (by simp only; omega)
            (by simp only; omega), .inr ?_⟩
          rw [hleft]
          simp [Buffers.left]
          omega
  · simp [stat] at hd

theorem execByte_served (hV : V.Lawful) {s : Fdc δ}
    (stat : s.mainstat = 0xb0) (ends : s.Ends) {left : Nat}
    (len : s.execLen = left + 1) (room : s.execPos + (left + 1) ≤ execSize)
    (value : Byte) (hf : s.execLen = 1 → s.code = 13 →
      Shiftable (Buffer.put s.execBuf s.execPos [value])
        (s.cmdBuf 3).toNat) :
    ∃ s', s.execByte V value = some s' ∧ s'.Served ∧ s.Nearer s'.toBuffers := by
  have hstore : Buffer.store execSize s.execBuf s.execPos [value] =
      some (Buffer.put s.execBuf s.execPos [value]) :=
    Buffer.store_some.2 ⟨by simp only [List.length_singleton]; omega, rfl⟩
  have hload : Buffer.load? execSize s.execBuf s.execPos =
      some (s.execBuf s.execPos) := Buffer.load?_some.2 ⟨by omega, rfl⟩
  have hscan (t : Fdc δ) (hb : t.toBuffers = s.toBuffers) (hc : s.code ≠ 13) :
      ∃ s', t.execByteDone V = some s' ∧ s'.Served ∧ s.Nearer s'.toBuffers := by
    rw [← hb] at stat ends len room hc ⊢
    exact execByteDone_served hV (.inl stat) ends len room
      fun _ h => absurd h hc
  simp only [execByte, Option.bind_eq_bind]
  split
  · next hc =>
    rw [hload]
    exact hscan _ (toBuffers_scanByte ..) (by omega)
  · next hc =>
    rw [hload]
    exact hscan _ (toBuffers_scanByte ..) (by omega)
  · next hc =>
    rw [hload]
    exact hscan _ (toBuffers_scanByte ..) (by omega)
  · rw [hstore]
    exact execByteDone_served hV (s := { s with
      execBuf := Buffer.put s.execBuf s.execPos [value] }) (.inl stat) ends len
      room hf

theorem bytesInCmd_pos (n : Nat) : 0 < bytesInCmd n := by
  unfold bytesInCmd
  split <;> omega

theorem bytesInCmd_le (n : Nat) : bytesInCmd n ≤ 9 := by
  unfold bytesInCmd
  split <;> omega

theorem code_firstByte (s : Fdc δ) (value : Byte) :
    (s.firstByte value).code = (value &&& 0x1f).toNat := by
  simp only [Buffers.code, firstByte, Buffer.put_self]

/-- The first byte of a command: the controller takes the rest or executes
it. -/
theorem firstByte_good (hV : V.Lawful) {s : Fdc δ} (stat : s.mainstat = 0x80)
    (result : s.resultLen = 0) (value : Byte)
    (hp : (s.firstByte value).cmdLen = 0 → Proper V (s.firstByte value)) :
    ∃ s', (do
      let s := s.firstByte value
      let s ← if s.cmdLen = 0 then s.execute V else some s
      return { s with mainstat := s.mainstat ||| 0x10 } : Option (Fdc δ)) =
        some s' ∧ s'.Good ∧ s.Nearer s'.toBuffers := by
  have hleft : s.left = execSize + 16 := by simp [Buffers.left, stat]
  have hone := bytesInCmd_pos (value &&& 0x1f).toNat
  have hcode := code_firstByte s value
  have hlen : (s.firstByte value).cmdLen =
      ((bytesInCmd (value &&& 0x1f).toNat - 1 : Nat) : Int) := by
    simp only [firstByte]
    omega
  simp only [Option.bind_eq_bind]
  split
  · next h0 =>
    obtain ⟨s', hs, hg⟩ := (execute_iff hV (s := s.firstByte value) result).1
      (hp h0)
    have hm' := execute_short (by rw [hcode]; omega) hs
    have hst : s'.mainstat ||| 0x10 = s'.mainstat := by rw [hm']; rfl
    rw [hs, Option.bind_some, hst]
    refine ⟨_, rfl, .served hg, ?_⟩
    rcases hg.left_le with h | h
    · exact .inl h
    · refine .inr ?_
      show s'.left < s.left
      omega
  · next h0 =>
    rw [Option.bind_some]
    have hst : (s.firstByte value).mainstat ||| 0x10 = 0x90 := by
      simp [firstByte, stat]
    refine ⟨_, rfl, .command hst rfl (bytesInCmd (value &&& 0x1f).toNat - 2) ?_
      ?_ result, .inr ?_⟩
    · simp only [hlen]
      omega
    · show 0 + 1 + _ = bytesInCmd (s.firstByte value).code
      rw [hcode]
      omega
    · have := bytesInCmd_le (value &&& 0x1f).toNat
      rw [hleft, Buffers.left]
      simp only [hst, hlen]
      generalize bytesInCmd (value &&& 0x1f).toNat = k at *
      simp
      omega

theorem toBuffers_nextByte {s t : Fdc δ} {value : Byte}
    (h : s.nextByte value = some t) : t.toBuffers = { s.toBuffers with
      cmdPos := s.cmdPos + 1
      cmdBuf := Buffer.put s.cmdBuf (s.cmdPos + 1) [value]
      cmdLen := s.cmdLen - 1 } := by
  rw [nextByte, Option.map_eq_some_iff] at h
  obtain ⟨buf, hbuf, rfl⟩ := h
  rw [← (Buffer.store_some.1 hbuf).2]

/-- A further byte of a command. -/
theorem nextByte_good (hV : V.Lawful) {s : Fdc δ} (stat : s.mainstat = 0x90)
    (id : s.cmdId.isSome) {left : Nat} (len : s.cmdLen = left + 1)
    (size : s.cmdPos + 1 + (left + 1) = bytesInCmd s.code)
    (result : s.resultLen = 0) (value : Byte)
    (hp : ∀ t, s.nextByte value = some t → t.cmdLen = 0 → Proper V t) :
    ∃ s', (do
      let s ← s.nextByte value
      if s.cmdLen = 0 then s.execute V else some s : Option (Fdc δ)) = some s' ∧
        s'.Good ∧ s.Nearer s'.toBuffers := by
  obtain ⟨t, ht⟩ : ∃ t, s.nextByte value = some t := by
    have := bytesInCmd_le s.code
    rw [nextByte, Buffer.store_some.2 ⟨by simp [cmdSize]; omega, rfl⟩]
    exact ⟨_, rfl⟩
  have htb := toBuffers_nextByte ht
  have hleft : s.left = left + 1 + (execSize + 7) := by
    simp [Buffers.left, stat, len]
  simp only [ht, Option.bind_eq_bind, Option.bind_some]
  split
  · next h0 =>
    have hr : t.resultLen = 0 := (congrArg Buffers.resultLen htb).trans result
    obtain ⟨s', hs, hg⟩ := (execute_iff hV hr).1 (hp t ht h0)
    refine ⟨s', hs, .served hg, ?_⟩
    rcases hg.left_le with h | h
    · exact .inl h
    · exact .inr (by omega)
  · next h0 =>
    have hl : t.cmdLen = s.cmdLen - 1 := (congrArg Buffers.cmdLen htb).trans rfl
    have hc : t.code = s.code :=
      (congrArg Buffers.code htb).trans (code_put (Nat.succ_pos _))
    have hpos : t.cmdPos = s.cmdPos + 1 :=
      (congrArg Buffers.cmdPos htb).trans rfl
    have hid : t.cmdId = s.cmdId := (congrArg Buffers.cmdId htb).trans rfl
    have hst : t.mainstat = s.mainstat :=
      (congrArg Buffers.mainstat htb).trans rfl
    have hrl : t.resultLen = s.resultLen :=
      (congrArg Buffers.resultLen htb).trans rfl
    have htl : t.cmdLen = ((left - 1 : Nat) : Int) + 1 := by omega
    refine ⟨t, rfl, .command (hst.trans stat) (by rw [hid]; exact id) (left - 1)
      htl ?_ (hrl.trans result), .inr ?_⟩
    · rw [hc, hpos]
      omega
    · rw [hleft]
      simp [Buffers.left, hst, stat, htl]
      omega

theorem writeData_good (hV : V.Lawful) {s : Fdc δ} {value : Byte}
    (hg : s.Good) (ho : Obeys V s (.write value)) :
    ∃ s', s.writeData V value = some s' ∧ s'.Good ∧
      s.Nearer s'.toBuffers := by
  obtain ⟨hd, hp, ht⟩ := ho
  have hb := toBuffers_clearPendingInterrupt s
  have hcmd : s.clearPendingInterrupt = { s with
      interrupting := s.clearPendingInterrupt.interrupting } := by
    rw [clearPendingInterrupt]
    split <;> rfl
  simp only [writeData]
  rcases hg with hg | ⟨stat, id, left, len, size, result⟩
  · cases hg with
    | sending stat => simp [stat] at hd
    | reporting stat => simp [stat] at hd
    | receiving stat ends left len room =>
        rw [← hb] at stat ends len room ht ⊢
        rw [if_pos (by rw [stat]; rfl)]
        obtain ⟨s', hs, h, hl⟩ := execByte_served hV stat ends len room value
          fun hl hc => ht (by rw [stat]; rfl) hc hl
        exact ⟨s', hs, .served h, hl⟩
    | idle stat id result =>
        have hst : s.clearPendingInterrupt.mainstat = 0x80 := by rw [hb, stat]
        have hid : s.clearPendingInterrupt.cmdId = none := by rw [hb, id]
        rw [if_neg (by rw [hst]; decide), if_neg (by rw [hid]; simp),
          if_pos (by rw [hid]; rfl)]
        obtain ⟨s', hs, h, hl⟩ := firstByte_good hV hst (by rw [hb, result])
          value fun h0 => by
            have := hp (by rw [stat]; decide) (s.firstByte value)
              (by rw [command, id]; rfl) (by rw [hcmd] at h0; exact h0)
            rw [hcmd]
            exact this
        exact ⟨s', hs, h, by rw [hb] at hl; exact hl⟩
  · have hst : s.clearPendingInterrupt.mainstat = 0x90 := by rw [hb, stat]
    have hid : s.clearPendingInterrupt.cmdId.isSome := by rw [hb]; exact id
    have hlen : s.clearPendingInterrupt.cmdLen = left + 1 := by rw [hb, len]
    rw [if_neg (by rw [hst]; decide), if_neg (by rw [hlen]; omega),
      if_neg (by simpa [← Option.isSome_iff_ne_none] using hid)]
    obtain ⟨s', hs, h, hl⟩ := nextByte_good hV hst hid hlen
      (by rw [hb]; exact size) (by rw [hb, result]) value
      fun t ht h0 => by
        have hn : s.nextByte value = some { t with
            interrupting := s.interrupting } := by
          rw [hcmd, nextByte, Option.map_eq_some_iff] at ht
          obtain ⟨buf, hbuf, rfl⟩ := ht
          rw [nextByte, Option.map_eq_some_iff]
          exact ⟨buf, hbuf, rfl⟩
        have hc : s.command value = s.nextByte value := by
          rw [command, if_neg (by simpa [← Option.isSome_iff_ne_none] using id)]
        exact hp (by rw [stat]; decide)
          { t with interrupting := s.interrupting } (hc.trans hn) h0
    exact ⟨s', hs, h, by rw [hb] at hl; exact hl⟩

theorem fd_motors (s : Fdc δ) (running : Byte) : (s.motors running).fd =
    s.fd.map fun d => { d with motor := running.getLsbD s.curunit.toNat } := rfl

/-- Starting and stopping motors between commands, or of other drives, moves
no bytes. -/
theorem setMotor_some {s : Fdc δ} {running : Byte}
    (ho : Obeys V s (.motor running)) :
    ∃ s', s.setMotor V running = some s' ∧ s'.toBuffers = s.toBuffers := by
  simp only [setMotor]
  split
  · exact ⟨_, rfl, rfl⟩
  · next hne =>
    cases hd : s.fd with
    | none => simp [curMotor, fd_motors, hd] at hne
    | some d =>
        have hnew : (s.motors running).curMotor =
            running.getLsbD s.curunit.toNat := by
          rw [curMotor, fd_motors, hd]
          rfl
        simp only [Option.bind_eq_bind]
        generalize hu : Fdc.mk _ _ _ _ _ _ _ _ _ _ _ _ = u
        obtain ⟨t, ht⟩ : ∃ t, u.getSt3 V = some t := by
          have huf : u.fd = (s.motors running).fd := by
            rw [← hu]
            rfl
          rw [getSt3, huf, fd_motors, hd]
          exact ⟨_, rfl⟩
        have htb : t.toBuffers = s.toBuffers := by
          rw [toBuffers_getSt3 ht, ← hu]
          rfl
        rw [ht, Option.bind_some, if_neg]
        · exact ⟨t, rfl, htb⟩
        · rintro ⟨hm, hn⟩
          rw [htb] at hm
          rcases ho with h | h
          · rw [h] at hm
            exact hm (by decide)
          · have hold : s.curMotor = true := by
              rw [hnew] at hne
              cases hc : s.curMotor with
              | true => rfl
              | false => simp_all
            rw [hnew, h hold] at hn
            cases hn

/-- Does the access go to the data register? -/
def Access.data : Access → Bool
  | .motor _ => false
  | _ => true

/-- No access of a program that obeys the controller goes wrong, and one to the
data register brings the end of the transaction nearer. -/
theorem access_good (hV : V.Lawful) {s : Fdc δ} (hg : s.Good) {a : Access}
    (ho : Obeys V s a) : ∃ s', s.access V a = some s' ∧ s'.Good ∧
      if a.data then s.Nearer s'.toBuffers else s'.toBuffers = s.toBuffers := by
  cases a with
  | read =>
      obtain ⟨v, s', hs, h, hl⟩ := readData_served hV hg ho
      exact ⟨s', by rw [access, hs]; rfl, .served h, hl⟩
  | write value =>
      obtain ⟨s', hs, h, hl⟩ := writeData_good hV hg ho
      exact ⟨s', hs, h, hl⟩
  | motor running =>
      obtain ⟨s', hs, hb⟩ := setMotor_some ho
      exact ⟨s', hs, by rw [hb]; exact hg, hb⟩

/-! ## Runs -/

/-- The controller after a reset, with its drives attached again. -/
def restart (s : Fdc δ) (drives : BitVec 2 → Option (FloppyDrive δ)) : Fdc δ :=
  { s.reset with drive := drives }

theorem restart_good (s : Fdc δ)
    (drives : BitVec 2 → Option (FloppyDrive δ)) : (s.restart drives).Good :=
  .served (.idle rfl rfl rfl)

theorem access_safe (hV : V.Lawful) {s : Fdc δ} {a : Access} (hg : s.Good)
    (ho : Obeys V s a) : ∃ s', s.access V a = some s' ∧ s'.Good := by
  obtain ⟨s', hs, hg', -⟩ := access_good hV hg ho
  exact ⟨s', hs, hg'⟩

/-- A program that obeys the controller never brings it into a state that the
source does not define, whatever the drives answer, and the main status
register tells the phase of the counters throughout. -/
theorem handshake_run (hV : V.Lawful) (s : Fdc δ)
    (drives : BitVec 2 → Option (FloppyDrive δ)) (as : List Access)
    (h : Partial.Along (access V) (Obeys V) (s.restart drives) as) :
    ∃ s', Partial.run (access V) (s.restart drives) as = some s' ∧ s'.Good :=
  Partial.safe_run (fun _ _ => access_safe hV) (restart_good s drives) h

theorem Good.left_le {s : Fdc δ} (h : s.Good) : s.left ≤ execSize + 16 := by
  rcases h with h | ⟨stat, id, left, len, size, result⟩
  · rcases h.left_le with h | h
    · have h : s.mainstat = 0x80 := h
      rw [Buffers.left, if_pos h]
    · omega
  · have := bytesInCmd_le s.code
    rw [Buffers.left, len]
    simp [stat]
    omega

theorem sum_data (as : List Access) :
    (as.map fun a => if a.data then 1 else 0).sum = as.countP Access.data := by
  induction as with
  | nil => rfl
  | cons a as ih =>
      rw [List.map_cons, List.sum_cons, ih, List.countP_cons, Nat.add_comm]

/-- Every transaction ends. At any time of such a run there are at most 16400
bytes left to be transferred, and as soon as one access more has been made the
controller has been idle. -/
theorem transactions_end (hV : V.Lawful) (s : Fdc δ)
    (drives : BitVec 2 → Option (FloppyDrive δ)) (before as : List Access)
    (h : Partial.Along (access V) (Obeys V) (s.restart drives) (before ++ as)) :
    ∃ t, Partial.run (access V) (s.restart drives) before = some t ∧
      t.left ≤ execSize + 16 ∧
      (t.left < as.countP Access.data → ∃ fs gs s', as = fs ++ gs ∧ fs ≠ [] ∧
        Partial.run (access V) t fs = some s' ∧ s'.Idle) := by
  obtain ⟨hb, ha⟩ := Partial.along_append.1 h
  obtain ⟨t, ht, hg⟩ := Partial.safe_run (fun _ _ => access_safe hV)
    (restart_good s drives) hb
  refine ⟨t, ht, Good.left_le hg, fun hn => ?_⟩
  rw [← sum_data] at hn
  refine Partial.reaches (I := fun s : Fdc δ => s.Good)
    (l := fun s : Fdc δ => s.left) (fun s a hg ho => ?_) hg (ha t ht) hn
  obtain ⟨s', hs, hg', hl⟩ := access_good hV hg ho
  refine ⟨s', hs, hg', ?_⟩
  cases hd : a.data with
  | true =>
      simp only [hd, if_true] at hl
      rcases hl with hl | hl
      · exact .inl hl
      · exact .inr hl
  | false =>
      simp only [hd, Bool.false_eq_true, if_false] at hl
      rw [hl]
      exact .inr (Nat.le_refl _)

end Fdc

end Xcpc.Lib765
