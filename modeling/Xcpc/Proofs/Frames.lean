import Xcpc.Cpc.Machine
import Xcpc.Proofs.Judgment

/-!
# What the mainboard leaves alone

Most of the mainboard does not move when something happens to it, and a proof
about the memory map does not want to hear about the sound generator. Two
kinds of frames are collected here.

The parallel interface reaches a part of the board only: itself, the lines of
port C, the keyboard line and the sound generator. `offPpi` blanks that part,
and no access to the four ports is visible behind it.

An invariant of the mainboard alone is an invariant of the machine. The
processor changes the bus with the accesses of its interface only, so it is
enough to check the accesses and the other devices' clocks.
-/

namespace Xcpc.Ppi

open Prog

variable {σ : Type} {I : Interface σ} {R : σ → σ → Prop}

/-! ## The three ports

The source has each function once for every port. A proof takes the port as an
argument. -/

inductive Port where
  | a | b | c
deriving DecidableEq

namespace State

def latch (s : State) : Port → Byte
  | .a => s.portA
  | .b => s.portB
  | .c => s.portC

def dir (s : State) : Port → Byte
  | .a => s.dirA
  | .b => s.dirB
  | .c => s.dirC

def setLatch (s : State) (p : Port) (v : Byte) : State :=
  match p with
  | .a => { s with portA := v }
  | .b => { s with portB := v }
  | .c => { s with portC := v }

def setDir (s : State) (p : Port) (v : Byte) : State :=
  match p with
  | .a => { s with dirA := v }
  | .b => { s with dirB := v }
  | .c => { s with dirC := v }

@[simp] theorem latch_setLatch (s : State) (p q : Port) (v : Byte) :
    (s.setLatch p v).latch q = if q = p then v else s.latch q := by
  cases p <;> cases q <;> rfl

@[simp] theorem dir_setLatch (s : State) (p q : Port) (v : Byte) :
    (s.setLatch p v).dir q = s.dir q := by
  cases p <;> cases q <;> rfl

@[simp] theorem latch_setDir (s : State) (p q : Port) (v : Byte) :
    (s.setDir p v).latch q = s.latch q := by
  cases p <;> cases q <;> rfl

@[simp] theorem dir_setDir (s : State) (p q : Port) (v : Byte) :
    (s.setDir p v).dir q = if q = p then v else s.dir q := by
  cases p <;> cases q <;> rfl

@[simp] theorem ctrlP_setLatch (s : State) (p : Port) (v : Byte) :
    (s.setLatch p v).ctrlP = s.ctrlP := by
  cases p <;> rfl

@[simp] theorem ctrlP_setDir (s : State) (p : Port) (v : Byte) :
    (s.setDir p v).ctrlP = s.ctrlP := by
  cases p <;> rfl

theorem setLatch_latch (s : State) (p : Port) : s.setLatch p (s.latch p) = s := by
  cases p <;> rfl

theorem setDir_dir (s : State) (p : Port) : s.setDir p (s.dir p) = s := by
  cases p <;> rfl

/-- The control byte and the groups are apart from the ports. -/
theorem control_keeps (s : State) (c g k : Byte) (p : Port) :
    ({ s with ctrlP := c, grpA := g, grpB := k } : State).dir p = s.dir p ∧
      ({ s with ctrlP := c, grpA := g, grpB := k } : State).latch p =
        s.latch p := by
  cases p <;> exact ⟨rfl, rfl⟩

end State

def Interface.rd (I : Interface σ) : Port → σ → Byte → Byte × σ
  | .a => I.aRd
  | .b => I.bRd
  | .c => I.cRd

def Interface.wr (I : Interface σ) : Port → σ → Byte → σ
  | .a => I.aWr
  | .b => I.bWr
  | .c => I.cWr

variable (I) in
def rdPort : Port → State → σ → Byte → Byte × State × σ
  | .a => rdPortA I
  | .b => rdPortB I
  | .c => rdPortC I

variable (I) in
def wrPort : Port → State → σ → Byte → State × σ
  | .a => wrPortA I
  | .b => wrPortB I
  | .c => wrPortC I

variable (I) in
def turn : Port → State → σ → Byte → State × σ
  | .a => turnA I
  | .b => turnB I
  | .c => turnC I

/-- The directions of a mode word. -/
def modeDir (v : Byte) : Port → Byte
  | .a => modeDirA v
  | .b => modeDirB v
  | .c => modeDirC v

theorem rdPort_eq (p : Port) (s : State) (m : σ) (v : Byte) :
    rdPort I p s m v =
      if s.dir p != 0 then
        ((I.rd p m v).1, s.setLatch p (I.rd p m v).1, (I.rd p m v).2)
      else (s.latch p, s, m) := by
  cases p <;> rfl

theorem wrPort_eq (p : Port) (s : State) (m : σ) (v : Byte) :
    wrPort I p s m v =
      (s.setLatch p v, if s.dir p == 0 then I.wr p m v else m) := by
  cases p <;> rfl

theorem turn_eq (p : Port) (s : State) (m : σ) (dir : Byte) :
    turn I p s m dir =
      if dir != s.dir p then
        if dir != 0 then
          ((s.setDir p dir).setLatch p (I.rd p m (s.latch p)).1,
            (I.rd p m (s.latch p)).2)
        else (s.setDir p dir, I.wr p m (s.latch p))
      else (s, m) := by
  cases p <;> rfl

/-- A mode word turns the ports one after the other. -/
theorem setMode_eq (s : State) (m : σ) (v : Byte) :
    setMode I s m v =
      let s := { s with grpA := (v >>> 5) &&& 0x03, grpB := (v >>> 2) &&& 0x01 }
      let a := turn I .a s m (modeDir v .a)
      let b := turn I .b a.1 a.2 (modeDir v .b)
      turn I .c b.1 b.2 (modeDir v .c) := rfl

/-- The mainboard's side of the ports moves along `R` only. -/
structure Interface.Keeps (I : Interface σ) (R : σ → σ → Prop) : Prop where
  order : Preorder R
  rd : ∀ p m v, R m (I.rd p m v).2
  wr : ∀ p m v, R m (I.wr p m v)

theorem rdPort_keeps (h : I.Keeps R) (p : Port) (s : State) (m : σ)
    (v : Byte) : R m (rdPort I p s m v).2.2 := by
  rw [rdPort_eq]
  split
  · exact h.rd p m v
  · exact h.order.refl m

theorem wrPort_keeps (h : I.Keeps R) (p : Port) (s : State) (m : σ)
    (v : Byte) : R m (wrPort I p s m v).2 := by
  rw [wrPort_eq]
  dsimp only
  split
  · exact h.wr p m v
  · exact h.order.refl m

theorem turn_keeps (h : I.Keeps R) (p : Port) (s : State) (m : σ)
    (dir : Byte) : R m (turn I p s m dir).2 := by
  rw [turn_eq]
  split
  · split
    · exact h.rd p m (s.latch p)
    · exact h.wr p m (s.latch p)
  · exact h.order.refl m

theorem wrCtrlP_keeps (h : I.Keeps R) (s : State) (m : σ) (v : Byte) :
    R m (wrCtrlP I s m v).2 := by
  unfold wrCtrlP
  split
  · rw [setMode_eq]
    exact h.order.trans (turn_keeps h .a _ m (modeDir v .a))
      (h.order.trans (turn_keeps h .b _ _ _) (turn_keeps h .c _ _ _))
  · simp only [setBit]
    split
    · exact h.wr .c m _
    · exact h.order.refl m

end Xcpc.Ppi

namespace Xcpc.Cpc.Board

open Ppi (Interface)

/-! ## The parallel interface -/

/-- The board with what the parallel interface reaches at its reset level. -/
def offPpi (b : Board) : Board :=
  { b with
    psgData := 0
    psgBdir := 0
    psgBc1 := 0
    casMotor := 0
    casWrData := 0
    kbd := Kbd.reset
    ppi := Ppi.reset
    psg := Psg.reset }

@[simp] theorem offPpi_vga (b : Board) : b.offPpi.vga = b.vga := rfl

@[simp] theorem offPpi_vdc (b : Board) : b.offPpi.vdc = b.vdc := rfl

@[simp] theorem offPpi_memorySize (b : Board) :
    b.offPpi.memorySize = b.memorySize := rfl

@[simp] theorem offPpi_ram (b : Board) : b.offPpi.ram = b.ram := rfl

@[simp] theorem offPpi_exp (b : Board) : b.offPpi.exp = b.exp := rfl

theorem offPpi_psgUpdate (b : Board) (data : Byte) :
    (b.psgUpdate data).offPpi = b.offPpi := by
  unfold psgUpdate
  split
  · rfl
  · split
    · rfl
    · rfl

theorem ppiInterface_keeps :
    ppiInterface.Keeps fun b b' => b'.offPpi = b.offPpi where
  order := ⟨fun _ => rfl, fun h h' => h'.trans h⟩
  rd p b data := by
    cases p with
    | a =>
        show (ppiPortARd b data).2.offPpi = b.offPpi
        unfold ppiPortARd
        split
        · rfl
        · rfl
    | b => rfl
    | c => rfl
  wr p b data := by
    cases p with
    | a => exact offPpi_psgUpdate { b with psgData := data } data
    | b => rfl
    | c =>
        show (ppiPortCWr b data).offPpi = b.offPpi
        unfold ppiPortCWr
        rw [offPpi_psgUpdate]
        rfl

theorem offPpi_wrPort (p : Ppi.Port) (b : Board) (v : Byte) :
    (b.ppiWrite (Ppi.wrPort ppiInterface p) v).offPpi = b.offPpi :=
  Ppi.wrPort_keeps ppiInterface_keeps p b.ppi b v

theorem offPpi_wrCtrlP (b : Board) (v : Byte) :
    (b.wrCtrlP v).offPpi = b.offPpi :=
  Ppi.wrCtrlP_keeps ppiInterface_keeps b.ppi b v

theorem offPpi_iorqWrPpi (b : Board) (port : Word) (v : Byte) :
    (b.iorqWrPpi port v).offPpi = b.offPpi := by
  unfold iorqWrPpi
  split
  · split
    · exact offPpi_wrPort .a b v
    · exact offPpi_wrPort .b b v
    · exact offPpi_wrPort .c b v
    · exact offPpi_wrCtrlP b v
  · rfl

theorem offPpi_iorqRdPpi (b : Board) (port : Word) (v : Byte) :
    (b.iorqRdPpi port v).2.offPpi = b.offPpi := by
  unfold iorqRdPpi
  split
  · split
    · exact Ppi.rdPort_keeps ppiInterface_keeps .a b.ppi b v
    · exact Ppi.rdPort_keeps ppiInterface_keeps .b b.ppi b v
    · exact Ppi.rdPort_keeps ppiInterface_keeps .c b.ppi b v
    · rfl
  · rfl

theorem offPpi_loadPpi (b : Board) (h : Sna.Header) :
    (b.loadPpi h).offPpi = b.offPpi := by
  unfold loadPpi
  exact (offPpi_wrCtrlP _ _).trans ((offPpi_wrPort .c _ _).trans
    ((offPpi_wrPort .b _ _).trans (offPpi_wrPort .a b _)))

theorem loadPpi_vga (b : Board) (h : Sna.Header) :
    (b.loadPpi h).vga = b.vga := by
  rw [← offPpi_vga, offPpi_loadPpi, offPpi_vga]

theorem loadPpi_vdc (b : Board) (h : Sna.Header) :
    (b.loadPpi h).vdc = b.vdc := by
  rw [← offPpi_vdc, offPpi_loadPpi, offPpi_vdc]

theorem loadPpi_memorySize (b : Board) (h : Sna.Header) :
    (b.loadPpi h).memorySize = b.memorySize := by
  rw [← offPpi_memorySize, offPpi_loadPpi, offPpi_memorySize]

theorem loadPpi_ram (b : Board) (h : Sna.Header) :
    (b.loadPpi h).ram = b.ram := by
  rw [← offPpi_ram, offPpi_loadPpi, offPpi_ram]

theorem loadPpi_exp (b : Board) (h : Sna.Header) :
    (b.loadPpi h).exp = b.exp := by
  rw [← offPpi_exp, offPpi_loadPpi, offPpi_exp]

theorem updateRam_eq (b : Board) :
    ∃ rd wr, b.updateRam = { b with palRd := rd, palWr := wr } := by
  unfold updateRam
  split
  · split
    · exact ⟨_, _, rfl⟩
    · exact ⟨b.palRd, b.palWr, rfl⟩
  · exact ⟨_, _, rfl⟩

/-- `update_pal` sets the pointers and nothing else. -/
theorem updatePal_eq (b : Board) :
    ∃ rd wr, b.updatePal = { b with palRd := rd, palWr := wr } := by
  obtain ⟨rd, wr, h⟩ := updateRam_eq b
  unfold updatePal updateUpper updateLower
  rw [h]
  split
  · split
    · exact ⟨_, wr, rfl⟩
    · exact ⟨_, wr, rfl⟩
  · split
    · exact ⟨_, wr, rfl⟩
    · exact ⟨rd, wr, rfl⟩

/-! ## Loading a snapshot

`load` goes through the devices in turn, and what each of them holds at the
end is what its own step left. -/

/-- The mainboards have the same memory and ROMs, and the same is connected to
them. Neither a program nor a reset changes any of this. -/
structure SameConfig (b b' : Board) : Prop where
  memorySize : b'.memorySize = b.memorySize
  rom : b'.rom = b.rom
  exp : b'.exp = b.exp
  lnkLk1 : b'.lnkLk1 = b.lnkLk1
  lnkLk2 : b'.lnkLk2 = b.lnkLk2
  lnkLk3 : b'.lnkLk3 = b.lnkLk3
  lnkLk4 : b'.lnkLk4 = b.lnkLk4
  expBusy : b'.expBusy = b.expBusy
  prtBusy : b'.prtBusy = b.prtBusy
  psgBc2 : b'.psgBc2 = b.psgBc2

/-- The board of `load` in front of the last `update_pal`. -/
def loaded (b : Board) (s : Sna.State) : Board :=
  ((((((b.loadVga s.header).loadVdc s.header).loadPpi s.header).loadPsg
    s.header).loadRam s.header).loadRom s.header).storeMem s

/-- The mainboard of a reset before the memory is mapped. -/
def cleared (b : Board) : Board :=
  { b with
    vdcHsync := false, vdcVsync := false, psgData := 0, psgBdir := 0
    psgBc1 := 0, casMotor := 0, casRdData := 0, casWrData := 0, ramConf := 0
    romConf := 0, kbd := Kbd.reset, vga := Vga.reset b.vga, vdc := Vdc.reset
    ppi := Ppi.reset, psg := Psg.reset, ram := fun _ _ => 0 }

theorem reset_eq (b : Board) : b.reset = b.cleared.updatePal := rfl

theorem load_eq (b : Board) (s : Sna.State) :
    b.load s = (b.loaded s).updatePal := rfl

theorem load_vga (b : Board) (s : Sna.State) :
    (b.load s).vga = (b.loadVga s.header).vga := by
  obtain ⟨rd, wr, h⟩ := updatePal_eq (b.loaded s)
  rw [load_eq, h, loaded]
  simp only [storeMem, loadRom, loadRam, loadPsg, loadPpi_vga, loadVdc]

theorem load_vdc (b : Board) (s : Sna.State) :
    (b.load s).vdc = (b.loadVdc s.header).vdc := by
  obtain ⟨rd, wr, h⟩ := updatePal_eq (b.loaded s)
  rw [load_eq, h, loaded]
  simp only [storeMem, loadRom, loadRam, loadPsg, loadPpi_vdc,
    loadVdc, loadVga]

theorem load_memorySize (b : Board) (s : Sna.State) :
    (b.load s).memorySize = b.memorySize := by
  obtain ⟨rd, wr, h⟩ := updatePal_eq (b.loaded s)
  rw [load_eq, h, loaded]
  simp only [storeMem, loadRom, loadRam, loadPsg,
    loadPpi_memorySize, loadVdc, loadVga]

theorem load_exp (b : Board) (s : Sna.State) :
    (b.load s).exp = b.exp := by
  obtain ⟨rd, wr, h⟩ := updatePal_eq (b.loaded s)
  rw [load_eq, h, loaded]
  simp only [storeMem, loadRom, loadRam, loadPsg, loadPpi_exp,
    loadVdc, loadVga]

theorem load_storeMem (b : Board) (s : Sna.State) :
    (b.load s).ram = (b.storeMem s).ram := by
  obtain ⟨rd, wr, h⟩ := updatePal_eq (b.loaded s)
  rw [load_eq, h, loaded]
  simp only [storeMem, loadRom, loadRam, loadPsg, loadPpi_ram,
    loadPpi_memorySize, loadVdc, loadVga]

theorem load_conf (b : Board) (s : Sna.State) :
    (b.load s).ramConf = s.header.ramSelect ∧
      (b.load s).romConf = s.header.romSelect := by
  obtain ⟨rd, wr, h⟩ := updatePal_eq (b.loaded s)
  rw [load_eq, h]
  exact ⟨rfl, rfl⟩

end Xcpc.Cpc.Board

/-! ## Invariants -/

namespace Xcpc.Cpu

open Prog

variable {β : Type} {I : Interface β} {J : β → Prop}

/-- No access breaks `J`. -/
structure Interface.Invariant (I : Interface β) (J : β → Prop) : Prop where
  mreqM1 : ∀ b a, J b → J (I.mreqM1 b a).2
  mreqRd : ∀ b a, J b → J (I.mreqRd b a).2
  mreqWr : ∀ b a v, J b → J (I.mreqWr b a v)
  iorqM1 : ∀ b a, J b → J (I.iorqM1 b a).2
  iorqRd : ∀ b a, J b → J (I.iorqRd b a).2
  iorqWr : ∀ b a v, J b → J (I.iorqWr b a v)

theorem judgment_invariant (hI : I.Invariant J) :
    Judgment I fun _ _ α m =>
      Moves (fun s t => J s.bus → J t.bus) (α := α) m := by
  have hR : Preorder fun s t : Instance β => J s.bus → J t.bus :=
    ⟨fun _ h => h, fun h h' hs => h' (h hs)⟩
  exact
    { pure := fun a => moves_pure hR a
      bind := fun hm hf => moves_bind hR hm hf
      weaken := fun hm _ _ => hm
      reads := fun _ _ h => h
      writes := fun _ _ h => h
      readsSt := fun _ _ h => h
      mreqM1 := fun a s => hI.mreqM1 s.bus a
      mreqRd := fun a s => hI.mreqRd s.bus a
      mreqWr := fun a v s => hI.mreqWr s.bus a v
      iorqM1 := fun a s => hI.iorqM1 s.bus a
      iorqRd := fun a s => hI.iorqRd s.bus a
      iorqWr := fun a v s => hI.iorqWr s.bus a v
      consume := fun _ _ _ h => h }

/-- The processor keeps what the accesses keep. -/
theorem clock_invariant (hI : I.Invariant J) (s : Instance β) (h : J s.bus) :
    J (clock I s).bus := by
  unfold clock
  split
  · exact judgment_prolog (judgment_invariant hI) (fun _ _ hs => hs) s h
  · exact h

end Xcpc.Cpu

namespace Xcpc.Cpc

open Prog

/-- Nothing that happens to the mainboard breaks `J`. -/
structure Board.Invariant (J : Board → Prop) : Prop where
  mreqWr : ∀ b a v, J b → J (b.mreqWr a v)
  iorqM1 : ∀ b, J b → J b.iorqM1
  iorqRd : ∀ b p, J b → J (b.iorqRd p).2
  iorqWr : ∀ b p v, J b → J (b.iorqWr p v)
  hsync : ∀ b x r, b.assertHsync x = some r → J b → J r.1
  vsync : ∀ b x, J b → J (b.assertVsync x)
  vdc : ∀ b, J b → J { b with vdc := Vdc.clock b.vdc }
  psg : ∀ b, J b → J { b with psg := Psg.clock b.psg }
  keys : ∀ b keys, J b → J { b with kbd := { b.kbd with keys := keys } }
  reset : ∀ b : Board, J b.reset
  load : ∀ (b : Board) s, J (b.reset.load s)

/-- The same for a property that a reset does not bring about, and only does
not break either. -/
structure Board.Stable (J : Board → Prop) : Prop where
  mreqWr : ∀ b a v, J b → J (b.mreqWr a v)
  iorqM1 : ∀ b, J b → J b.iorqM1
  iorqRd : ∀ b p, J b → J (b.iorqRd p).2
  iorqWr : ∀ b p v, J b → J (b.iorqWr p v)
  hsync : ∀ b x r, b.assertHsync x = some r → J b → J r.1
  vsync : ∀ b x, J b → J (b.assertVsync x)
  vdc : ∀ b, J b → J { b with vdc := Vdc.clock b.vdc }
  psg : ∀ b, J b → J { b with psg := Psg.clock b.psg }
  keys : ∀ b keys, J b → J { b with kbd := { b.kbd with keys := keys } }
  reset : ∀ b : Board, J b → J b.reset
  load : ∀ (b : Board) s, J b → J (b.reset.load s)

theorem Board.Invariant.stable {J : Board → Prop} (hJ : Board.Invariant J) :
    Board.Stable J :=
  { hJ with
    reset := fun b _ => hJ.reset b
    load := fun b s _ => hJ.load b s }

namespace Machine

variable {φ : Type} {F : Fdc φ} {J : Board → Prop}

theorem iorqRd_board (F : Fdc φ) (s : Bus φ) (port : Word) :
    (s.iorqRd F port).2.board = (s.board.iorqRd port).2 := by
  unfold Bus.iorqRd
  split
  · split <;> rfl
  · rfl

theorem iorqWr_board (F : Fdc φ) (s : Bus φ) (port : Word) (v : Byte) :
    (s.iorqWr F port v).board = s.board.iorqWr port v := by
  unfold Bus.iorqWr
  split
  · split <;> rfl
  · rfl

theorem interface_invariant (hJ : Board.Stable J) :
    (Bus.interface F).Invariant fun s => J s.board where
  mreqM1 _ _ h := h
  mreqRd _ _ h := h
  mreqWr s a v h := hJ.mreqWr s.board a v h
  iorqM1 s _ h := hJ.iorqM1 s.board h
  iorqRd s a h := by
    show J (s.iorqRd F a).2.board
    rw [iorqRd_board]
    exact hJ.iorqRd s.board a h
  iorqWr s a v h := by
    show J (s.iorqWr F a v).board
    rw [iorqWr_board]
    exact hJ.iorqWr s.board a v h

theorem hsync_invariant (hJ : Board.Stable J) (m : Machine φ) (x : Bool)
    (h : J m.board) : J (m.hsync x).board := by
  unfold hsync
  cases hr : m.board.assertHsync x with
  | none => exact h
  | some r =>
      have hb := hJ.hsync m.board x r hr h
      simp only []
      split
      · exact hb
      · exact hb

theorem clockVdc_invariant (hJ : Board.Stable J) (m : Machine φ)
    (h : J m.board) : J m.clockVdc.board := by
  have hv : J (m.withBoard { m.board with vdc := Vdc.clock m.board.vdc }).board :=
    hJ.vdc m.board h
  unfold clockVdc
  simp only []
  split
  · refine hJ.vsync _ _ ?_
    split
    · exact hsync_invariant hJ _ _ hv
    · exact hv
  · split
    · exact hsync_invariant hJ _ _ hv
    · exact hv

theorem step_invariant (hJ : Board.Stable J) (m : Machine φ) (e : Event)
    (h : J m.board) : J (m.step F e).board := by
  cases e with
  | clockVdc => exact clockVdc_invariant hJ m h
  | clockCpu => exact Cpu.clock_invariant (interface_invariant hJ) m h
  | clockPsg => exact hJ.psg m.board h
  | keys keys => exact hJ.keys m.board keys h
  | reset => exact hJ.reset m.board h
  | loadSnapshot file =>
      show J (m.loadSnapshot F file).2.board
      unfold loadSnapshot
      split
      · exact hJ.load m.board _ h
      · exact hJ.reset m.board h

/-- An invariant of the mainboard holds in every state of the machine that a
reset leads to. -/
theorem run_invariant (hJ : Board.Invariant J) (m : Machine φ)
    (es : List Event) : J (run (step F) (m.reset F) es).board :=
  @run_keeps _ _ (step F) (fun m => J m.board) (step_invariant hJ.stable)
    (m.reset F)
    (hJ.reset m.board) es

/-- What a machine is built with and a reset does not break, it keeps. -/
theorem run_stable (hJ : Board.Stable J) (m : Machine φ) (h : J m.board)
    (es : List Event) : J (run (step F) (m.reset F) es).board :=
  @run_keeps _ _ (step F) (fun m => J m.board) (step_invariant hJ) (m.reset F)
    (hJ.reset m.board h) es

end Machine

end Xcpc.Cpc
