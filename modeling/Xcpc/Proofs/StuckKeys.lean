import Xcpc.Lib.Carry
import Xcpc.Lib.Latch
import Xcpc.Dev.Keys

/-!
# Stuck keys

A press pulls down the bits of its own decoding and a release lets up the bits
of its own. Each bit of the rows 0 to 9 is therefore a latch of its own, and
what a run leaves down is read off the decodings of its events, one by one: no
key is stuck exactly if every bit that a press pulls down is let up by the
decoding of some later release.

The Shift and Control modifiers choose the keysym. A key whose decoding
depends on them can be pressed as one key of the matrix and released as
another.
-/

namespace Xcpc.Kbd

open Prog

/-! ## One event -/

/-- The key that an event is decoded to. -/
def keyFor {κ : Type} (type : KeyboardType) (lookup : Lookup κ)
    (event : XKeyEvent κ) : Option Key :=
  let keysym := lookup event.keycode event.shift event.control
  if type = .french then keyOf frenchLatin frenchDead keysym
  else keyOf englishLatin englishDead keysym

/-- The bits of a row that a mask for one line takes. -/
def rowMask (line data : Byte) (row : Fin 16) : Byte :=
  if row.val = line.toNat then data else 0

/-- The bits of a row that a key takes, with the Shift and Control bits of row
2 for a key that forces them. -/
def Key.mask (k : Key) (row : Fin 16) : Byte :=
  (if k.mods.getLsbD 0 then rowMask 2 0x20 row else 0) |||
    (if k.mods.getLsbD 1 then rowMask 2 0x80 row else 0) |||
    rowMask k.line k.data row

variable {κ : Type} (type : KeyboardType) (lookup : Lookup κ)

theorem decode_eq (event : XKeyEvent κ) (d : Decoded) :
    decode type lookup event d = decodeKey (keyFor type lookup event) d := by
  cases type <;> rfl

/-- A key of the tables is on one of the sixteen lines and has a bit. -/
def Key.Placed (k : Key) : Prop := k.line ≤ 0x0f ∧ k.data ≠ 0x00

instance instDecidablePlaced (k : Key) : Decidable k.Placed :=
  inferInstanceAs (Decidable (_ ∧ _))

theorem lookup_placed {l : List (Nat × Key)} (h : ∀ e ∈ l, e.2.Placed)
    {keysym : Nat} {k : Key} (hk : l.lookup keysym = some k) : k.Placed := by
  obtain ⟨l₁, l₂, rfl, -⟩ := List.lookup_eq_some_iff.1 hk
  exact h (keysym, k) (by simp)

theorem keyOf_placed {latin dead : List (Nat × Key)}
    (hlatin : ∀ e ∈ latin, e.2.Placed) (hdead : ∀ e ∈ dead, e.2.Placed)
    {keysym : Nat} {k : Key} (hk : keyOf latin dead keysym = some k) :
    k.Placed := by
  simp only [keyOf] at hk
  split at hk
  · exact lookup_placed hlatin hk
  split at hk
  · exact lookup_placed hdead hk
  split at hk
  · exact lookup_placed (l := functionKeys) (by decide) hk
  · cases hk

theorem keyFor_placed {event : XKeyEvent κ} {k : Key}
    (hk : keyFor type lookup event = some k) : k.Placed := by
  simp only [keyFor] at hk
  split at hk
  · exact keyOf_placed (by decide) (by decide) hk
  · exact keyOf_placed (by decide) (by decide) hk

/-- `SET_KEY`, `SFT_KEY` and `EXT_KEY` replace the two low modifiers. -/
theorem decode_mods (k : Key) (d : Decoded) {i : Nat} (hi : i < 2) :
    (k.decode d).mods &&& BitVec.twoPow 8 i ≠ 0 ↔ k.mods.getLsbD i := by
  have hmask : (k.decode d).mods.getLsbD i = k.mods.getLsbD i := by
    interval_cases i <;> simp [Key.decode]
  rw [← hmask, ← mask_ne_zero (by omega), bne_iff_ne]
  rfl

theorem and_ones (x : Byte) : x &&& 255#8 = x := BitVec.and_allOnes ..

theorem pull_keys (s : State) (line data : Byte) (row : Fin 16) :
    (s.pull line data).keys row = s.keys row &&& ~~~rowMask line data row := by
  by_cases hrow : row.val = line.toNat
  · simp only [State.pull, rowMask, if_pos hrow]
  · simp only [State.pull, rowMask, if_neg hrow]
    exact (and_ones _).symm

theorem letUp_keys (s : State) (line data : Byte) (row : Fin 16) :
    (s.letUp line data).keys row = s.keys row ||| rowMask line data row := by
  by_cases hrow : row.val = line.toNat
  · simp only [State.letUp, rowMask, if_pos hrow]
  · simp only [State.letUp, rowMask, if_neg hrow]
    exact (BitVec.or_zero ..).symm

theorem setMods_keys (s : State) (mods : Byte) {row : Fin 16} (h : row ≠ 15) :
    (s.setMods mods).keys row = s.keys row :=
  Function.update_of_ne h _ _

/-- The body of both handlers: a press turns the bits of its key with `pull`, a
release with `letUp`. -/
def turnKey (turn : State → Byte → Byte → State) (s : State)
    (event : XKeyEvent κ) : State :=
  let d := decode type lookup event ⟨0xff, 0x00, ~~~(s.keys 0x0f)⟩
  if d.line ≤ 0x0f ∧ d.data ≠ 0x00 then
    let s := if d.mods &&& 0x01 ≠ 0 then turn s 2 0x20 else s
    let s := if d.mods &&& 0x02 ≠ 0 then turn s 2 0x80 else s
    (turn s d.line d.data).setMods d.mods
  else
    s

/-- Turning a mask bit by bit turns the whole mask of the key, in every row but
the one that holds the modifiers. -/
theorem turnKey_keys {turn : State → Byte → Byte → State}
    {f : Byte → Byte → Byte}
    (hturn : ∀ s line data row,
      (turn s line data).keys row = f (s.keys row) (rowMask line data row))
    (hzero : ∀ a, f a 0#8 = a) (hor : ∀ a m n, f a (m ||| n) = f (f a m) n)
    (s : State) (event : XKeyEvent κ) {row : Fin 16} (hrow : row ≠ 15) :
    (turnKey type lookup turn s event).keys row =
      match keyFor type lookup event with
      | some k => f (s.keys row) (k.mask row)
      | none => s.keys row := by
  rw [turnKey, decode_eq]
  cases hk : keyFor type lookup event with
  | none => rfl
  | some k =>
      obtain ⟨hline, hdata⟩ := keyFor_placed type lookup hk
      have h0 : (k.decode ⟨0xff, 0x00, ~~~(s.keys 0x0f)⟩).mods &&& 0x01 ≠ 0 ↔
        k.mods.getLsbD 0 := decode_mods k _ (i := 0) (by omega)
      have h1 : (k.decode ⟨0xff, 0x00, ~~~(s.keys 0x0f)⟩).mods &&& 0x02 ≠ 0 ↔
        k.mods.getLsbD 1 := decode_mods k _ (i := 1) (by omega)
      simp only [decodeKey, h0, h1]
      rw [if_pos ⟨hline, hdata⟩, setMods_keys _ _ hrow, hturn, Key.mask, hor, hor]
      refine congrArg (f · _) ?_
      generalize k.mods.getLsbD 0 = shift
      generalize k.mods.getLsbD 1 = control
      cases shift <;> cases control <;> simp [hturn, hzero]

theorem onKeyPress_keys (s : State) (event : XKeyEvent κ) {row : Fin 16}
    (hrow : row ≠ 15) :
    (onKeyPress type lookup s event).keys row =
      match keyFor type lookup event with
      | some k => s.keys row &&& ~~~k.mask row
      | none => s.keys row :=
  turnKey_keys type lookup (f := fun a m => a &&& ~~~m) pull_keys and_ones
    (fun a m n => by rw [BitVec.not_or, BitVec.and_assoc]) s event hrow

theorem onKeyRelease_keys (s : State) (event : XKeyEvent κ) {row : Fin 16}
    (hrow : row ≠ 15) :
    (onKeyRelease type lookup s event).keys row =
      match keyFor type lookup event with
      | some k => s.keys row ||| k.mask row
      | none => s.keys row :=
  turnKey_keys type lookup (f := fun a m => a ||| m) letUp_keys
    (fun _ => BitVec.or_zero) (fun a m n => (BitVec.or_assoc a m n).symm)
    s event hrow

/-! ## Runs -/

/-- A press whose key takes the bit. -/
def Pulls (row : Fin 16) (bit : Nat) : KeyEvent κ → Prop
  | .press event =>
      ∃ k ∈ keyFor type lookup event, (k.mask row).getLsbD bit = true
  | .release _ => False

/-- A release whose key takes the bit. -/
def LetsUp (row : Fin 16) (bit : Nat) : KeyEvent κ → Prop
  | .press _ => False
  | .release event =>
      ∃ k ∈ keyFor type lookup event, (k.mask row).getLsbD bit = true

/-- Every bit that a press of the run pulls down in the rows 0 to 9 is let up
by the key of a later release. -/
def AllLetUp (es : List (KeyEvent κ)) : Prop :=
  ∀ row : Fin 16, row.val < 10 → ∀ bit < 8,
    Answered (Pulls type lookup row bit)
      (fun _ => LetsUp type lookup row bit) es

/-- Every one of the rows 0 to 9 reads 0xff. -/
def AllUp (s : State) : Prop :=
  ∀ line : Byte, line < 10 → getData (setLine s line) = 0xff

instance instDecidablePulls (row : Fin 16) (bit : Nat) :
    DecidablePred (Pulls type lookup row bit)
  | .press event => inferInstanceAs
      (Decidable (∃ k ∈ keyFor type lookup event, (k.mask row).getLsbD bit))
  | .release _ => isFalse id

instance instDecidableLetsUp (row : Fin 16) (bit : Nat) :
    DecidablePred (LetsUp type lookup row bit)
  | .press _ => isFalse id
  | .release event => inferInstanceAs
      (Decidable (∃ k ∈ keyFor type lookup event, (k.mask row).getLsbD bit))

instance instDecidableAllLetUp (es : List (KeyEvent κ)) :
    Decidable (AllLetUp type lookup es) :=
  inferInstanceAs (Decidable (∀ row : Fin 16, row.val < 10 → ∀ bit < 8,
    Answered (Pulls type lookup row bit)
      (fun _ => LetsUp type lookup row bit) es))

theorem getData_setLine (s : State) {line : Byte} (h : line.toNat < 16) :
    getData (setLine s line) = s.keys ⟨line.toNat, h⟩ :=
  dif_pos h

theorem allUp_iff (s : State) :
    AllUp s ↔ ∀ row : Fin 16, row.val < 10 → ∀ bit < 8,
      (s.keys row).getLsbD bit = true := by
  have hones {bit : Nat} (hbit : bit < 8) :
      (0xff : Byte).getLsbD bit = true := by
    interval_cases bit <;> rfl
  have hbits (x : Byte) : x = 0xff ↔ ∀ bit < 8, x.getLsbD bit = true :=
    ⟨fun h bit hbit => h ▸ hones hbit, fun h => BitVec.eq_of_getLsbD_eq
      fun bit hbit => (h bit hbit).trans (hones hbit).symm⟩
  constructor
  · intro h row hrow
    have hline : (BitVec.ofNat 8 row.val).toNat = row.val :=
      Nat.mod_eq_of_lt (by omega)
    have hread := h (.ofNat 8 row.val) (by
      rw [BitVec.lt_def, hline]
      exact hrow)
    rw [getData_setLine s (by omega), hbits] at hread
    rwa [show row = ⟨(BitVec.ofNat 8 row.val).toNat, by omega⟩ from
      Fin.ext hline.symm]
  · intro h line hline
    have hlt : line.toNat < 10 := BitVec.lt_def.1 hline
    rw [getData_setLine s (by omega), hbits]
    exact h ⟨line.toNat, by omega⟩ hlt

/-- Each bit of the rows 0 to 9 is a latch. -/
theorem onKey_bit (s : State) (e : KeyEvent κ) {row : Fin 16} (hrow : row ≠ 15)
    {bit : Nat} (hbit : bit < 8) :
    ((onKey type lookup s e).keys row).getLsbD bit = true ↔
      LetsUp type lookup row bit e ∨
        (¬ Pulls type lookup row bit e ∧ (s.keys row).getLsbD bit = true) := by
  cases e with
  | press event =>
      rw [onKey, onKeyPress_keys type lookup s event hrow]
      cases hk : keyFor type lookup event with
      | none => simp [LetsUp, Pulls, hk]
      | some k => simp [LetsUp, Pulls, hk, hbit, and_comm]
  | release event =>
      rw [onKey, onKeyRelease_keys type lookup s event hrow]
      cases hk : keyFor type lookup event with
      | none => simp [LetsUp, Pulls, hk]
      | some k => simp [LetsUp, Pulls, hk, or_comm]

theorem not_pulls_of_letsUp {e : KeyEvent κ} {row : Fin 16} {bit : Nat}
    (h : LetsUp type lookup row bit e) : ¬ Pulls type lookup row bit e := by
  cases e with
  | press event => exact h.elim
  | release event => exact id

theorem allUp_run_iff {s : State} (hs : AllUp s) (es : List (KeyEvent κ)) :
    AllUp (run (onKey type lookup) s es) ↔ AllLetUp type lookup es := by
  rw [allUp_iff] at hs ⊢
  refine forall_congr' fun row => imp_congr_right fun hrow =>
    forall_congr' fun bit => imp_congr_right fun hbit => ?_
  have hne : row ≠ 15 := by
    rintro rfl
    omega
  have hdown (t : State) (e : KeyEvent κ) (he : Pulls type lookup row bit e) :
      ¬ ((onKey type lookup t e).keys row).getLsbD bit = true := by
    rw [onKey_bit type lookup t e hne hbit]
    rintro (h | h)
    · exact not_pulls_of_letsUp type lookup h he
    · exact h.1 he
  have hup (t : State) (e : KeyEvent κ) (he : LetsUp type lookup row bit e) :
      ((onKey type lookup t e).keys row).getLsbD bit = true :=
    (onKey_bit type lookup t e hne hbit).2 (.inl he)
  have hkeep (t : State) (e : KeyEvent κ)
      (hd : ¬ Pulls type lookup row bit e)
      (hu : ¬ LetsUp type lookup row bit e) :
      ((onKey type lookup t e).keys row).getLsbD bit = true ↔
        (t.keys row).getLsbD bit = true := by
    rw [onKey_bit type lookup t e hne hbit]
    simp only [hd, hu, false_or, not_false_eq_true, true_and]
  rw [latch_run (U := fun t : State => (t.keys row).getLsbD bit = true)
    hdown hup hkeep s es]
  exact and_iff_right (.inl (hs row hrow bit hbit))

/-! ## Sessions at a keyboard -/

/-- The `XKeyEvent` of a key event. -/
def KeyEvent.event : KeyEvent κ → XKeyEvent κ
  | .press event => event
  | .release event => event

/-- A press. -/
def KeyEvent.Presses : KeyEvent κ → Prop
  | .press _ => True
  | .release _ => False

/-- The second event is the release of the key of the first. -/
def KeyEvent.ReleasedBy (e : KeyEvent κ) : KeyEvent κ → Prop
  | .press _ => False
  | .release event => event.keycode = e.event.keycode

/-- Every pressed key is later released. -/
def Released (es : List (KeyEvent κ)) : Prop :=
  Answered KeyEvent.Presses KeyEvent.ReleasedBy es

section Held

variable [DecidableEq κ]

/-- The keys held down after an event. -/
def hold (held : List κ) : KeyEvent κ → List κ
  | .press event => event.keycode :: held
  | .release event => held.filter (· ≠ event.keycode)

/-- The modifiers of every event are those of the keys held down when it
comes. -/
def Current (shiftKeys controlKeys : List κ) (es : List (KeyEvent κ)) : Prop :=
  Along hold (fun held e =>
    e.event.shift = held.any (· ∈ shiftKeys) ∧
      e.event.control = held.any (· ∈ controlKeys)) [] es

end Held

/-- A keyboard whose keys are the same keys of the matrix under all modifiers
leaves none of them stuck. -/
theorem allUp_of_steady (h : ∀ e e' : XKeyEvent κ, e.keycode = e'.keycode →
      keyFor type lookup e = keyFor type lookup e')
    {s : State} (hs : AllUp s) {es : List (KeyEvent κ)} (hes : Released es) :
    AllUp (run (onKey type lookup) s es) := by
  rw [allUp_run_iff type lookup hs]
  intro row _ bit _
  refine answered_mono ?_ ?_ hes
  · intro e he
    cases e with
    | press event => exact trivial
    | release event => exact he.elim
  · intro e e' he hrel
    cases e with
    | release event => exact he.elim
    | press event =>
        cases e' with
        | press event' => exact hrel.elim
        | release event' =>
            obtain ⟨k, hk, hbit⟩ := he
            exact ⟨k, h event' event hrel ▸ hk, hbit⟩

theorem allUp_reset : AllUp reset := by
  intro line hline
  have hlt : line.toNat < 10 := BitVec.lt_def.1 hline
  exact getData_setLine reset (by omega)

/-- No key is stuck exactly if every bit that a press pulls down is let up by
the decoding of a later release. -/
theorem no_stuck_keys {s : State} (hs : AllUp s) (es : List (KeyEvent κ)) :
    AllUp (run (onKey type lookup) s es) ↔ AllLetUp type lookup es :=
  allUp_run_iff type lookup hs es

/-- Two keys of a keyboard with the digits unshifted: Shift, and the key of 6
and the circumflex. -/
def qwerty : Lookup Nat
  | 50, _, _ => 0xffe1
  | 15, false, _ => 0x36
  | 15, true, _ => 0x5e
  | _, _, _ => 0

/-- The same keys of a keyboard with the digits shifted: the second is the key
of the minus sign and 6. -/
def azerty : Lookup Nat
  | 50, _, _ => 0xffe1
  | 15, false, _ => 0x2d
  | 15, true, _ => 0x36
  | _, _, _ => 0

/-- Shift let up last. -/
theorem no_stuck_keys_nested :
    AllUp (run (onKey .english qwerty) reset
      [.press ⟨50, false, false⟩, .press ⟨15, true, false⟩,
        .release ⟨15, true, false⟩, .release ⟨50, true, false⟩]) :=
  (no_stuck_keys .english qwerty allUp_reset _).2 (by decide)

/-- Shift let up before the other key. -/
def shiftFirst : List (KeyEvent Nat) :=
  [.press ⟨50, false, false⟩, .press ⟨15, true, false⟩,
    .release ⟨50, true, false⟩, .release ⟨15, false, false⟩]

/-- With Shift let up first the release of the other key is decoded to another
key of the matrix, on either keyboard. -/
theorem shiftFirst_sticks :
    Current [50] [37] shiftFirst ∧ Released shiftFirst ∧
      ¬ AllUp (run (onKey .english qwerty) reset shiftFirst) ∧
      ¬ AllUp (run (onKey .french azerty) reset shiftFirst) := by
  refine ⟨?_, ?_, ?_, ?_⟩
  · exact ⟨⟨rfl, rfl⟩, ⟨rfl, rfl⟩, ⟨rfl, rfl⟩, ⟨rfl, rfl⟩, trivial⟩
  · refine ⟨fun _ => ⟨.release ⟨50, true, false⟩, by simp, rfl⟩,
      fun _ => ⟨.release ⟨15, false, false⟩, by simp, rfl⟩,
      fun h => h.elim, fun h => h.elim, trivial⟩
  · exact fun h => absurd (h 3 (by decide)) (by decide)
  · exact fun h => absurd (h 6 (by decide)) (by decide)

end Xcpc.Kbd
