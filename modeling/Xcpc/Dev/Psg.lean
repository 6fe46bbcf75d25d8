import Mathlib
import Xcpc.Cpu.Registers

/-!
# The sound generator

`psg::Instance` is an AY-3-8912: sixteen registers behind an index, three tone
generators, a noise generator, an envelope and two ports. A register is masked
on its way in and again on its way out, and most of them also set a field of
the generator they belong to.

The samples are floating point numbers computed from the phases and
amplitudes. They are left out, and so is the digital to analog table that
makes them.
-/

namespace Xcpc.Psg

structure Sound where
  counter : Word
  period : Word
  phase : Byte
  amplitude : Byte
deriving DecidableEq

structure Noise where
  counter : Word
  period : Word
  shift : BitVec 32
  phase : Byte
deriving DecidableEq

structure Envelope where
  counter : Word
  period : Word
  shape : Byte
  phase : Byte
  amplitude : Byte
deriving DecidableEq

structure State where
  ticks : BitVec 32
  index : Byte
  array : Fin 16 → Byte
  hasSound : Fin 3 → Bool
  hasNoise : Fin 3 → Bool
  dirPort : Fin 2 → Bool
  sound : Fin 3 → Sound
  noise : Noise
  envelope : Envelope

def reset : State where
  ticks := 0
  index := 0
  array := fun _ => 0
  hasSound := fun _ => false
  hasNoise := fun _ => false
  dirPort := fun _ => false
  sound := fun _ => ⟨0, 0, 0, 0⟩
  noise := ⟨0, 0, 0, 0⟩
  envelope := ⟨0, 0, 0, 0, 0⟩

/-- What the mainboard answers on the two ports. -/
structure Ports where
  aRd : Byte
  aWr : Byte
  bRd : Byte
  bWr : Byte

/-! ## Registers -/

/-- The mask of each register. -/
def mask : Fin 16 → Byte :=
  ![0xff, 0x0f, 0xff, 0x0f, 0xff, 0x0f, 0x1f, 0xff, 0x1f, 0x1f, 0x1f, 0xff,
    0xff, 0x0f, 0xff, 0xff]

/-- `period = (period & 0xff00) | value` -/
def fineTune (period : Word) (value : Byte) : Word :=
  (period &&& 0xff00) ||| value.setWidth 16

/-- `period = (period & 0x00ff) | (value << 8)` -/
def coarseTune (period : Word) (value : Byte) : Word :=
  (period &&& 0x00ff) ||| (value.setWidth 16 <<< 8)

/-- `set_amplitude` -/
def amplitude (value : Byte) : Byte :=
  ((value <<< 1) &&& 0x3e) ||| ((value >>> 3) &&& 0x01)

def State.updateSound (s : State) (i : Fin 3) (f : Sound → Sound) : State :=
  { s with sound := Function.update s.sound i (f (s.sound i)) }

/-- `set_mixer_and_io_control` -/
def setMixer (s : State) (value : Byte) : State :=
  { s with
    hasSound := fun i => value &&& (0x01 <<< i.val) == 0
    hasNoise := fun i => value &&& (0x08 <<< i.val) == 0
    dirPort := fun i => value &&& (0x40 <<< i.val) != 0 }

/-- `set_shape` -/
def setShape (e : Envelope) (value : Byte) : Envelope :=
  { e with
    shape := value
    phase := 0
    amplitude := if value &&& 0x04 == 0 then 0x1f else 0x00 }

/-- What writing a masked value to a register sets besides the register. -/
def setField (s : State) (i : Fin 16) (value : Byte) : State :=
  match i with
  | 0 => s.updateSound 0 fun x => { x with period := fineTune x.period value }
  | 1 => s.updateSound 0 fun x => { x with period := coarseTune x.period value }
  | 2 => s.updateSound 1 fun x => { x with period := fineTune x.period value }
  | 3 => s.updateSound 1 fun x => { x with period := coarseTune x.period value }
  | 4 => s.updateSound 2 fun x => { x with period := fineTune x.period value }
  | 5 => s.updateSound 2 fun x => { x with period := coarseTune x.period value }
  | 6 => { s with
      noise := { s.noise with period := fineTune s.noise.period value } }
  | 7 => setMixer s value
  | 8 => s.updateSound 0 fun x => { x with amplitude := amplitude value }
  | 9 => s.updateSound 1 fun x => { x with amplitude := amplitude value }
  | 10 => s.updateSound 2 fun x => { x with amplitude := amplitude value }
  | 11 => { s with
      envelope :=
        { s.envelope with period := fineTune s.envelope.period value } }
  | 12 => { s with
      envelope :=
        { s.envelope with period := coarseTune s.envelope.period value } }
  | 13 => { s with envelope := setShape s.envelope value }
  | _ => s

/-- What a register holds after a masked value is written to it. The ports
hold what the mainboard answers when they are outputs. -/
def stored (s : State) (p : Ports) (i : Fin 16) (value : Byte) : Byte :=
  match i with
  | 14 => if s.dirPort 0 then p.aWr else value
  | 15 => if s.dirPort 1 then p.bWr else value
  | _ => value

/-- What reading a register answers, from the masked register. -/
def fetched (s : State) (p : Ports) (i : Fin 16) (value : Byte) : Byte :=
  match i with
  | 14 => if s.dirPort 0 then value else p.aRd
  | 15 => if s.dirPort 1 then value else p.bRd
  | _ => value

/-- `set_index` -/
def setIndex (s : State) (index : Byte) : State := { s with index := index }

/-- `set_value`. An index past the registers falls through the switch. -/
def setValue (s : State) (p : Ports) (value : Byte) : State :=
  if h : s.index.toNat < 16 then
    let i : Fin 16 := ⟨s.index.toNat, h⟩
    let v := value &&& mask i
    let s' := setField s i v
    { s' with array := Function.update s.array i (stored s p i v) }
  else
    s

/-- `get_value` -/
def getValue (s : State) (p : Ports) (value : Byte) : Byte × State :=
  if h : s.index.toNat < 16 then
    let i : Fin 16 := ⟨s.index.toNat, h⟩
    let v := s.array i &&& mask i
    (fetched s p i v, { s with array := Function.update s.array i v })
  else
    (value, s)

/-! ## Generators -/

/-- `SoundTraits::clock` -/
def Sound.clock (x : Sound) : Sound :=
  if x.period == 0 then x
  else if x.counter + 1 ≥ x.period then
    { x with counter := 0, phase := x.phase ^^^ 1 }
  else
    { x with counter := x.counter + 1 }

/-- `NoiseTraits::clock` -/
def Noise.clock (x : Noise) : Noise :=
  if x.period == 0 then x
  else if x.counter + 1 ≥ x.period then
    let lfsr := x.shift
    let msw := ~~~((lfsr <<< 16) ^^^ (lfsr <<< 13)) &&& 0x10000
    let lsw := (lfsr >>> 1) &&& 0x0ffff
    { x with
      counter := 0
      shift := msw ||| lsw
      phase := (lfsr &&& 1).setWidth 8 }
  else
    { x with counter := x.counter + 1 }

inductive Cycle where
  | rampUp | rampDown | holdUp | holdDown
deriving DecidableEq

/-- `cycles` -/
def cycles : Fin 16 → Cycle × Cycle :=
  ![(.rampDown, .holdDown), (.rampDown, .holdDown), (.rampDown, .holdDown),
    (.rampDown, .holdDown), (.rampUp, .holdDown), (.rampUp, .holdDown),
    (.rampUp, .holdDown), (.rampUp, .holdDown), (.rampDown, .rampDown),
    (.rampDown, .holdDown), (.rampDown, .rampUp), (.rampDown, .holdUp),
    (.rampUp, .rampUp), (.rampUp, .holdUp), (.rampUp, .rampDown),
    (.rampUp, .holdDown)]

/-- `cycles[shape][phase]`, for the shape masked as `set_value` masks it. -/
def Envelope.cycle (x : Envelope) : Cycle :=
  let row := cycles ⟨(x.shape &&& 0x0f).toNat % 16, Nat.mod_lt _ (by decide)⟩
  if x.phase == 0 then row.1 else row.2

/-- `EnvelopeTraits::clock` -/
def Envelope.clock (x : Envelope) : Envelope :=
  if x.counter + 1 ≥ x.period then
    let x := { x with counter := 0 }
    match x.cycle with
    | .rampUp =>
        let a := (x.amplitude + 1) &&& 0x1f
        { x with
          amplitude := a
          phase := if a == 0x1f then x.phase ^^^ 1 else x.phase }
    | .rampDown =>
        let a := (x.amplitude - 1) &&& 0x1f
        { x with
          amplitude := a
          phase := if a == 0x00 then x.phase ^^^ 1 else x.phase }
    | .holdUp => { x with amplitude := 0x1f }
    | .holdDown => { x with amplitude := 0x00 }
  else
    { x with counter := x.counter + 1 }

/-- `fixup`: a tone of the same period as `lhs` takes its counter and
phase. -/
def fixup (lhs rhs : Sound) : Sound :=
  if lhs.period == rhs.period && lhs.counter != rhs.counter then
    { rhs with counter := lhs.counter, phase := lhs.phase }
  else
    rhs

/-- `prepare` -/
def prepare (x : Fin 3 → Sound) : Fin 3 → Sound :=
  let x1 := fixup (x 0) (x 1)
  let x2 := fixup (x 0) (x 2)
  ![x 0, x1, fixup x1 x2]

/-- `clock`, up to the samples. -/
def clock (s : State) : State :=
  let ticks := s.ticks + 1
  if ticks &&& 0x07 == 0 then
    let sound := prepare s.sound
    { s with
      ticks := ticks
      sound := fun i => (sound i).clock
      noise := s.noise.clock
      envelope := s.envelope.clock }
  else
    { s with ticks := ticks }

/-- The calls the mainboard makes, with what it answers on the ports. -/
inductive Event where
  | setIndex (index : Byte)
  | setValue (p : Ports) (value : Byte)
  | getValue (p : Ports) (value : Byte)
  | clock

def step (s : State) : Event → State
  | .setIndex index => setIndex s index
  | .setValue p value => setValue s p value
  | .getValue p value => (getValue s p value).2
  | .clock => clock s

end Xcpc.Psg
