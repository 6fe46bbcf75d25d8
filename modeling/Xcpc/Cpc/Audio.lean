import Xcpc.Cpc.Clock

/-!
# The audio of the mainboard

The stage of the sound generator adds up what the generator puts out, and the
sound stage writes the average into a ring of `SND_BUFSIZE` samples, or drops
it when the ring is full. `Mainboard::process` is called by the sound device
on a thread of its own. It mixes samples from the ring until it has as many
frames as the device asks for or the ring is empty. A mutex keeps the two
sides apart, so what they do is some sequence of these steps.

Nothing here depends on what the floating point operations do. They are those
of any type that has them.
-/

namespace Xcpc.Cpc

/-- The type `float`, as far as the audio needs it. -/
class Floating (F : Type) extends Add F, Sub F, Mul F, Div F, Neg F, LT F,
    OfScientific F, NatCast F where
  decidableLT : DecidableLT F

instance instDecidableLTFloating {F : Type} [Floating F] : DecidableLT F :=
  Floating.decidableLT

instance instFloatingRat : Floating Rat where
  decidableLT := inferInstance

/-- `psg::Output`, and what the ring holds in a slot of its three arrays. -/
structure Output (F : Type) where
  channel0 : F
  channel1 : F
  channel2 : F
deriving DecidableEq

/-- `MonoFrameFlt32`, `StereoFrameFlt32` and `Surround40FrameFlt32` -/
inductive AudioFrame (F : Type) where
  | mono (mono : F)
  | stereo (left right : F)
  | surround40 (frontLeft frontRight backLeft backRight : F)

def sndBufsize : BitVec 32 := 16384

structure Audio (F : Type) where
  channel0 : BitVec 32 → F
  channel1 : BitVec 32 → F
  channel2 : BitVec 32 → F
  volume : F
  rdIndex : BitVec 32
  wrIndex : BitVec 32
  dcbInput : Fin 2 → F
  dcbOutput : Fin 2 → F
  acc0 : F
  acc1 : F
  acc2 : F
  accCount : BitVec 32

namespace Audio

variable {F : Type} [Floating F]

def construct : Audio F where
  channel0 := fun _ => 0.0
  channel1 := fun _ => 0.0
  channel2 := fun _ => 0.0
  volume := 0.5
  rdIndex := 0
  wrIndex := 0
  dcbInput := fun _ => 0.0
  dcbOutput := fun _ => 0.0
  acc0 := 0.0
  acc1 := 0.0
  acc2 := 0.0
  accCount := 0

/-- Everything but the volume. -/
def reset (a : Audio F) : Audio F :=
  { a with
    channel0 := fun _ => 0.0
    channel1 := fun _ => 0.0
    channel2 := fun _ => 0.0
    rdIndex := 0
    wrIndex := 0
    dcbInput := fun _ => 0.0
    dcbOutput := fun _ => 0.0
    acc0 := 0.0
    acc1 := 0.0
    acc2 := 0.0
    accCount := 0 }

/-- The sample in a slot of the ring. -/
def slot (a : Audio F) (i : BitVec 32) : Output F :=
  ⟨a.channel0 i, a.channel1 i, a.channel2 i⟩

/-- What `clock_psg` adds of the output of the sound generator. -/
def clockPsg (a : Audio F) (output : Output F) : Audio F :=
  { a with
    acc0 := a.acc0 + output.channel0
    acc1 := a.acc1 + output.channel1
    acc2 := a.acc2 + output.channel2
    accCount := a.accCount + 1 }

def scale (a : Audio F) : F :=
  if a.accCount ≠ 0 then 1.0 / (a.accCount.toNat : F) else 0.0

/-- What `clock_snd` does when the stage is clocked. -/
def clockSnd (a : Audio F) : Audio F :=
  let rdIndex := (a.rdIndex + 0) % sndBufsize
  let wrIndex := (a.wrIndex + 1) % sndBufsize
  let a :=
    if wrIndex ≠ rdIndex then
      { a with
        channel0 := Function.update a.channel0 a.wrIndex (a.acc0 * a.scale)
        channel1 := Function.update a.channel1 a.wrIndex (a.acc1 * a.scale)
        channel2 := Function.update a.channel2 a.wrIndex (a.acc2 * a.scale)
        wrIndex := wrIndex }
    else a
  { a with acc0 := 0.0, acc1 := 0.0, acc2 := 0.0, accCount := 0 }

/-- A stage of `Mainboard::clock` is clocked, and after it the sound generator
puts out `output`. -/
def clockStage (a : Audio F) (output : Output F) : Stage → Audio F
  | .vdc => a
  | .cpu => a
  | .psg => a.clockPsg output
  | .snd => a.clockSnd

/-! ## The consumer -/

def dcBlock (a : Audio F) (stream : Fin 2) (input : F) : F × Audio F :=
  let attenuation := 0.999
  let output := (input - a.dcbInput stream) + (attenuation * a.dcbOutput stream)
  (output, { a with
    dcbInput := Function.update a.dcbInput stream input
    dcbOutput := Function.update a.dcbOutput stream output })

def clamp (value : F) : F :=
  if value < -1.0 then -1.0 else if 1.0 < value then 1.0 else value

/-- A `mix_` function, for the sample at the read index. -/
abbrev Mixer (F : Type) := Output F → Audio F → AudioFrame F × Audio F

def mixMono : Mixer F := fun s a =>
  let mono := (s.channel0 * 1.00) + (s.channel1 * 1.00) + (s.channel2 * 1.00)
  let out := a.dcBlock 0 (mono / 3.0)
  (.mono (clamp (out.1 * a.volume)), out.2)

def mixStereo : Mixer F := fun s a =>
  let left := (s.channel0 * 0.75) + (s.channel1 * 0.50) + (s.channel2 * 0.25)
  let right := (s.channel0 * 0.25) + (s.channel1 * 0.50) + (s.channel2 * 0.75)
  let outL := a.dcBlock 0 (left / 1.5)
  let outR := outL.2.dcBlock 1 (right / 1.5)
  (.stereo (clamp (outL.1 * a.volume)) (clamp (outR.1 * a.volume)), outR.2)

def mixSurround40 : Mixer F := fun s a =>
  let left := (s.channel0 * 0.75) + (s.channel1 * 0.50) + (s.channel2 * 0.25)
  let right := (s.channel0 * 0.25) + (s.channel1 * 0.50) + (s.channel2 * 0.75)
  let outL := a.dcBlock 0 (left / 1.5)
  let outR := outL.2.dcBlock 1 (right / 1.5)
  let l := clamp (outL.1 * a.volume)
  let r := clamp (outR.1 * a.volume)
  (.surround40 l r l r, outR.2)

/-- `_audio.rd_index = ((_audio.rd_index + 1) % SND_BUFSIZE)` -/
def advance (a : Audio F) : Audio F :=
  { a with rdIndex := (a.rdIndex + 1) % sndBufsize }

/-- A loop of `render_mono`, `render_stereo` or `render_surround40`, and the
frames that it writes. -/
def renderWith (mix : Mixer F) : Nat → Audio F → List (AudioFrame F) × Audio F
  | 0, a => ([], a)
  | count + 1, a =>
      if a.rdIndex ≠ a.wrIndex then
        let frame := mix (a.slot a.rdIndex) a
        let rest := renderWith mix count frame.2.advance
        (frame.1 :: rest.1, rest.2)
      else ([], a)

/-- The mixer for the channels of the sound device, if there is one. -/
def mixer (channels : BitVec 32) : Option (Mixer F) :=
  if channels = 1 then some mixMono
  else if channels = 2 then some mixStereo
  else if channels = 4 then some mixSurround40
  else none

/-- `Mainboard::process` -/
def process (a : Audio F) (channels count : BitVec 32) :
    List (AudioFrame F) × Audio F :=
  match mixer channels with
  | some mix => renderWith mix count.toNat a
  | none => ([], a)

/-- `set_volume` -/
def setVolume (a : Audio F) (volume : F) : Audio F :=
  let volume := if volume < 0.0 then 0.0 else volume
  let volume := if 1.0 < volume then 1.0 else volume
  { a with volume := volume }

end Audio

/-- What happens to the audio. -/
inductive AudioEvent (F : Type) where
  | clock (i : Stage) (output : Output F)
  | process (channels count : BitVec 32)
  | volume (value : F)

def Audio.step {F : Type} [Floating F] (a : Audio F) :
    AudioEvent F → Audio F
  | .clock i output => a.clockStage output i
  | .process channels count => (a.process channels count).2
  | .volume value => a.setVolume value

end Xcpc.Cpc
