import Mathlib

/-!
# The clocks

`Mainboard::clock` emulates one frame. It runs master cycles until the frame
is full, and in every cycle each of four stages adds its own rate to an
accumulator and is clocked when that reaches the master rate. All the counters
are 32 bits wide.

The stages do not touch the counters, so the counters are a state of their
own here, and what a frame does to the machine is the list of the stages that
it clocks. The sound stage writes samples into a ring for the sound device,
floating point numbers again; of the audio only the number of samples that are
added up is kept.
-/

namespace Xcpc.Cpc

/-- What `clock` gives ticks to. -/
inductive Stage where
  | vdc | cpu | psg | snd
deriving DecidableEq

/-- A rate and its error accumulator, such as `cpu_clock` and `cpu_ticks`. -/
structure Divider where
  clock : BitVec 32
  ticks : BitVec 32
deriving DecidableEq

/-- `(ticks += clock) >= cpc_clock`, and then `ticks -= cpc_clock`. -/
def Divider.tick (d : Divider) (cpcClock : BitVec 32) : Bool × Divider :=
  let ticks := d.ticks + d.clock
  if ticks ≥ cpcClock then (true, { d with ticks := ticks - cpcClock })
  else (false, { d with ticks := ticks })

/-- The clocks of `State`, the `frame_rate` of `Video` and the `acc_count` of
`Audio`. -/
structure Clocks where
  cpcFlags : BitVec 32
  cpcClock : BitVec 32
  cpcTicks : BitVec 32
  frameRate : BitVec 32
  divider : Stage → Divider
  accCount : BitVec 32

namespace Clocks

/-- The clocks that `construct` sets: 4 MHz, 50 frames a second, and samples
for a sound device at 44.1 kHz. -/
def construct : Clocks where
  cpcFlags := 0
  cpcClock := 4000000
  cpcTicks := 0
  frameRate := 50
  divider
    | .vdc => ⟨1000000, 0⟩
    | .cpu => ⟨4000000, 0⟩
    | .psg => ⟨1000000, 0⟩
    | .snd => ⟨44100, 0⟩
  accCount := 0

/-- The counters start again, the rates stay. -/
def reset (s : Clocks) : Clocks :=
  { s with
    cpcFlags := 0
    cpcTicks := 0
    divider := fun i => { s.divider i with ticks := 0 }
    accCount := 0 }

/-- What the four stages have in common, and whether the stage is clocked. -/
def clockStage (s : Clocks) (i : Stage) : Bool × Clocks :=
  let r := (s.divider i).tick s.cpcClock
  (r.1, { s with divider := Function.update s.divider i r.2 })

/-- `clock_vdc` -/
def clockVdc (s : Clocks) : Bool × Clocks := s.clockStage .vdc

/-- `clock_cpu` -/
def clockCpu (s : Clocks) : Bool × Clocks := s.clockStage .cpu

/-- `clock_psg`, which adds a sample. -/
def clockPsg (s : Clocks) : Bool × Clocks :=
  let r := s.clockStage .psg
  (r.1, { r.2 with
    accCount := if r.1 then r.2.accCount + 1 else r.2.accCount })

/-- `clock_snd`, which takes the samples. -/
def clockSnd (s : Clocks) : Bool × Clocks :=
  let r := s.clockStage .snd
  (r.1, { r.2 with accCount := if r.1 then 0 else r.2.accCount })

/-- The body of the loop: a master cycle, and the stages that it clocks. -/
def cycle (s : Clocks) : List Stage × Clocks :=
  let s := { s with cpcTicks := s.cpcTicks + s.frameRate }
  let vdc := s.clockVdc
  let cpu := vdc.2.clockCpu
  let psg := cpu.2.clockPsg
  let snd := psg.2.clockSnd
  ((if vdc.1 then [.vdc] else []) ++ (if cpu.1 then [.cpu] else []) ++
    (if psg.1 then [.psg] else []) ++ (if snd.1 then [.snd] else []), snd.2)

end Clocks

/-- A master cycle of a run: the clocks before it, and what it clocked. -/
structure Cycle where
  start : Clocks
  stages : List Stage

namespace Clocks

/-- The loop of `emulate`. With a frame rate of zero it would not end. -/
def emulate : Nat → Clocks → Option (List Cycle × Clocks)
  | 0, s => if s.cpcTicks < s.cpcClock then none else some ([], s)
  | fuel + 1, s =>
      if s.cpcTicks < s.cpcClock then
        (emulate fuel s.cycle.2).map fun r => (⟨s, s.cycle.1⟩ :: r.1, r.2)
      else
        some ([], s)

/-- `Mainboard::clock`; `0x02` is `FLAG_PAUSE`. -/
def clock (fuel : Nat) (s : Clocks) : Option (List Cycle × Clocks) :=
  if s.cpcFlags &&& 0x02 != 0 then some ([], s)
  else
    (emulate fuel s).map fun r =>
      (r.1, { r.2 with cpcTicks := r.2.cpcTicks - r.2.cpcClock })

/-- Some calls of `Mainboard::clock`. -/
def frames (fuel : Nat) (s : Clocks) : Nat → Option (List Cycle × Clocks)
  | 0 => some ([], s)
  | n + 1 =>
      (s.frames fuel n).bind fun r =>
        (r.2.clock fuel).map fun t => (r.1 ++ t.1, t.2)

end Clocks

end Xcpc.Cpc
