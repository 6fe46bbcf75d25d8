import Xcpc.Lib.RingBuffer
import Xcpc.Lib.Runs
import Xcpc.Cpc.Audio

/-!
# The audio ring is a queue

The producer and the consumer of the audio share a ring and have an index
each. Whatever the order of their steps, the unread samples are a queue: a
sample that the producer gets in goes to the end, the mixers take theirs from
the front, and nothing else touches it. The producer drops a sample exactly
when all slots but one are unread.

What the mixers do to a sample is of no consequence to the queue. The frames
of a call are those that its mixer makes of the samples it took.
-/

namespace Xcpc.Cpc.Audio

open Prog RingBuffer

variable {F : Type}

/-- The indices are in the arrays. -/
structure InRange (a : Audio F) : Prop where
  rd : a.rdIndex.toNat < sndBufsize.toNat
  wr : a.wrIndex.toNat < sndBufsize.toNat

/-- The slots that are still to be read. -/
def unreadSlots (a : Audio F) : List Nat :=
  RingBuffer.unread sndBufsize.toNat a.rdIndex.toNat a.wrIndex.toNat

/-- The samples that are still to be read, the next one first. -/
def unread (a : Audio F) : List (Output F) :=
  a.unreadSlots.map fun i => a.slot (BitVec.ofNat 32 i)

/-- The write index is right behind the read index. -/
def Full (a : Audio F) : Prop :=
  next sndBufsize.toNat a.wrIndex.toNat = a.rdIndex.toNat

/-- The indices and the ring are the same. -/
structure Kept (a a' : Audio F) : Prop where
  slot : a'.slot = a.slot
  rdIndex : a'.rdIndex = a.rdIndex
  wrIndex : a'.wrIndex = a.wrIndex

namespace Kept

variable {a a' : Audio F}

theorem inRange (h : Kept a a') (ha : a.InRange) : a'.InRange :=
  ⟨h.rdIndex ▸ ha.rd, h.wrIndex ▸ ha.wr⟩

theorem unreadSlots (h : Kept a a') : a'.unreadSlots = a.unreadSlots := by
  rw [Audio.unreadSlots, h.rdIndex, h.wrIndex, Audio.unreadSlots]

theorem unread (h : Kept a a') : a'.unread = a.unread := by
  rw [Audio.unread, h.unreadSlots, h.slot, Audio.unread]

end Kept

/-! ## The queue -/

theorem toNat_next (i : BitVec 32) :
    ((i + 1) % sndBufsize).toNat = next sndBufsize.toNat i.toNat := by
  rw [BitVec.toNat_umod, BitVec.toNat_add]
  exact Nat.mod_mod_of_dvd _ (by decide)

theorem ofNat_toNat_slot (a : Audio F) (i : BitVec 32) :
    a.slot (BitVec.ofNat 32 i.toNat) = a.slot i := by
  rw [BitVec.ofNat_toNat, BitVec.setWidth_eq]

theorem unreadSlots_lt {a : Audio F} {i : Nat} (hi : i ∈ a.unreadSlots) :
    i < sndBufsize.toNat := by
  obtain ⟨k, -, rfl⟩ := List.mem_map.1 hi
  exact Nat.mod_lt _ (by decide)

theorem room_iff {a : Audio F} (h : a.InRange) :
    (a.wrIndex + 1) % sndBufsize ≠ (a.rdIndex + 0) % sndBufsize ↔
      ¬ a.Full := by
  have hr : (a.rdIndex + 0) % sndBufsize = a.rdIndex := by
    apply BitVec.eq_of_toNat_eq
    have hz : a.rdIndex + 0 = a.rdIndex := BitVec.add_zero _
    rw [hz, BitVec.toNat_umod]
    exact Nat.mod_eq_of_lt h.rd
  rw [hr, Full, ← toNat_next]
  exact not_congr ⟨congrArg BitVec.toNat, BitVec.eq_of_toNat_eq⟩

theorem kept_advance {a a' : Audio F} (h : Kept a a') :
    Kept a.advance a'.advance where
  slot := h.slot
  rdIndex := congrArg (fun i => (i + 1) % sndBufsize) h.rdIndex
  wrIndex := h.wrIndex

theorem advance_inRange {a : Audio F} (h : a.InRange) : a.advance.InRange := by
  refine ⟨?_, h.wr⟩
  rw [advance, toNat_next]
  exact next_lt h.rd

theorem unread_empty {a : Audio F} (h : a.InRange)
    (he : a.rdIndex = a.wrIndex) : a.unread = [] := by
  rw [unread, unreadSlots, ← he, unread_self h.rd, List.map_nil]

theorem unread_advance {a : Audio F} (h : a.InRange)
    (he : a.rdIndex ≠ a.wrIndex) :
    a.unread = a.slot a.rdIndex :: a.advance.unread := by
  have hne : a.rdIndex.toNat ≠ a.wrIndex.toNat :=
    fun hn => he (BitVec.eq_of_toNat_eq hn)
  rw [unread, unreadSlots, unread_pop h.rd h.wr hne, List.map_cons,
    ofNat_toNat_slot, unread, unreadSlots, advance, toNat_next]
  rfl

/-! ## The consumer -/

/-- A mixer has nothing to do with the ring. -/
structure Quiet (mix : Mixer F) : Prop where
  kept : ∀ s a, Kept a (mix s a).2
  advance : ∀ s a, mix s a.advance = ((mix s a).1, (mix s a).2.advance)

/-- The frames that a mixer makes of some samples. -/
def mixAll (mix : Mixer F) : Audio F → List (Output F) → List (AudioFrame F)
  | _, [] => []
  | a, s :: ss => (mix s a).1 :: mixAll mix (mix s a).2 ss

theorem mixAll_advance {mix : Mixer F} (hm : Quiet mix) (a : Audio F)
    (ss : List (Output F)) : mixAll mix a.advance ss = mixAll mix a ss := by
  induction ss generalizing a with
  | nil => rfl
  | cons s ss ih => rw [mixAll, hm.advance, ih, mixAll]

/-- The samples that the loop of `process` mixes. -/
def reads (mix : Mixer F) : Nat → Audio F → List (Output F)
  | 0, _ => []
  | count + 1, a =>
      if a.rdIndex ≠ a.wrIndex then
        a.slot a.rdIndex :: reads mix count (mix (a.slot a.rdIndex) a).2.advance
      else []

theorem renderWith_frames {mix : Mixer F} (hm : Quiet mix) (n : Nat)
    (a : Audio F) : (renderWith mix n a).1 = mixAll mix a (reads mix n a) := by
  induction n generalizing a with
  | zero => rfl
  | succ n ih =>
      rw [renderWith, reads]
      split
      · rw [mixAll, ← mixAll_advance hm, ← ih]
      · rfl

/-- What a loop of `process` does to the ring. -/
structure Rendered (n : Nat) (a a' : Audio F) : Prop where
  inRange : a'.InRange
  slot : a'.slot = a.slot
  wrIndex : a'.wrIndex = a.wrIndex
  unread : a'.unread = a.unread.drop n

theorem renderWith_spec {mix : Mixer F} (hm : Quiet mix) (n : Nat)
    {a : Audio F} (h : a.InRange) :
    Rendered n a (renderWith mix n a).2 ∧ reads mix n a = a.unread.take n := by
  induction n generalizing a with
  | zero => exact ⟨⟨h, rfl, rfl, rfl⟩, rfl⟩
  | succ n ih =>
      rw [renderWith, reads]
      by_cases he : a.rdIndex = a.wrIndex
      · rw [if_neg (not_not.2 he), if_neg (not_not.2 he)]
        rw [unread_empty h he, List.take_nil]
        refine ⟨⟨h, rfl, rfl, ?_⟩, rfl⟩
        rw [unread_empty h he, List.drop_nil]
      · rw [if_pos he, if_pos he, unread_advance h he, List.take_succ_cons]
        have hk := kept_advance (hm.kept (a.slot a.rdIndex) a)
        obtain ⟨hr, ht⟩ := ih (hk.inRange (advance_inRange h))
        rw [hk.unread] at ht
        refine ⟨⟨hr.inRange, hr.slot.trans hk.slot, hr.wrIndex.trans hk.wrIndex,
          ?_⟩, congrArg _ ht⟩
        rw [unread_advance h he, List.drop_succ_cons, ← hk.unread]
        exact hr.unread

variable [Floating F]

theorem mixer_quiet {channels : BitVec 32} {mix : Mixer F}
    (h : mixer channels = some mix) : Quiet mix := by
  rw [mixer] at h
  split at h
  · cases h
    exact ⟨fun _ _ => ⟨rfl, rfl, rfl⟩, fun _ _ => rfl⟩
  · split at h
    · cases h
      exact ⟨fun _ _ => ⟨rfl, rfl, rfl⟩, fun _ _ => rfl⟩
    · split at h
      · cases h
        exact ⟨fun _ _ => ⟨rfl, rfl, rfl⟩, fun _ _ => rfl⟩
      · cases h

theorem reset_inRange (a : Audio F) : a.reset.InRange where
  rd := Nat.zero_lt_succ _
  wr := Nat.zero_lt_succ _

/-! ## The producer -/

/-- The sample that the sound stage has for the ring. -/
def offered (a : Audio F) : Output F :=
  ⟨a.acc0 * a.scale, a.acc1 * a.scale, a.acc2 * a.scale⟩

/-- The sound stage has no room for its sample. -/
theorem clockSnd_full {a : Audio F} (h : a.InRange) (hf : a.Full) :
    Kept a a.clockSnd := by
  have hg := not_congr (room_iff h) |>.2 (not_not.2 hf)
  simp only [clockSnd]
  rw [if_neg hg]
  exact ⟨rfl, rfl, rfl⟩

theorem clockSnd_room {a : Audio F} (h : a.InRange) (hf : ¬ a.Full) :
    a.clockSnd.slot = Function.update a.slot a.wrIndex a.offered ∧
      a.clockSnd.rdIndex = a.rdIndex ∧
      a.clockSnd.wrIndex = (a.wrIndex + 1) % sndBufsize := by
  have hg := (room_iff h).2 hf
  simp only [clockSnd]
  rw [if_pos hg]
  refine ⟨?_, rfl, rfl⟩
  funext i
  rw [Function.update_apply]
  simp only [slot, Function.update_apply]
  split
  · rfl
  · rfl

/-- The write index moves exactly when there is room. -/
theorem clockSnd_wrIndex {a : Audio F} (h : a.InRange) :
    a.clockSnd.wrIndex = a.wrIndex ↔ a.Full := by
  constructor
  · intro he
    by_contra hf
    have hn := congrArg BitVec.toNat ((clockSnd_room h hf).2.2.symm.trans he)
    have hN : sndBufsize.toNat = 16384 := rfl
    rw [toNat_next] at hn
    rcases next_cases h.wr with ⟨_, hc⟩ | ⟨_, hc⟩
    · omega
    · omega
  · exact fun hf => (clockSnd_full h hf).wrIndex

theorem clockSnd_inRange {a : Audio F} (h : a.InRange) :
    a.clockSnd.InRange := by
  by_cases hf : a.Full
  · exact (clockSnd_full h hf).inRange h
  · obtain ⟨-, hr, hw⟩ := clockSnd_room h hf
    refine ⟨hr ▸ h.rd, ?_⟩
    rw [hw, toNat_next]
    exact next_lt h.wr

/-- The sound stage leaves the slots alone that are unread. -/
theorem clockSnd_slot {a : Audio F} (h : a.InRange) {i : BitVec 32}
    (hi : i.toNat ∈ a.unreadSlots) : a.clockSnd.slot i = a.slot i := by
  by_cases hf : a.Full
  · rw [(clockSnd_full h hf).slot]
  · rw [(clockSnd_room h hf).1]
    refine Function.update_of_ne ?_ _ _
    rintro rfl
    exact wr_notMem_unread h.rd h.wr hi

/-- A sample that the ring has room for goes to the end of the queue. -/
theorem clockSnd_unread {a : Audio F} (h : a.InRange) (hf : ¬ a.Full) :
    a.clockSnd.unread = a.unread ++ [a.offered] := by
  obtain ⟨hs, hr, hw⟩ := clockSnd_room h hf
  have hslots : a.clockSnd.unreadSlots =
      a.unreadSlots ++ [a.wrIndex.toNat] := by
    rw [unreadSlots, hr, hw, toNat_next]
    exact unread_push h.rd h.wr hf
  rw [unread, hslots, List.map_append, List.map_singleton, ofNat_toNat_slot,
    hs, Function.update_self, ← hs]
  congr 1
  apply List.map_congr_left
  intro i hi
  refine clockSnd_slot h ?_
  have hlt := unreadSlots_lt hi
  have hN : sndBufsize.toNat = 16384 := rfl
  rw [BitVec.toNat_ofNat, Nat.mod_eq_of_lt (by omega)]
  exact hi

/-! ## Runs -/

/-- The sample that a step puts into the ring. -/
def accepted (a : Audio F) : AudioEvent F → List (Output F)
  | .clock .snd _ =>
      if a.clockSnd.wrIndex = a.wrIndex then [] else [a.offered]
  | _ => []

/-- The samples that a step mixes. -/
def consumed (a : Audio F) : AudioEvent F → List (Output F)
  | .process channels count =>
      match mixer channels with
      | some mix => reads mix count.toNat a
      | none => []
  | _ => []

variable (F) in
/-- How many samples a call takes if it can. -/
def demand (channels count : BitVec 32) : Nat :=
  if (mixer channels : Option (Mixer F)).isSome then count.toNat else 0

theorem process_spec {a : Audio F} (h : a.InRange)
    (channels count : BitVec 32) :
    Rendered (demand F channels count) a (a.process channels count).2 ∧
      a.consumed (.process channels count) =
        a.unread.take (demand F channels count) := by
  rw [process, consumed, demand]
  rcases hm : mixer channels with _ | mix
  · exact ⟨⟨h, rfl, rfl, rfl⟩, rfl⟩
  · exact renderWith_spec (mixer_quiet hm) count.toNat h

/-- A step that is neither the sound stage nor a call has nothing to do with
the ring. -/
theorem step_cases (a : Audio F) (e : AudioEvent F) :
    (Kept a (a.step e) ∧ a.accepted e = [] ∧ a.consumed e = []) ∨
      (∃ output, e = .clock .snd output) ∨
      ∃ channels count, e = .process channels count := by
  cases e with
  | clock i output =>
      cases i with
      | vdc => exact .inl ⟨⟨rfl, rfl, rfl⟩, rfl, rfl⟩
      | cpu => exact .inl ⟨⟨rfl, rfl, rfl⟩, rfl, rfl⟩
      | psg => exact .inl ⟨⟨rfl, rfl, rfl⟩, rfl, rfl⟩
      | snd => exact .inr (.inl ⟨output, rfl⟩)
  | process channels count => exact .inr (.inr ⟨channels, count, rfl⟩)
  | volume value => exact .inl ⟨⟨rfl, rfl, rfl⟩, rfl, rfl⟩

theorem step_inRange (a : Audio F) (e : AudioEvent F) (h : a.InRange) :
    (a.step e).InRange := by
  rcases step_cases a e with ⟨hk, -⟩ | ⟨output, rfl⟩ | ⟨channels, count, rfl⟩
  · exact hk.inRange h
  · exact clockSnd_inRange h
  · exact (process_spec h channels count).1.inRange

theorem step_queue (a : Audio F) (e : AudioEvent F) (h : a.InRange) :
    a.unread ++ a.accepted e = a.consumed e ++ (a.step e).unread := by
  rcases step_cases a e with ⟨hk, ha, hc⟩ | ⟨output, rfl⟩ |
    ⟨channels, count, rfl⟩
  · rw [ha, hc, hk.unread, List.append_nil, List.nil_append]
  · show _ = a.clockSnd.unread
    rw [accepted]
    by_cases hf : a.Full
    · rw [if_pos ((clockSnd_wrIndex h).2 hf), List.append_nil,
        (clockSnd_full h hf).unread]
    · rw [if_neg (fun he => hf ((clockSnd_wrIndex h).1 he)),
        clockSnd_unread h hf]
  · obtain ⟨hr, ht⟩ := process_spec h channels count
    rw [ht, step, hr.unread, List.take_append_drop]
    exact List.append_nil _

/-- No step touches an unread slot. -/
theorem step_slot {a : Audio F} (h : a.InRange) (e : AudioEvent F)
    {i : BitVec 32} (hi : i.toNat ∈ a.unreadSlots) :
    (a.step e).slot i = a.slot i := by
  rcases step_cases a e with ⟨hk, -⟩ | ⟨output, rfl⟩ | ⟨channels, count, rfl⟩
  · rw [hk.slot]
  · exact clockSnd_slot h hi
  · exact congrFun (process_spec h channels count).1.slot i

theorem rejected_iff {a : Audio F} (h : a.InRange) (output : Output F) :
    a.accepted (.clock .snd output) = [] ↔
      a.unread.length + 1 = sndBufsize.toNat := by
  have hf : a.Full ↔ _ := full_iff h.rd h.wr
  rw [unread, List.length_map, unreadSlots, length_unread, ← hf,
    ← clockSnd_wrIndex h, accepted]
  constructor
  · intro he
    by_contra hne
    rw [if_neg hne] at he
    cases he
  · intro he
    rw [if_pos he]

theorem process_frames {a : Audio F} (h : a.InRange) {channels : BitVec 32}
    {mix : Mixer F} (hm : mixer channels = some mix) (count : BitVec 32) :
    (a.process channels count).1 =
        mixAll mix a (a.consumed (.process channels count)) ∧
      (a.consumed (.process channels count)).length =
        min count.toNat a.unread.length := by
  have hq := mixer_quiet hm
  simp only [process, consumed, hm]
  refine ⟨renderWith_frames hq _ a, ?_⟩
  rw [(renderWith_spec hq _ h).2, List.length_take]

theorem run_inRange (a : Audio F) (es : List (AudioEvent F)) :
    (run step a.reset es).InRange :=
  run_keeps step_inRange (reset_inRange a) es

/-- From a reset on, in any order of the stages of `clock` and the calls of
`process`: the indices stay in the arrays, no step overwrites an unread
sample, the samples that came in are those that were mixed and those still
unread, in this order, and a sample is dropped only when all slots but one are
unread. The frames of a call are made of the samples that it takes. -/
theorem audio_ring (a₀ : Audio F) (es : List (AudioEvent F)) :
    let a := run step a₀.reset es
    a.InRange ∧
      (∀ e i, i.toNat ∈ a.unreadSlots → (a.step e).slot i = a.slot i) ∧
      gather step accepted a₀.reset es =
        gather step consumed a₀.reset es ++ a.unread ∧
      (∀ output, a.accepted (.clock .snd output) = [] ↔
        a.unread.length + 1 = sndBufsize.toNat) ∧
      ∀ channels mix count, mixer channels = some mix →
        (a.process channels count).1 =
            mixAll mix a (a.consumed (.process channels count)) ∧
          (a.consumed (.process channels count)).length =
            min count.toNat a.unread.length := by
  intro a
  have ha : a.InRange := run_inRange a₀ es
  refine ⟨ha, fun e i hi => step_slot ha e hi, ?_, rejected_iff ha,
    fun channels mix count hm => process_frames ha hm count⟩
  have hq := gather_queue step_inRange step_queue (reset_inRange a₀) es
  rwa [unread_empty (reset_inRange a₀) rfl, List.nil_append] at hq

/-- Two outputs make a sample, their average, and of two frames that are asked
for there is one. -/
example :
    gather step consumed (construct : Audio Rat).reset
      [.clock .psg ⟨1, 0, 2⟩, .clock .psg ⟨0, 0, 2⟩, .clock .snd ⟨0, 0, 2⟩,
        .process 2 2] = [⟨1 / 2, 0, 2⟩] := by
  decide +kernel

end Xcpc.Cpc.Audio
