import Xcpc.Cpc.Disks
import Xcpc.Lib.PartialRuns
import Xcpc.Proofs.Frames
import Xcpc.Proofs.GeometryProbe

/-!
# Write protection

The controller looks whether a drive is write-protected when a write command
starts, and the sector is written when its last byte has come. A program that
stops the motor in between ends the command at once, and one that stops it
while another command is going on has the drive called for a sector that was
never asked for. So it is not the controller that protects a disk. The
driver of the image does, whatever the program: it may stop the motor at any
time and ignore the main status register.

What no function of a drive's class breaks, no run of the controller breaks.
-/

namespace Xcpc.Lib765

open Prog LibDsk

/-! ## What a drive keeps -/

/-- Neither a function of the class nor the motor takes a drive out of `I`. -/
structure Vtable.Keeps {δ : Type} (V : Vtable δ) (I : FloppyDrive δ → Prop) :
    Prop where
  motor : ∀ {d} (running : Bool), I d → I { d with motor := running }
  seekCylinder : ∀ {d} (cylinder : Byte), I d → I (V.seekCylinder d cylinder).2
  readId : ∀ {d} (head : Byte) (sector : Nat), I d →
    I (V.readId d head sector).drive
  readSector : ∀ {d} (t : Target) (len : Nat) (deleted : Option Bool), I d →
    I (V.readSector d t len deleted).drive
  readTrack : ∀ {d} (xcylinder xhead head : Byte) (len : Nat), I d →
    I (V.readTrack d xcylinder xhead head len).drive
  writeSector : ∀ {d} (t : Target) (buf : Nat → Byte) (len : Nat)
    (deleted : Bool), I d → I (V.writeSector d t buf len deleted).2
  formatTrack : ∀ {d} (head sectors : Byte) (track : Nat → Byte)
    (filler : Byte), I d →
    Partial.Post (fun r => I r.2) (V.formatTrack d head sectors track filler)
  driveStatus : ∀ {d}, I d → I (V.driveStatus d).2
  isready : ∀ {d}, I d → I (V.isready d).2

namespace Fdc

/-- There is a drive `u`, and it is in `I`. -/
def Has {δ : Type} (I : FloppyDrive δ → Prop) (u : BitVec 2) (s : Fdc δ) :
    Prop :=
  ∃ d, s.drive u = some d ∧ I d

section keeps

variable {δ : Type} {V : Vtable δ} {I : FloppyDrive δ → Prop} {u : BitVec 2}
  {s : Fdc δ}

theorem Has.setFd {d d' : FloppyDrive δ} (h : s.Has I u) (hd : s.fd = some d)
    (hI : I d → I d') : (s.setFd d').Has I u := by
  obtain ⟨d₀, h₀, hI₀⟩ := h
  by_cases hu : u = s.curunit
  · subst hu
    cases h₀.symm.trans hd
    exact ⟨d', Function.update_self .., hI hI₀⟩
  · exact ⟨d₀, (Function.update_of_ne hu ..).trans h₀, hI₀⟩

theorem Has.withFd {α : Type} {absent : α}
    {f : FloppyDrive δ → α × FloppyDrive δ} (h : s.Has I u)
    (hf : ∀ d, I d → I (f d).2) : (s.withFd absent f).2.Has I u := by
  rw [Fdc.withFd]
  cases hd : s.fd with
  | none => exact h
  | some d => exact h.setFd hd (hf d)

theorem Has.transferFd {ω : Type} {out : ω} {f : FloppyDrive δ → Transfer δ ω}
    (h : s.Has I u) (hf : ∀ d, I d → I (f d).drive) :
    (s.transferFd out f).2.Has I u :=
  h.withFd hf

theorem Has.isready (hV : V.Keeps I) (h : s.Has I u) :
    (s.isready V).2.Has I u := by
  have hr : (s.withFd false V.isready).2.Has I u := h.withFd fun _ => hV.isready
  simp only [Fdc.isready]
  split <;> exact hr

theorem Has.writable (hV : V.Keeps I) (h : s.Has I u) :
    (s.writable V).2.Has I u := by
  have hr := h.isready hV
  simp only [Fdc.writable]
  split
  · exact hr
  · split <;> exact hr

theorem Has.xltError (h : s.Has I u) (err : FdErr) :
    (s.xltError err).Has I u := by
  cases err <;> exact h

theorem Has.idError (h : s.Has I u) (err : FdErr) :
    (s.idError err).Has I u := by
  cases err <;> exact h

theorem Has.scanByte (h : s.Has I u) (fdcbyte cpubyte : Byte) :
    (s.scanByte fdcbyte cpubyte).Has I u := by
  rw [Fdc.scanByte]
  split
  · exact h
  · split
    · exact h
    · split <;> (try split) <;> exact h

theorem Has.clearPendingInterrupt (h : s.Has I u) :
    s.clearPendingInterrupt.Has I u := by
  rw [Fdc.clearPendingInterrupt]
  split <;> exact h

theorem Has.storeExec (h : s.Has I u) (pos : Nat) (bytes : List Byte) :
    Partial.Post (Has I u) (s.storeExec pos bytes) :=
  Partial.post_map fun _ _ => h

theorem Has.getSt3 (hV : V.Keeps I) (h : s.Has I u) :
    Partial.Post (Has I u) (s.getSt3 V) := by
  rw [Fdc.getSt3]
  cases hd : s.fd with
  | none => exact Partial.post_none
  | some d => exact Partial.post_some.2 (h.setFd hd hV.driveStatus)

theorem Has.writeEnd (hV : V.Keeps I) (h : s.Has I u) :
    Partial.Post (Has I u) (s.writeEnd V) := by
  refine Partial.post_bind fun len _ => Partial.post_some.2 ?_
  have hw : (s.withFd .notRdy fun d =>
      V.writeSector d s.target s.execBuf len s.writeDeleted).2.Has I u :=
    h.withFd fun _ => hV.writeSector _ _ _ _
  exact hw.xltError _

theorem Has.formatEnd (hV : V.Keeps I) (h : s.Has I u) :
    Partial.Post (Has I u) (s.formatEnd V) := by
  rw [Fdc.formatEnd]
  cases hd : s.fd with
  | none => exact Partial.post_some.2 (h.xltError .notRdy)
  | some d =>
      refine Partial.post_bind fun r hr => Partial.post_some.2 ?_
      obtain ⟨r, hf, rfl⟩ := Option.map_eq_some_iff.1 hr
      have hset : (s.setFd r.2).Has I u :=
        h.setFd hd fun hI => hV.formatTrack _ _ _ _ hI r hf
      exact hset.xltError r.1

theorem Has.endExecutionPhase (hV : V.Keeps I) (h : s.Has I u) :
    Partial.Post (Has I u) (s.endExecutionPhase V) := by
  generalize ht : ({ s with mainstat := 0xd0, resultPos := 0 } : Fdc δ) = t
  have h : t.Has I u := ht ▸ h
  rw [Fdc.endExecutionPhase, ht]
  have hwrite : Partial.Post (Has I u)
      ((t.writeEnd V).bind fun s => some { s with resultLen := 7 }) :=
    (h.writeEnd hV).bind fun _ h => Partial.post_some.2 h
  have hformat : Partial.Post (Has I u)
      ((t.formatEnd V).bind fun s => some { s with resultLen := 7 }) :=
    (h.formatEnd hV).bind fun _ h => Partial.post_some.2 h
  simp only
  split
  · exact Partial.post_some.2 h
  · exact Partial.post_some.2 h
  · exact Partial.post_some.2 h
  · exact Partial.post_some.2 h
  · exact Partial.post_some.2 h
  · exact hwrite
  · exact hwrite
  · exact hformat
  · exact Partial.post_some.2 h

theorem Has.finish (hV : V.Keeps I) (h : s.Has I u) :
    Partial.Post (Has I u) (s.finish V) :=
  (h.endExecutionPhase hV).map fun _ h => h

/-! ## The commands -/

/-- How the commands go on that have read something: into the result phase
after an error, into the execution phase otherwise. -/
theorem Has.proceed (hV : V.Keeps I) {t : Fdc δ} (h : s.Has I u)
    (ht : t.Has I u) (fatal : Bool) :
    Partial.Post (Has I u) (if fatal then s.finish V else some t) := by
  split
  · exact h.finish hV
  · exact Partial.post_some.2 ht

theorem Has.readTrack (hV : V.Keeps I) (h : s.Has I u) :
    Partial.Post (Has I u) (s.readTrack V) := by
  have hr : ((s.start.setExecLen maxSectorLen).isready V).2.Has I u :=
    Has.isready hV h
  have hstore {err : FdErr} {bytes : List Byte} {len : Nat} {w : Fdc δ}
      (h : w.Has I u) : Partial.Post (Has I u)
        (((w.setExecLen len).storeExec 0 bytes).bind fun s =>
          if err.fatal then (s.xltError err).results7.finish V
          else some { (s.xltError err).results7.execInterrupt with
            mainstat := 0xf0, execPos := 0 }) := by
    refine Partial.Post.bind (P := Has I u) (Has.storeExec ?_ _ _) fun s hs =>
      Has.proceed hV ?_ ?_ _
    · exact h
    · exact hs.xltError err
    · exact hs.xltError err
  simp only [Fdc.readTrack, Option.bind_eq_bind]
  generalize (s.start.setExecLen maxSectorLen).isready V = r at hr
  obtain ⟨ready, t⟩ := r
  cases ready with
  | false => exact hstore hr
  | true => exact hstore (hr.transferFd fun _ => hV.readTrack _ _ _ _)

theorem Has.senseDrive (hV : V.Keeps I) (h : s.Has I u) :
    Partial.Post (Has I u) (s.senseDrive V) := by
  simp only [Fdc.senseDrive, Option.bind_eq_bind]
  refine Partial.Post.bind (P := Has I u) (Has.getSt3 hV ?_) fun t ht =>
    Has.endExecutionPhase hV ?_
  · exact h
  · exact ht

theorem Has.readSector (hV : V.Keeps I) (h : s.Has I u) (off len : Nat)
    (deleted : Bool) :
    Partial.Post (fun r => r.2.Has I u) (s.readSector V off len deleted) := by
  simp only [Fdc.readSector, Option.bind_eq_bind]
  refine (h.storeExec _ _).bind fun t ht => ?_
  have hr := ht.isready hV
  have hend {err : FdErr} {bytes : List Byte} {del : Bool} {w : Fdc δ}
      (h : w.Has I u) :
      Partial.Post (fun r : (FdErr × Bool) × Fdc δ => r.2.Has I u)
        ((w.storeExec off bytes).bind fun s => some ((err, del), if del then
            { s.xltError err with st2 := (s.xltError err).st2 ||| 0x40 }
          else s.xltError err)) := by
    refine (h.storeExec _ _).bind fun s hs => Partial.post_some.2 ?_
    show Has I u (if del then _ else _)
    split <;> exact hs.xltError err
  generalize t.isready V = r at hr
  obtain ⟨ready, v⟩ := r
  cases ready with
  | false => exact hend hr
  | true => exact hend (hr.transferFd fun _ => hV.readSector _ _ _)

theorem Has.readSectors (hV : V.Keeps I) (n : Nat) (h : s.Has I u) (err : FdErr)
    (deleted : Bool) (off : Nat) : Partial.Post (fun r => r.2.Has I u)
      (readSectors V n err deleted off s) := by
  induction n generalizing s err deleted off with
  | zero => exact Partial.post_some.2 h
  | succ n ih =>
      simp only [Fdc.readSectors, Option.bind_eq_bind]
      refine Partial.post_bind fun len _ =>
        (h.readSector hV off len deleted).bind fun r hr => ?_
      split
      · exact Partial.post_some.2 hr
      · refine ih ?_ _ _ _
        exact hr

theorem Has.read (hV : V.Keeps I) (h : s.Has I u) (deleted : Bool) :
    Partial.Post (Has I u) (s.read V deleted) := by
  simp only [Fdc.read, Option.bind_eq_bind]
  refine Partial.Post.bind (P := fun r => r.2.Has I u)
    (Has.readSectors hV _ ?_ _ _ _) fun r hr => Has.proceed hV ?_ ?_ _
  · exact h
  · exact hr
  · exact hr

theorem Has.write (hV : V.Keeps I) (h : s.Has I u) (deleted : Bool) :
    Partial.Post (Has I u) (s.write V deleted) := by
  simp only [Fdc.write, Option.bind_eq_bind]
  refine Partial.post_bind fun len _ =>
    Partial.Post.bind (P := Has I u) (Has.storeExec ?_ _ _) fun t ht => ?_
  · exact h
  have hw := ht.writable hV
  split
  · exact Partial.post_some.2 hw
  · exact Partial.post_some.2 (hw.xltError _)

theorem Has.seekTo (hV : V.Keeps I) (h : s.Has I u) (cylinder : Byte) :
    (s.seekTo V cylinder).Has I u := by
  simp only [Fdc.seekTo]
  generalize ht : Fdc.mk _ _ _ _ _ _ _ _ _ _ _ _ = t
  have hr : (t.isready V).2.Has I u := Has.isready hV (ht ▸ h)
  have hs : ((t.isready V).2.withFd .notRdy fun d =>
      V.seekCylinder d cylinder).2.Has I u :=
    hr.withFd fun _ => hV.seekCylinder _
  split
  · exact hr
  · split <;> exact hs

theorem Has.senseInt (hV : V.Keeps I) (h : s.Has I u) :
    Partial.Post (Has I u) (s.senseInt V) := by
  simp only [Fdc.senseInt, Option.bind_eq_bind]
  refine Partial.Post.bind (P := Has I u) ?_ fun _ h => Partial.post_some.2 h
  split <;> exact Has.endExecutionPhase hV h

theorem Has.nextId (hV : V.Keeps I) (h : s.Has I u) :
    Partial.Post (Has I u) (s.nextId V) := by
  have ht : (s.transferFd () fun d =>
      V.readId d s.curhead s.lastidread).2.Has I u :=
    h.transferFd fun _ => hV.readId _ _
  simp only [Fdc.nextId, Option.bind_eq_bind]
  refine Partial.post_bind fun _ _ => Partial.post_some.2 (Has.idError ?_ _)
  exact ht

theorem Has.readId (hV : V.Keeps I) (h : s.Has I u) :
    Partial.Post (Has I u) (s.readId V) := by
  have hr : (Fdc.isready V
      { s.clearStatus.getDrive with resultLen := 7 }).2.Has I u :=
    Has.isready hV h
  simp only [Fdc.readId, Option.bind_eq_bind]
  split
  · exact (hr.nextId hV).bind fun _ h => Has.endExecutionPhase hV h
  · exact Has.endExecutionPhase hV hr

theorem Has.format (hV : V.Keeps I) (h : s.Has I u) : (s.format V).Has I u := by
  simp only [Fdc.format]
  generalize ht : Fdc.mk _ _ _ _ _ _ _ _ _ _ _ _ = t
  have hw : (t.writable V).2.Has I u := Has.writable hV (ht ▸ h)
  split
  · exact hw
  · exact hw.xltError _

theorem Has.scan (hV : V.Keeps I) (h : s.Has I u) :
    Partial.Post (Has I u) (s.scan V) := by
  simp only [Fdc.scan, Option.bind_eq_bind]
  refine Partial.post_bind fun len _ =>
    Partial.Post.bind (P := Has I u) (Has.storeExec ?_ _ _) fun t ht => ?_
  · exact h
  have hr : (t.transferFd false fun d =>
      V.readSector d t.target len none).2.Has I u :=
    ht.transferFd fun _ => hV.readSector _ _ _
  refine Partial.Post.bind (P := Has I u) (Has.storeExec hr _ _) fun w hw =>
    Has.proceed hV ?_ ?_ _
  · exact hw.xltError _
  · exact hw.xltError _

theorem Has.execute (hV : V.Keeps I) (h : s.Has I u) :
    Partial.Post (Has I u) (s.execute V) := by
  generalize ht : ({ s with st0 := s.st0 &&& 0xbf } : Fdc δ) = t
  have h : t.Has I u := ht ▸ h
  rw [Fdc.execute, ht]
  split
  · exact h.readTrack hV
  · exact Partial.post_some.2 h
  · exact h.senseDrive hV
  · exact h.write hV false
  · exact h.read hV false
  · exact Partial.post_some.2 (Has.seekTo (s := t.start) hV h 0)
  · exact h.senseInt hV
  · exact h.write hV true
  · exact h.readId hV
  · exact h.read hV true
  · exact Partial.post_some.2 (h.format hV)
  · exact Partial.post_some.2 (Has.seekTo (s := t.start) hV h _)
  · exact h.scan hV
  · exact h.scan hV
  · exact h.scan hV
  · exact Partial.post_some.2 h

/-! ## The registers -/

theorem Has.execByteDone (hV : V.Keeps I) (h : s.Has I u) :
    Partial.Post (Has I u) (s.execByteDone V) := by
  simp only [Fdc.execByteDone]
  split
  · exact Has.finish hV h
  · exact Partial.post_some.2 h

theorem Has.execByte (hV : V.Keeps I) (h : s.Has I u) (value : Byte) :
    Partial.Post (Has I u) (s.execByte V value) := by
  simp only [Fdc.execByte, Option.bind_eq_bind]
  have hdone {o : Option (Fdc δ)} (ho : Partial.Post (Has I u) o) :
      Partial.Post (Has I u) (o.bind fun s => s.execByteDone V) :=
    ho.bind fun _ h => h.execByteDone hV
  split
  · exact hdone (Partial.post_map fun _ _ => h.scanByte _ _)
  · exact hdone (Partial.post_map fun _ _ => h.scanByte _ _)
  · exact hdone (Partial.post_map fun _ _ => h.scanByte _ _)
  · exact hdone (Partial.post_map fun _ _ => h)

theorem Has.writeData (hV : V.Keeps I) (h : s.Has I u) (value : Byte) :
    Partial.Post (Has I u) (s.writeData V value) := by
  have h := h.clearPendingInterrupt
  simp only [Fdc.writeData, Option.bind_eq_bind]
  generalize s.clearPendingInterrupt = t at h
  split
  · exact h.execByte hV value
  · split
    · exact Partial.post_some.2 h
    · split
      · split
        · refine Partial.Post.bind (P := Has I u) (Has.execute hV ?_) fun _ h =>
            Partial.post_some.2 h
          exact h
        · exact Partial.post_some.2 h
      · refine Partial.Post.bind (P := Has I u) (Partial.post_map fun _ _ => h)
          fun w hw => ?_
        split
        · exact hw.execute hV
        · exact Partial.post_some.2 hw

theorem Has.readData (hV : V.Keeps I) (h : s.Has I u) :
    Partial.Post (fun r => r.2.Has I u) (s.readData V) := by
  have h := h.clearPendingInterrupt
  simp only [Fdc.readData, Option.bind_eq_bind]
  generalize s.clearPendingInterrupt = t at h
  split
  · split
    · exact Partial.post_bind fun _ _ =>
        (h.execByteDone hV).bind fun _ h => Partial.post_some.2 h
    · refine Partial.post_bind fun _ _ => Partial.post_some.2 ?_
      show Has I u (if _ then _ else _)
      split <;> exact h
  · exact Partial.post_some.2 h

theorem Has.setMotor (hV : V.Keeps I) (h : s.Has I u) (running : Byte) :
    Partial.Post (Has I u) (s.setMotor V running) := by
  have hm : (s.motors running).Has I u := by
    obtain ⟨d, hd, hI⟩ := h
    exact ⟨_, congrArg (Option.map _) hd, hV.motor _ hI⟩
  simp only [Fdc.setMotor, Option.bind_eq_bind]
  split
  · exact Partial.post_some.2 hm
  · refine Partial.Post.bind (P := Has I u) (Has.getSt3 hV ?_) fun t ht => ?_
    · exact hm
    split
    · exact Has.endExecutionPhase hV ht
    · exact Partial.post_some.2 ht

end keeps

end Fdc

/-! ## Disks that cannot be written -/

namespace Ldsk

/-- The disk in the drive, if it has not been dropped, is in a file of these
bytes that cannot be written. -/
structure Protected (bytes : List Byte) (d : FloppyDrive Ldsk) : Prop where
  disk : ∀ disk, d.image.disk = some disk →
    disk.writable = false ∧ disk.bytes = bytes
  diskp : ∀ c, d.image.diskp = some c → c.readonly = true ∧ c.file.bytes = bytes

variable {bytes : List Byte} {d : FloppyDrive Ldsk} {c c' : Cpcemu}

theorem Protected.withImage (h : Protected bytes d) (hc : c.readonly = true ∧
    c.file.bytes = bytes) (hs : Cpcemu.SameImage c c') (geom : Geometry) :
    Protected bytes (withImage d c' geom) := by
  refine ⟨h.disk, fun c'' h'' => ?_⟩
  cases h''
  exact ⟨hs.readonly.trans hc.1, hs.bytes.trans hc.2⟩

theorem Protected.reset : Protected bytes (reset d) := ⟨nofun, nofun⟩

theorem Protected.regeom (rand : Nat → Nat) (h : Protected bytes d)
    (hc : c.readonly = true ∧ c.file.bytes = bytes) :
    Protected bytes (regeom rand d c).2 := by
  have hs := Cpcemu.getgeom_same rand c
  simp only [Ldsk.regeom]
  split
  · exact h.withImage hc hs _
  · exact .reset

theorem cpcOpen_file {writable extended : Bool}
    (h : cpcOpen bytes writable extended = some c) :
    c.readonly = !writable ∧ c.file.bytes = bytes := by
  rw [cpcOpen] at h
  dsimp only at h
  split_ifs at h
  · cases h
    exact ⟨rfl, rfl⟩
  · cases h
    exact ⟨rfl, rfl⟩

theorem dskOpen_file {disk : Disk} (h : dskOpen disk = some c) :
    c.readonly = !disk.writable ∧ c.file.bytes = disk.bytes := by
  rw [dskOpen] at h
  cases hs : cpcOpen disk.bytes disk.writable false with
  | some c₁ =>
      rw [hs] at h
      cases h
      exact cpcOpen_file hs
  | none =>
      rw [hs] at h
      exact cpcOpen_file h

/-- One of the two drivers takes a disk. -/
theorem dskOpen_isSome (disk : Disk) : ∃ c, dskOpen disk = some c := by
  obtain ⟨hlen, hmagic⟩ := disk.isImage
  have hhead : (disk.bytes.take 256).length = 256 := by
    rw [List.length_take]
    omega
  have hslice : Buffer.slice (Buffer.put (fun _ => 0) 0
      (disk.bytes.take 256)) 0 8 = disk.bytes.take 8 := by
    refine List.ext_getElem ?_ fun i h h' => ?_
    · rw [Buffer.length_slice, List.length_take]
      omega
    · rw [Buffer.length_slice] at h
      rw [Buffer.getElem_slice, Nat.zero_add,
        Buffer.put_getElem (by rw [hhead]; omega), List.getElem_take,
        List.getElem_take]
  rw [dskOpen, ← Option.isSome_iff_exists]
  simp only [cpcOpen, File.read, List.drop_zero, hhead, hslice]
  rcases hmagic with h | h
  · rw [h]
    rfl
  · rw [h]
    rfl

theorem Protected.isready (rand : Nat → Nat) (h : Protected bytes d) :
    Protected bytes (isready rand d).2 := by
  rw [Ldsk.isready]
  split
  · exact h
  · split
    · exact h
    · cases hd : d.image.disk with
      | none => exact h
      | some disk =>
          obtain ⟨hw, hb⟩ := h.disk disk hd
          obtain ⟨c, hc⟩ := dskOpen_isSome disk
          obtain ⟨hro, hf⟩ := dskOpen_file hc
          simp only [hc]
          exact h.regeom rand ⟨by rw [hro, hw]; rfl, hf.trans hb⟩

theorem xtread_same (rand : Nat → Nat) (geom : Geometry)
    (cylinder head cylExpect headExpect n sector : Nat) (c : Cpcemu) :
    Cpcemu.SameImage c (xtread rand geom cylinder head cylExpect headExpect n
      sector c).2.2 := by
  induction n generalizing sector c with
  | zero => exact .refl c
  | succ n ih =>
      have h := Cpcemu.xread_same rand c geom cylinder head cylExpect headExpect
        sector geom.secsize none
      simp only [xtread]
      split
      · exact h.trans (ih ..)
      · exact h

/-- The driver keeps a disk that cannot be written as it is. -/
theorem vtable_keeps (rand : Nat → Nat) (bytes : List Byte) :
    (vtable rand).Keeps (Protected bytes) where
  motor _ h := ⟨h.disk, h.diskp⟩
  seekCylinder cylinder h := by
    show Protected bytes (seekCylinder _ cylinder).2
    rw [Ldsk.seekCylinder]
    split
    · exact h
    · simp only
      split
      · exact ⟨h.disk, h.diskp⟩
      · exact h
  readId head sector h := by
    show Protected bytes (readId _ head sector).drive
    rw [Ldsk.readId]
    split
    · exact h
    · next c hc =>
      dsimp only
      split
      · exact h.withImage (h.diskp c hc) (Cpcemu.readSecid_same c _ _ _) _
      · exact h.withImage (h.diskp c hc) (Cpcemu.readSecid_same c _ _ _) _
  readSector t len deleted h := by
    show Protected bytes (readSector rand _ t len deleted).drive
    rw [Ldsk.readSector]
    split
    · exact h
    · next c hc =>
      exact h.withImage (h.diskp c hc) (Cpcemu.xread_same rand c ..) _
  readTrack xcylinder xhead head len h := by
    show Protected bytes (readTrack rand _ xcylinder xhead head len).drive
    rw [Ldsk.readTrack]
    split
    · exact h
    · next c hc => exact h.withImage (h.diskp c hc) (xtread_same rand ..) _
  writeSector t buf len deleted h := by
    show Protected bytes (writeSector rand _ t buf len deleted).2
    rw [Ldsk.writeSector]
    split
    · exact h
    · next c hc =>
      have hro := h.diskp c hc
      simp only [Cpcemu.xwrite, hro.1, if_true]
      exact h.withImage hro (.refl c) _
  formatTrack head sectors track filler h := by
    show Partial.Post (fun r => Protected bytes r.2)
      (formatTrack rand _ head sectors track filler)
    rw [Ldsk.formatTrack]
    split
    · exact Partial.post_some.2 h
    · next c hc =>
      have hro := h.diskp c hc
      refine Partial.post_bind fun format _ => Partial.post_some.2 ?_
      simp only [Cpcemu.format, hro.1, if_true]
      split
      · exact (h.withImage hro (.refl c) _).regeom rand hro
      · exact h.withImage hro (.refl c) _
  driveStatus := by
    intro d h
    show Protected bytes (driveStatus rand d).2
    simp only [Ldsk.driveStatus]
    split
    · exact h
    · exact h.isready rand
  isready h := h.isready rand

end Ldsk

end Xcpc.Lib765

namespace Xcpc.Cpc

open Prog Lib765

/-! ## The machine -/

/-- Nothing that the mainboard does with the controller breaks `K`. -/
structure Fdc.Keeps {φ : Type} (F : Fdc φ) (K : φ → Prop) : Prop where
  reset : ∀ f, K f → K (F.reset f)
  rdStat : ∀ f v, K f → K (F.rdStat f v).2
  rdData : ∀ f v, K f → K (F.rdData f v).2
  wrStat : ∀ f v, K f → K (F.wrStat f v)
  wrData : ∀ f v, K f → K (F.wrData f v)
  setMotor : ∀ f v, K f → K (F.setMotor f v)

namespace Machine

section keeps

variable {φ : Type} {F : Fdc φ} {K : φ → Prop}

theorem interface_keeps (hF : F.Keeps K) :
    (Bus.interface F).Invariant fun s => K s.fdc where
  mreqM1 _ _ h := h
  mreqRd _ _ h := h
  mreqWr _ _ _ h := h
  iorqM1 _ _ h := h
  iorqRd s a h := by
    show K (s.iorqRd F a).2.fdc
    unfold Bus.iorqRd
    split
    · split
      · exact h
      · exact h
      · exact hF.rdStat _ _ h
      · exact hF.rdData _ _ h
    · exact h
  iorqWr s a v h := by
    show K (s.iorqWr F a v).fdc
    unfold Bus.iorqWr
    split
    · split
      · exact hF.setMotor _ _ h
      · exact hF.setMotor _ _ h
      · exact hF.wrStat _ _ h
      · exact hF.wrData _ _ h
    · exact h

theorem hsync_fdc (m : Machine φ) (x : Bool) :
    (m.hsync x).bus.fdc = m.bus.fdc := by
  unfold hsync
  split
  · split <;> rfl
  · rfl

theorem clockVdc_fdc (m : Machine φ) : m.clockVdc.bus.fdc = m.bus.fdc := by
  simp only [clockVdc]
  split
  · show (if _ then _ else _ : Machine φ).bus.fdc = _
    split
    · exact hsync_fdc _ _
    · rfl
  · split
    · exact hsync_fdc _ _
    · rfl

theorem step_keeps (hF : F.Keeps K) (m : Machine φ) (e : Event)
    (h : K m.bus.fdc) : K (m.step F e).bus.fdc := by
  cases e with
  | clockVdc =>
      show K m.clockVdc.bus.fdc
      rw [clockVdc_fdc]
      exact h
  | clockCpu => exact Cpu.clock_invariant (interface_keeps hF) m h
  | clockPsg => exact h
  | keys keys => exact h
  | reset => exact hF.reset _ h
  | loadSnapshot file =>
      show K (m.loadSnapshot F file).2.bus.fdc
      unfold loadSnapshot
      split
      · exact hF.reset _ h
      · exact hF.reset _ h

end keeps

end Machine

/-- Nothing that the mainboard does with the controller changes a disk that
cannot be written. -/
theorem Disks.device_keeps (rand : Nat → Nat) (u : BitVec 2)
    (bytes : List Byte) : (Disks.device rand).Keeps
      (Partial.Post (Lib765.Fdc.Has (Ldsk.Protected bytes) u)) where
  reset f h := by
    refine Partial.Post.map h fun s hs => ?_
    obtain ⟨d, hd, -⟩ := hs
    exact ⟨Ldsk.eject d, congrArg (Option.map _) hd, .reset⟩
  rdStat _ _ h := h
  rdData f v h := by
    show Partial.Post _ (Prod.snd _)
    simp only [Disks.device]
    split
    · next value s hs =>
      have hr := Partial.Post.bind h fun _ h =>
        Lib765.Fdc.Has.readData (Ldsk.vtable_keeps rand bytes) h
      exact Partial.post_some.2 (hr _ hs)
    · exact Partial.post_none
  wrStat _ _ h := h
  wrData f v h := h.bind fun _ h => h.writeData (Ldsk.vtable_keeps rand bytes) v
  setMotor f v h :=
    h.bind fun _ h => h.setMotor (Ldsk.vtable_keeps rand bytes) v

/-- A disk whose file cannot be written is left as it is, whatever the program
does and when: commands that are cut off, bytes that nobody waits for, motors
that are stopped in the middle. -/
theorem protected_run (rand : Nat → Nat) {m : Machine Disks}
    {s : Lib765.Fdc Ldsk} {u : BitVec 2} {d : FloppyDrive Ldsk}
    {bytes : List Byte} (hs : m.bus.fdc = some s) (hd : s.drive u = some d)
    (hp : Ldsk.Protected bytes d) (es : List Machine.Event) :
    Partial.Post (Lib765.Fdc.Has (Ldsk.Protected bytes) u)
      (run (Machine.step (Disks.device rand)) m es).bus.fdc := by
  have h : Partial.Post (Lib765.Fdc.Has (Ldsk.Protected bytes) u)
      m.bus.fdc := by
    rw [hs]
    exact Partial.post_some.2 ⟨d, hd, hp⟩
  exact run_keeps (I := fun m : Machine Disks =>
    Partial.Post (Lib765.Fdc.Has (Ldsk.Protected bytes) u) m.bus.fdc)
    (Machine.step_keeps (Disks.device_keeps rand u bytes)) h es

/-- A machine with a protected disk in drive A, and a ROM that starts the motor,
sends the command to write the sector, and stops the motor instead of the
data. -/
def cutOff : Machine Disks :=
  let command : List Byte := [0x45, 0, 0, 0, 0xc1, 2, 0xc1, 0x2a, 0xff]
  let code : List Byte :=
    [0x01, 0x7e, 0xfa, 0x3e, 0x01, 0xed, 0x79, 0x01, 0x7f, 0xfb] ++
      command.flatMap (fun data => [0x3e, data, 0xed, 0x79]) ++
      [0x01, 0x7e, 0xfa, 0xaf, 0xed, 0x79]
  let rom : Fin 2 → Sna.Bank := fun _ o => code.getD o.toNat 0
  let b := Board.construct .k64 ⟨fun _ => 0, fun _ => 0⟩ rom fun _ => none
  Machine.insertDisk (.reset (Disks.device fun _ => 0)
    ⟨.zero, .zero, .zero, b, some Disks.create⟩) 0 (some (Disks.oneSector false))

/-- After that the disk is still in the drive, and open. -/
theorem protected_run_cutOff :
    let m := run (Machine.step (Disks.device fun _ => 0)) cutOff
      (List.replicate 264 .clockCpu)
    Partial.Post (Lib765.Fdc.Has (Ldsk.Protected (Disks.oneSector false).bytes) 0)
        m.bus.fdc ∧
      (m.bus.fdc.bind fun s =>
        (s.drive 0).bind fun d => d.image.diskp).isSome = true :=
  ⟨protected_run (fun _ => 0) rfl rfl
    ⟨fun _ h => Option.some.inj h ▸ ⟨rfl, rfl⟩,
      fun c h => absurd (h : (none : Option LibDsk.Cpcemu) = some c)
        (Option.some_ne_none c).symm⟩ _,
    by decide +kernel⟩

end Xcpc.Cpc
