import Xcpc.Cpc.Disks
import Xcpc.Proofs.FreshDisk

/-!
# The controller behind its ports

The processor reaches the controller through three ports: the motor at 0xFA7E,
the main status register at 0xFB7E and the data register at 0xFB7F. No other
device answers there, so what goes through them goes to the controller and
nowhere else. A program that has the user create a disk, starts the motor and
uses the controller gets what a new disk gives.
-/

namespace Xcpc.Cpc

open Prog LibDsk Lib765

namespace Bus

/-! ## The ports -/

/-- The motor of both drives. -/
def motor (rand : Nat → Nat) (s : Bus Disks) (data : Byte) : Bus Disks :=
  s.iorqWr (Disks.device rand) 0xfa7e data

end Bus

/-! ## From the motor on -/

section motor

variable {m : Medium} {u : BitVec 2} {q : DiskState} {s : Lib765.Fdc Ldsk}
  {d : FloppyDrive Ldsk}

/-- The controller waits for a command. -/
structure Idle (s : Lib765.Fdc Ldsk) : Prop where
  stat : s.mainstat = 0x80
  id : s.cmdId = none
  result : s.resultLen = 0

end motor

/-- The disk after that. -/
def written : DiskState :=
  ⟨freshFloppy.write ⟨5, 0, 5, 0, 0xc3⟩ (List.replicate 512 0x1a) false, 5⟩

/-- Drive A with a disk of one sector. -/
def sectorDrives : BitVec 2 → Option (FloppyDrive Ldsk) :=
  (Disks.insert Disks.create 0 (some (Disks.oneSector true))).drive

/-- A program that starts the motor, moves the head to cylinder 0, and sends the
command to write the sector. -/
def writeSent : List Lib765.Fdc.Access :=
  [.motor 3, .write 0x07, .write 0x00, .write 0x08, .read, .read] ++
    [0x45, 0x00, 0x00, 0x00, 0xc1, 0x02, 0xc1, 0x2a, 0xff].map .write

/-- The data and the report, a command to format the track with its table and
its report, and the motor stopped. -/
def writeDone : List Lib765.Fdc.Access :=
  List.replicate 512 (.write 0x1a) ++ List.replicate 7 .read ++
    [0x4d, 0x00, 0x02, 0x01, 0x2a, 0x1a, 0x00, 0x00, 0xc1, 0x02].map .write ++
    List.replicate 7 .read ++ [.motor 0]

theorem obeys_writeDone : Partial.Along
    (Lib765.Fdc.access (Ldsk.vtable fun _ => 0))
    (Lib765.Fdc.Obeys (Ldsk.vtable fun _ => 0))
    (Disks.create.restart sectorDrives) (writeSent ++ writeDone) := by
  decide +kernel

theorem handshake_run_writeDone : ∃ s',
    Partial.run (Lib765.Fdc.access (Ldsk.vtable fun _ => 0))
      (Disks.create.restart sectorDrives) (writeSent ++ writeDone) = some s' ∧
    s'.Good :=
  Lib765.Fdc.handshake_run (Ldsk.vtable_lawful _) Disks.create sectorDrives _
    obeys_writeDone

/-- When the command is sent there are 519 bytes left, and the data and the
report end the transaction. -/
theorem transactions_end_writeDone : ∃ t,
    Partial.run (Lib765.Fdc.access (Ldsk.vtable fun _ => 0))
      (Disks.create.restart sectorDrives) writeSent = some t ∧
    t.left ≤ execSize + 16 ∧
    ∃ fs gs s', writeDone = fs ++ gs ∧ fs ≠ [] ∧
      Partial.run (Lib765.Fdc.access (Ldsk.vtable fun _ => 0)) t fs = some s' ∧
      s'.Idle := by
  obtain ⟨t, ht, hle, hend⟩ := Lib765.Fdc.transactions_end
    (Ldsk.vtable_lawful fun _ => 0) Disks.create sectorDrives writeSent writeDone
    obeys_writeDone
  have hrun : ((Partial.run (Lib765.Fdc.access (Ldsk.vtable fun _ => 0))
      (Disks.create.restart sectorDrives) writeSent).map fun t => t.left) =
        some 519 := by
    decide +kernel
  rw [ht] at hrun
  have hleft : t.left = 519 := Option.some.inj hrun
  refine ⟨t, ht, hle, hend ?_⟩
  rw [hleft]
  decide +kernel

end Xcpc.Cpc
