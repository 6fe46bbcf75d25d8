import Xcpc.Lib.StateRel
import Xcpc.Lib.Ripple
import Xcpc.Lib.RingBuffer
import Xcpc.Lib.Runs
import Xcpc.Lib.Latch
import Xcpc.Lib.Reader
import Xcpc.Lib.Updates
import Xcpc.Lib.Carry
import Xcpc.Lib.XorLinear
import Xcpc.Lib.Cycles
import Xcpc.Lib.Rates
import Xcpc.Lib.PartialRuns
import Xcpc.Lib.Refinement
import Xcpc.Lib.Observation
import Xcpc.Cpu.Opcodes
import Xcpc.Cpu.Microcode
import Xcpc.Cpu.Core
import Xcpc.Cpc.Board
import Xcpc.Cpc.Snapshot
import Xcpc.Cpc.Machine
import Xcpc.Cpc.Clock
import Xcpc.Cpc.Audio
import Xcpc.Cpc.Render
import Xcpc.Cpc.Roms
import Xcpc.Cpc.Disks
import Xcpc.Proofs.Judgment
import Xcpc.Proofs.ClockConsumes
import Xcpc.Proofs.Frames
import Xcpc.Proofs.MemoryMap
import Xcpc.Proofs.IndexSafety
import Xcpc.Proofs.SnapshotFormat
import Xcpc.Proofs.VideoRestore
import Xcpc.Proofs.PpiAccess
import Xcpc.Proofs.PortHalves
import Xcpc.Proofs.RenderBounds
import Xcpc.Proofs.Boundary
import Xcpc.Proofs.CpuRestore
import Xcpc.Proofs.Decode
import Xcpc.Proofs.CarryFrame
import Xcpc.Proofs.Renaming
import Xcpc.Proofs.IndexSymmetry
import Xcpc.Proofs.RegularDecoding
import Xcpc.Proofs.IndexedBits
import Xcpc.Proofs.IndexedPage
import Xcpc.Proofs.TimeAccounting
import Xcpc.Proofs.StatusEffects
import Xcpc.Proofs.PrefixRule
import Xcpc.Proofs.InterruptProtocol
import Xcpc.Proofs.BlockTransfer
import Xcpc.Proofs.BlockIo
import Xcpc.Proofs.AluLaw
import Xcpc.Proofs.WordLaw
import Xcpc.Proofs.MultiByte
import Xcpc.Proofs.ControlFlow
import Xcpc.Proofs.CallStack
import Xcpc.Proofs.FrameLaw
import Xcpc.Proofs.VsyncLaw
import Xcpc.Proofs.HsyncLaw
import Xcpc.Proofs.RasterInterrupts
import Xcpc.Proofs.ScanlineCapture
import Xcpc.Proofs.LineCoverage
import Xcpc.Proofs.RenderLines
import Xcpc.Proofs.PixelLaw
import Xcpc.Proofs.RomSlots
import Xcpc.Proofs.SoundRegisters
import Xcpc.Proofs.SoundRestore
import Xcpc.Proofs.SoundAccess
import Xcpc.Proofs.PpiTwins
import Xcpc.Proofs.PpiRestore
import Xcpc.Proofs.ClockRates
import Xcpc.Proofs.EnvelopeLaw
import Xcpc.Proofs.ToneLaw
import Xcpc.Proofs.NoiseLaw
import Xcpc.Proofs.StuckKeys
import Xcpc.Proofs.DiskImage
import Xcpc.Proofs.AudioRing
import Xcpc.Proofs.DiskPorts
import Xcpc.Proofs.WriteProtection
