import Xcpc.Cpu.Registers

/-!
# The keyboard matrix
-/

namespace Xcpc.Kbd

/-- The selected line and the sixteen lines of keys, a bit down for a key
down. -/
structure State where
  line : Byte
  keys : Fin 16 → Byte

def reset : State := ⟨0, fun _ => 0xff⟩

def setLine (s : State) (line : Byte) : State := { s with line := line }

/-- `get_data` -/
def getData (s : State) : Byte :=
  if h : s.line.toNat < 16 then s.keys ⟨s.line.toNat, h⟩ else 0xff

end Xcpc.Kbd
