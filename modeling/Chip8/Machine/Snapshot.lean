import Chip8.Machine.Grid
import Chip8.Memory.Region

/-!
# Snapshots of the machine

A snapshot holds the values that the watch report shows. It can be put together from any integers;
one that is made from readings has sixteen registers, each of them a byte. Readings give registers
as an array of any shape, of which only a single row of sixteen is accepted.
-/

namespace Chip8

/-- How many general registers the machine has. -/
def registerCount : Nat := 16

/-- The values that the watch report shows. -/
structure Snapshot where
  programCounter : Int
  indexRegister : Int
  registers : List Int
  delayTimer : Int := 0
  soundTimer : Int := 0
deriving DecidableEq, Repr

/-- What is known of a machine. Everything else is as after a reset: the program counter at the
start of the program, and zero in all registers and timers. -/
structure Readings where
  programCounter : Int := ({} : Region).base
  indexRegister : Int := 0
  registers : Option Grid := none
  delayTimer : Int := 0
  soundTimer : Int := 0

/-- What an interpreter shows of itself. -/
structure MachineState where
  pc : Int
  i : Int
  v : Option Grid
  delayTimer : Int
  soundTimer : Int

namespace Snapshot

/-- The registers of an array. It must not have too many dimensions, every entry has to be a byte,
and then the array a row of sixteen. -/
def registersOf (grid : Grid) : Except Fault (List Int) :=
  if dimensionLimit < grid.shape.length then .error (.tooManyDimensions grid.shape.length)
  else
    match grid.values.find? (fun value => !isByte value) with
    | some value => .error (.notAByte value)
    | none =>
      if grid.shape = [registerCount] then .ok grid.values else .error (.registerShape grid.shape)

/-- The snapshot of a machine of which the readings are known. -/
def ofReadings (readings : Readings) : Except Fault Snapshot := do
  let registers ← registersOf (readings.registers.getD (Grid.row (List.replicate registerCount 0)))
  return {
    programCounter := readings.programCounter
    indexRegister := readings.indexRegister
    registers
    delayTimer := readings.delayTimer
    soundTimer := readings.soundTimer }

/-- The machine after a reset, but for its program counter. -/
def reset (counter : Int) : Snapshot where
  programCounter := counter
  indexRegister := 0
  registers := List.replicate registerCount 0

/-- The snapshot of an interpreter. -/
def ofState (state : MachineState) : Except Fault Snapshot :=
  ofReadings {
    programCounter := state.pc
    indexRegister := state.i
    registers := state.v
    delayTimer := state.delayTimer
    soundTimer := state.soundTimer }

end Snapshot

end Chip8
