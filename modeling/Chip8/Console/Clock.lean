import Chip8.Fault
import Chip8.Precision
import Chip8.Text.Column

/-!
# Clock and time stamps

A clock yields one instant after the other, as a count of ticks of which 1024 make a second; the
last instant stays for ever. An instant that is too far off cannot be read, but it still passes.
Time is kept in seconds, in binary precision. A stamp shows the seconds between two instants to two
places, and a value halfway between two stamps goes to the even one. A negative time keeps its sign
even where both places are zero, and a time that is out of range is infinite.
-/

namespace Chip8

/-- The instants that a clock has yet to yield. A clock without any stands at zero. -/
structure Clock where
  ticks : List Int := []
deriving DecidableEq, Repr

namespace Clock

/-- Ticks in a second. -/
def ticksPerSecond : Nat := 1024

/-- The instant that a clock stands at. -/
def now (clock : Clock) : Int :=
  clock.ticks.headD 0

/-- The clock once its instant has passed. -/
def next (clock : Clock) : Clock :=
  match clock.ticks with
  | _ :: later :: rest => ⟨later :: rest⟩
  | _ => clock

/-- The instant that a clock yields, and the clock after it. -/
def read (clock : Clock) : Except Fault Int × Clock :=
  (if Precision.inRange ticksPerSecond clock.now then .ok clock.now
    else .error (.instantOutOfRange clock.now), clock.next)

end Clock

namespace Stamp

/-- The ticks between two instants, as they are kept. -/
def elapsed (start now : Int) : Int :=
  Precision.round (Precision.round now - Precision.round start)

/-- The seconds of a count of ticks without its sign, to two places. -/
def magnitude (ticks : Int) : String :=
  if Precision.inRange Clock.ticksPerSecond ticks then
    let hundredths := Precision.roundQuotient (100 * ticks.natAbs) Clock.ticksPerSecond
    Numeral.decimal (hundredths / 100 : Nat) ++ "." ++
      Numeral.render .decimal 2 (hundredths % 100 : Nat)
  else "inf"

/-- The seconds of a count of ticks, to two places. -/
def seconds (ticks : Int) : String :=
  String.ofList (Numeral.sign ticks) ++ magnitude ticks

/-- The stamp of a message. -/
def render (start now : Int) : String :=
  "[" ++ Text.alignRight 8 (seconds (elapsed start now)) ++ "s]"

end Stamp

end Chip8
