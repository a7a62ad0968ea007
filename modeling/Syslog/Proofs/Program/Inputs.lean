import Syslog.Proofs.Feeder.Termination
import Syslog.Proofs.Program.Recorded

/-!
# Nothing of an input is lost

Inputs are cut into datagrams at line feeds and ends, whatever their bytes. The datagrams up to the
first input that cannot be opened are submitted in order, and each of them is answered, in whatever
order a feeder and its pool take their steps.
-/
namespace Syslog
open Framing

section
open Text

/-- Two datagrams with a blank line and a line of blanks between them; the last has no end. -/
def parted : List UInt8 := Utf8.encode (ofString "<13>one\r\n\n   \n<13>two")

def one : List UInt8 := Utf8.encode (ofString "<13>one")

/-- The second datagram overtakes the first one, and the second input cannot be opened. -/
def overtaking : List FeederAction := [
  .turn, .read, .work (.take 0), .read, .read, .read, .work (.take 1), .turn, .finish,
  .work (.read 1 0), .work (.send 1), .work (.read 0 0), .work (.send 0), .work .receive,
  .work .receive, .work (.stop 1), .work (.stop 0)]

def begun : Feeder := .start Pool.still 2 4 [some parted, none, some one]

def ended : Feeder := (begun.run? overtaking).getD begun

end
end Syslog
