import Syslog.Pool

/-!
# Framing and feeders

An input holds one datagram a line. Lines end at line feeds; one carriage return before the end does
not belong to the datagram, and lines of blanks alone hold none. The last line needs no end.

A feeder reads inputs one after another and line by line, and submits the datagram of each line to a
pool, for which it waits while the queue is full. It ends at an input that cannot be opened, and
then it closes the queue. The actions of the pool come in between in any order.
-/
namespace Syslog

namespace Framing

def lineFeed : UInt8 := 0x0A

def carriageReturn : UInt8 := 0x0D

/-- The blanks of ASCII without the vertical tab. -/
def isBlankByte (byte : UInt8) : Bool :=
  byte == 0x20 || byte == 0x09 || byte == lineFeed || byte == 0x0C || byte == carriageReturn

def dropReturn (line : List UInt8) : List UInt8 :=
  if line.getLast? = some carriageReturn then line.dropLast else line

/-- The datagram in a line, given without its line feed. -/
def datagram? (line : List UInt8) : Option (List UInt8) :=
  let line := dropReturn line
  if line.all isBlankByte then none else some line

/-- The datagrams of an input. -/
def datagrams (input : List UInt8) : List (List UInt8) :=
  (input.splitOn lineFeed).filterMap datagram?

/-- The first line of an input without its line feed, and what follows it. -/
def readLine? (input : List UInt8) : Option (List UInt8 × List UInt8) :=
  if input = [] then none
  else some (input.takeWhile (· != lineFeed), (input.dropWhile (· != lineFeed)).drop 1)

end Framing

structure Feeder where
  pool : Pool
  /-- What is left of the input that is being read. -/
  rest : List UInt8
  /-- The inputs to come, none in the place of one that cannot be opened. -/
  inputs : List (Option (List UInt8))
  /-- The number of datagrams submitted. -/
  queued : Nat
  deriving DecidableEq, Repr

inductive FeederAction where
  /-- Reads a line and submits its datagram. -/
  | read
  /-- Goes on to the next input. -/
  | turn
  /-- Closes the queue. -/
  | finish
  /-- Something else happens in the pool. -/
  | work (action : PoolAction)
  deriving DecidableEq, Repr

/-- The action belongs to whoever feeds the pool. -/
def PoolAction.feeds : PoolAction → Bool
  | submit _ | close => true
  | _ => false

namespace Feeder

/-- A feeder with its pool at the start. -/
def start (collector : Collector) (workers capacity : Nat) (inputs : List (Option (List UInt8))) :
    Feeder :=
  ⟨.start collector workers capacity, [], inputs, 0⟩

/-- The feeder after it has read a line. It leaves an input when the pool takes no more. -/
def afterLine? (feeder : Feeder) (line rest : List UInt8) : Option Feeder :=
  match Framing.datagram? line with
  | none => some { feeder with rest := rest }
  | some raw =>
    if feeder.pool.isOpen then
      (feeder.pool.act? (.submit raw)).map fun pool =>
        { feeder with pool := pool, rest := rest, queued := feeder.queued + 1 }
    else some { feeder with rest := [] }

/-- The feeder after an action, if the action is possible. -/
def act? (feeder : Feeder) : FeederAction → Option Feeder
  | .read => (Framing.readLine? feeder.rest).bind fun (line, rest) => feeder.afterLine? line rest
  | .turn =>
    match feeder.rest, feeder.inputs with
    | [], some content :: inputs => some { feeder with rest := content, inputs := inputs }
    | [], none :: _ => some { feeder with inputs := [] }
    | _, _ => none
  | .finish =>
    if feeder.rest = [] ∧ feeder.inputs = [] then
      (feeder.pool.act? .close).map fun pool => { feeder with pool := pool }
    else none
  | .work action =>
    if action.feeds then none
    else (feeder.pool.act? action).map fun pool => { feeder with pool := pool }

/-- One step of a feeder and its pool. -/
def Step (feeder next : Feeder) : Prop := ∃ action, feeder.act? action = some next

/-- The feeder after a sequence of actions, if each of them is possible. -/
def run? (feeder : Feeder) (actions : List FeederAction) : Option Feeder :=
  actions.foldlM act? feeder

end Feeder
end Syslog
