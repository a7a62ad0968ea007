import Syslog.Collector
import Syslog.Report

/-!
# Worker pools

Datagrams wait in a bounded queue for one of several workers, which puts its report into a bounded
channel. Every change of a pool is an action of the submitter, a worker or the receiver, so the ways
in which a pool may run are the sequences of actions that it allows. Serving datagrams takes one of
them: a datagram is submitted and read, and its report received, before the next one.
-/
namespace Syslog

/-- What a worker holds. -/
inductive Worker where
  | idle
  | holding (raw : List UInt8)
  | finished (report : Report)
  | stopped
  deriving DecidableEq, Repr

structure Pool where
  collector : Collector
  /-- The places in the queue and in the channel. -/
  capacity : Nat
  /-- The datagrams that wait, the oldest first. -/
  queue : List (List UInt8)
  workers : List Worker
  /-- The reports that wait, the oldest first. -/
  channel : List Report
  /-- All datagrams submitted, the latest first. -/
  submitted : List (List UInt8)
  /-- All reports received, the latest first. -/
  received : List Report
  /-- More datagrams may come. -/
  submitting : Bool
  /-- Reports are still received. -/
  receiving : Bool
  deriving DecidableEq, Repr

/-- An action of the submitter, of the worker with a number, or of the receiver. -/
inductive PoolAction where
  | submit (raw : List UInt8)
  /-- No datagram comes any more. -/
  | close
  | take (worker : Nat)
  /-- The worker reads what it holds at a time of the system. -/
  | read (worker : Nat) (system : Instant)
  | send (worker : Nat)
  /-- The worker ends, as the queue is empty and closed. -/
  | stop (worker : Nat)
  /-- The worker ends, as nobody receives its report. -/
  | giveUp (worker : Nat)
  | receive
  /-- No report is received any more. -/
  | hangUp
  deriving DecidableEq, Repr

namespace Pool

/-- The greatest number of places that a queue can have, one less than two to the power of 61. -/
def maxCapacity : Nat := 2305843009213693951

/-- A pool at its start; it has at least one worker and one place. -/
def start (collector : Collector) (workers capacity : Nat) : Pool :=
  { collector := collector
    capacity := max capacity 1
    queue := []
    workers := List.replicate (max workers 1) .idle
    channel := []
    submitted := []
    received := []
    submitting := true
    receiving := true }

def setWorker (pool : Pool) (worker : Nat) (state : Worker) : Pool :=
  { pool with workers := pool.workers.set worker state }

/-- Some worker may still take a datagram. -/
def isOpen (pool : Pool) : Bool := pool.submitting && pool.workers.any (· != .stopped)

/-- The pool after an action, if the action is possible. -/
def act? (pool : Pool) : PoolAction → Option Pool
  | .submit raw =>
    if pool.isOpen ∧ pool.queue.length < pool.capacity then
      some { pool with queue := pool.queue ++ [raw], submitted := raw :: pool.submitted }
    else none
  | .close => if pool.submitting then some { pool with submitting := false } else none
  | .take worker =>
    match pool.workers[worker]?, pool.queue with
    | some .idle, raw :: queue =>
      some { pool.setWorker worker (.holding raw) with queue := queue }
    | _, _ => none
  | .read worker system =>
    match pool.workers[worker]? with
    | some (.holding raw) =>
      let (result, collector) := pool.collector.collect system raw
      some { pool.setWorker worker (.finished (.ofResult result)) with collector := collector }
    | _ => none
  | .send worker =>
    match pool.workers[worker]? with
    | some (.finished report) =>
      if pool.receiving ∧ pool.channel.length < pool.capacity then
        some { pool.setWorker worker .idle with channel := pool.channel ++ [report] }
      else none
    | _ => none
  | .stop worker =>
    match pool.workers[worker]?, pool.queue with
    | some .idle, [] => if pool.submitting then none else some (pool.setWorker worker .stopped)
    | _, _ => none
  | .giveUp worker =>
    match pool.workers[worker]? with
    | some (.finished _) =>
      if pool.receiving then none else some (pool.setWorker worker .stopped)
    | _ => none
  | .receive =>
    match pool.channel with
    | report :: channel =>
      if pool.receiving then
        some { pool with channel := channel, received := report :: pool.received }
      else none
    | [] => none
  | .hangUp =>
    if pool.receiving then some { pool with channel := [], receiving := false } else none

/-- One step of a pool: it allows some action. -/
def Step (pool next : Pool) : Prop := ∃ action, pool.act? action = some next

/-- The pool after a sequence of actions, if each of them is possible. -/
def run? (pool : Pool) (actions : List PoolAction) : Option Pool := actions.foldlM act? pool

/-- The actions that take one datagram through the first worker. -/
def passage (system : Instant) (raw : List UInt8) : List PoolAction :=
  [.submit raw, .take 0, .read 0 system, .send 0, .receive]

/-- The pool after it has served one datagram. -/
def serve (pool : Pool) (system : Instant) (raw : List UInt8) : Pool :=
  (pool.run? (passage system raw)).getD pool

/-- The reports received, the oldest first. -/
def reports (pool : Pool) : List Report := pool.received.reverse

/-- The pool without its history. -/
def forget (pool : Pool) : Pool := { pool with submitted := [], received := [] }

end Pool
end Syslog
