import Syslog.Feeder
import Syslog.Pool
import Syslog.Setup

/-!
# The program

The program reads its settings, starts a pool, and writes a line for every datagram of its inputs:
the files that it is given, or the standard input if there is none. It is told over any world that
can read files, give the time and take texts.
-/
namespace Syslog

namespace Program

/-- What the program needs of the world it runs in. -/
structure World (m : Type → Type) where
  environment : Environment
  fileAt : Text → m File
  /-- Passes over the lines of the standard input, each without its line feed. -/
  foldInput : (Pool → List UInt8 → m Pool) → Pool → m Pool
  /-- The time of the system. -/
  time : m Instant
  write : Text → m Unit
  /-- Tells the operator why the program does not start. -/
  report : SetupFault → m Unit

variable {m : Type → Type} [Monad m] (world : World m)

def defaultSettingsPath : Text := Text.ofString "/etc/normalizer/normalizer.toml"

/-- The content of the file at a path, if there is a path and the file can be read. -/
def readAt (path : Option Text) : m (Option (List UInt8)) :=
  match path with
  | some path => return (← world.fileAt path).content?
  | none => return none

/-- The pool that the settings ask for. -/
def start : m (Except SetupFault Pool) := do
  let path := (world.environment "NORMALIZER_CONFIG_FILE").getD defaultSettingsPath
  match Settings.load (← world.fileAt path) world.environment with
  | .error fault => return .error fault
  | .ok settings =>
    let patterns ← readAt world settings.patternsPath
    let thresholds ← readAt world settings.thresholdsPath
    return (Collector.ofSettings settings patterns thresholds).map fun collector =>
      .start collector settings.workers.toNat settings.queueCapacity.toNat

/-- Serves the datagram in a line, if it holds one, and writes its report. -/
def serveLine (pool : Pool) (line : List UInt8) : m Pool := do
  match Framing.datagram? line with
  | none => return pool
  | some raw =>
    let served := pool.serve (← world.time) raw
    world.write (Report.lines served.reports)
    return served.forget

/-- Serves the lines of files in order; a file that cannot be read ends it. -/
def serveFiles (pool : Pool) : List Text → m Pool
  | [] => return pool
  | path :: paths => do
    match (← world.fileAt path).content? with
    | none => return pool
    | some content =>
      let pool ← (content.splitOn Framing.lineFeed).foldlM (serveLine world) pool
      serveFiles pool paths

/-- The exit code of a program that does not start. -/
def notStarted : UInt32 := 1

/-- The exit code of a program that breaks off. -/
def brokenOff : UInt32 := 101

/-- The exit code after a fault of the setup. -/
def exitCode : SetupFault → UInt32
  | .overflow => brokenOff
  | _ => notStarted

/-- The whole program with the names of its files; its result is the exit code. It breaks off where
its queues would be too long to be counted. -/
def run (arguments : List Text) : m UInt32 := do
  match ← start world with
  | .error fault =>
    world.report fault
    return exitCode fault
  | .ok pool =>
    if Pool.maxCapacity < pool.capacity then return brokenOff
    if arguments.isEmpty then
      let _ ← world.foldInput (serveLine world) pool
    else
      let _ ← serveFiles world pool arguments
    return 0

end Program
end Syslog
