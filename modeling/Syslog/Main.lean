import Std.Time.DateTime.Timestamp
import Syslog.Program

/-!
# Command line

The program over files, environment, clock and standard streams of the machine. The arguments are
the files to read.
-/
namespace Syslog.Command

/-- The variables that the program looks at. -/
def variableNames : List String := [
  "NORMALIZER_CONFIG_FILE", "NORMALIZER_PATTERNS", "NORMALIZER_THRESHOLDS", "NORMALIZER_WORKERS",
  "NORMALIZER_QUEUE_CAPACITY", "NORMALIZER_CLOCK_OFFSET_MINUTES"]

def environment : IO Environment := do
  let settings ← variableNames.mapM fun name => return (name, ← IO.getEnv name)
  return fun name => ((settings.lookup name).join).map Text.ofString

def fileAt (path : Text) : IO File := do
  try
    let content ← IO.FS.readBinFile (String.ofList path)
    return .readable content.toList
  catch _ =>
    try
      let _ ← IO.FS.realPath (String.ofList path)
      return .unreadable
    catch _ => return .missing

/-- Serves the lines of a stream as they come, of which `begun` is the start of the next one. -/
partial def foldLines (stream : IO.FS.Stream) (serve : Pool → List UInt8 → IO Pool)
    (begun : List UInt8) (pool : Pool) : IO Pool := do
  let chunk ← stream.read 65536
  if chunk.isEmpty then serve pool begun
  else
    let pieces := (begun ++ chunk.toList).splitOn Framing.lineFeed
    let pool ← pieces.dropLast.foldlM serve pool
    foldLines stream serve (pieces.getLast?.getD []) pool

def systemTime : IO Instant := do
  return (← Std.Time.Timestamp.now).toMillisecondsSinceUnixEpoch.val

def write (t : Text) : IO Unit := do
  let output ← IO.getStdout
  output.putStr (String.ofList t)
  output.flush

def report (fault : SetupFault) : IO Unit :=
  IO.eprintln (String.ofList (fault.message?.getD (Text.ofString fault.kind)))

def world : IO (Program.World IO) := do
  return {
    environment := ← environment
    fileAt := fileAt
    foldInput := fun serve pool => do foldLines (← IO.getStdin) serve [] pool
    time := systemTime
    write := write
    report := report }

end Syslog.Command

def main (arguments : List String) : IO UInt32 := do
  Syslog.Program.run (← Syslog.Command.world) (arguments.map Syslog.Text.ofString)
