import Syslog.Clock
import Syslog.SetupFault
import Syslog.Text.Utf8
import Syslog.Toml.Document

/-!
# Settings

A collector takes its settings from a file if there is one, else from the environment, and in both
cases the paths and the number of workers from the environment before all. A file that is there but
cannot be read is a fault. A setting that nobody gives has its standard value. The window comes from
a file of its own; without a usable one the standard window holds.
-/
namespace Syslog
open Text

/-- What is at the path of a file. -/
inductive File where
  | missing
  | unreadable
  | readable (content : List UInt8)
  deriving DecidableEq, Repr

def File.content? : File → Option (List UInt8)
  | readable content => some content
  | _ => none

namespace Checked

/-- The number of 32 bits with a value, if there is one. -/
def ofInt? (n : Int) : Option Int32 :=
  if -half32 ≤ n ∧ n < half32 then some (Int32.ofInt n) else none

def abs? (n : Int32) : Option Int32 := ofInt? n.toInt.natAbs

def mul? (m n : Int32) : Option Int32 := ofInt? (m.toInt * n.toInt)

end Checked

structure Settings where
  patternsPath : Option Text
  thresholdsPath : Option Text
  workers : UInt64
  queueCapacity : UInt64
  clockOffsetMinutes : Int32
  deriving DecidableEq, Repr

/-- The value of a variable of the environment that is set. -/
abbrev Environment := String → Option Text

/-- The member of a table under a key, read as a value of some type; a wrong type is a fault. -/
def Toml.Table.read {α : Type} (table : Table) (key : String) (standard : α)
    (ofValue? : Value → Option α) : Except SetupFault α :=
  match table.get? (ofString key) with
  | none => .ok standard
  | some value =>
    match ofValue? value with
    | some setting => .ok setting
    | none => .error .malformed

def Toml.Value.path? : Value → Option (Option Text)
  | .string text => some (some text)
  | _ => none

/-- An integer from `low` up to but not including `high`. -/
def Toml.Value.integer? (low high : Int) : Value → Option Int
  | .integer value => if low ≤ value ∧ value < high then some value else none
  | _ => none

def Toml.Value.word64? (value : Value) : Option UInt64 :=
  (value.integer? 0 values64).map fun n => UInt64.ofNat n.toNat

def Toml.Value.int32? (value : Value) : Option Int32 :=
  (value.integer? (-half32) half32).map Int32.ofInt

def Toml.Value.word32? (value : Value) : Option Nat := (value.integer? 0 values32).map Int.toNat

namespace Settings

def standard : Settings := ⟨none, none, 4, 1024, 0⟩

def word64? (t : Text) : Option UInt64 := (natural? values64 t).map UInt64.ofNat

def int32? (t : Text) : Option Int32 := (integer? half32 t).map Int32.ofInt

def ofTable (table : Toml.Table) : Except SetupFault Settings := do
  return {
    patternsPath := ← table.read "patterns_path" standard.patternsPath Toml.Value.path?
    thresholdsPath := ← table.read "thresholds_path" standard.thresholdsPath Toml.Value.path?
    workers := ← table.read "workers" standard.workers Toml.Value.word64?
    queueCapacity := ← table.read "queue_capacity" standard.queueCapacity Toml.Value.word64?
    clockOffsetMinutes :=
      ← table.read "clock_offset_minutes" standard.clockOffsetMinutes Toml.Value.int32? }

/-- The settings in a file, of which the content is given if there is one. -/
def ofFile (content : Option (List UInt8)) : Except SetupFault Settings :=
  match content.bind Utf8.decode? with
  | none => .error .unreadable
  | some t =>
    match Toml.document? t with
    | some table => ofTable table
    | none => .error .malformed

/-- The settings that the environment gives; a number that cannot be read counts as unset. -/
def ofEnvironment (environment : Environment) : Settings :=
  { patternsPath := environment "NORMALIZER_PATTERNS"
    thresholdsPath := environment "NORMALIZER_THRESHOLDS"
    workers := ((environment "NORMALIZER_WORKERS").bind word64?).getD standard.workers
    queueCapacity :=
      ((environment "NORMALIZER_QUEUE_CAPACITY").bind word64?).getD standard.queueCapacity
    clockOffsetMinutes :=
      ((environment "NORMALIZER_CLOCK_OFFSET_MINUTES").bind int32?).getD
        standard.clockOffsetMinutes }

/-- The settings with what the environment puts in their place. -/
def overriddenBy (settings : Settings) (environment : Environment) : Settings :=
  { settings with
    patternsPath := environment "NORMALIZER_PATTERNS" <|> settings.patternsPath
    thresholdsPath := environment "NORMALIZER_THRESHOLDS" <|> settings.thresholdsPath
    workers := ((environment "NORMALIZER_WORKERS").bind word64?).getD settings.workers }

/-- The settings of a collector, given what is at the path of its file of settings. -/
def load (file : File) (environment : Environment) : Except SetupFault Settings := do
  let settings ←
    match file with
    | .missing => pure (ofEnvironment environment)
    | _ => ofFile file.content?
  return settings.overriddenBy environment

/-- The first offset, in minutes, that is no offset of a clock. -/
def dayMinutes : Int32 := 1440

/-- Why the settings cannot be used. The offset is compared by its absolute value, which has to be a
number of 32 bits too. -/
def fault? (settings : Settings) : Option SetupFault :=
  if settings.workers = 0 then some (.invalid (ofString "workers must be > 0"))
  else if settings.queueCapacity = 0 then some (.invalid (ofString "queue_capacity must be > 0"))
  else
    match Checked.abs? settings.clockOffsetMinutes with
    | none => some .overflow
    | some size =>
      if dayMinutes ≤ size then
        some (.invalid (ofString "clock_offset_minutes must be within ±" ++
          ofInt (dayMinutes - 1).toInt ++ ofString " (got " ++
          ofInt settings.clockOffsetMinutes.toInt ++ ofString ")"))
      else if settings.patternsPath = some [] then
        some (.invalid (ofString "patterns_path must not be empty when set"))
      else none

end Settings

namespace Window

def ofTable (table : Toml.Table) : Except SetupFault Window := do
  return {
    ahead := ← table.read "ingest_ahead_minutes" standard.ahead Toml.Value.word32?
    behind := ← table.read "drop_behind_minutes" standard.behind Toml.Value.word32? }

/-- The window in a file, of which the content is given if there is one; the standard window if it
cannot be read. -/
def ofFile (content : Option (List UInt8)) : Window :=
  match (content.bind Utf8.decode?).bind Toml.document? with
  | none => standard
  | some table =>
    match ofTable table with
    | .ok window => window
    | .error _ => standard

end Window
end Syslog
