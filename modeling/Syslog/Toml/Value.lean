import Syslog.Text.Basic

/-!
# TOML values

A document is a table: keys with their values, each key once. A table remembers how it came about,
which decides whether later lines may add to it. A float or a date and time is kept as its text.
-/
namespace Syslog.Toml

/-- How a table came about. -/
inductive Origin where
  /-- As a part of the path of a longer header. -/
  | implied
  | header
  /-- As a part of a key with points. -/
  | dotted
  /-- Between braces; such a table is complete. -/
  | inline
  deriving DecidableEq, Repr

inductive Value where
  | string (text : Text)
  | integer (value : Int)
  | float (text : Text)
  | boolean (value : Bool)
  | dateTime (text : Text)
  | array (items : List Value)
  | table (origin : Origin) (members : List (Text × Value))
  /-- The tables that headers in double brackets add to a list, the latest first. -/
  | tables (elements : List (List (Text × Value)))

abbrev Table := List (Text × Value)

namespace Table

def get? (table : Table) (key : Text) : Option Value := table.lookup key

/-- Gives a key a value; a key that is there keeps its place. -/
def put (table : Table) (key : Text) (value : Value) : Table :=
  if (table.get? key).isSome then
    table.map fun member => if member.1 == key then (key, value) else member
  else table ++ [(key, value)]

/-- Gives a value to a key with points. On the way there may be tables that longer headers or such
keys made, and lists of tables, of which the latest counts. The table that gets the value is `own`,
the one in which the key is written, or one that only keys with points made. -/
def define? (own : Bool) (table : Table) : List Text → Value → Option Table
  | [], _ => none
  | [key], value => if own ∧ (table.get? key).isNone then some (table.put key value) else none
  | key :: path, value =>
    match table.get? key with
    | none => (define? true [] path value).map fun members => table.put key (.table .dotted members)
    | some (.table .dotted members) =>
      (define? true members path value).map fun members => table.put key (.table .dotted members)
    | some (.table .implied members) =>
      (define? false members path value).map fun members => table.put key (.table .implied members)
    | some (.tables (members :: earlier)) =>
      (define? false members path value).map fun members =>
        table.put key (.tables (members :: earlier))
    | some _ => none

/-- Changes the table at the path of a header. Tables on the way are made where there are none; of
tables in a list the latest counts. -/
def changeAt? (change : Table → Option Table) (table : Table) : List Text → Option Table
  | [] => change table
  | key :: path =>
    match table.get? key with
    | none =>
      (changeAt? change [] path).map fun members => table.put key (.table .implied members)
    | some (.table origin members) =>
      if origin = .inline then none
      else (changeAt? change members path).map fun members => table.put key (.table origin members)
    | some (.tables (members :: earlier)) =>
      (changeAt? change members path).map fun members =>
        table.put key (.tables (members :: earlier))
    | some _ => none

/-- Opens the table of a header, which no earlier line may have made. -/
def openTable? (key : Text) (table : Table) : Option Table :=
  match table.get? key with
  | none => some (table.put key (.table .header []))
  | some (.table .implied members) => some (table.put key (.table .header members))
  | some _ => none

/-- Adds a table to the list of a header in double brackets. -/
def addTable? (key : Text) (table : Table) : Option Table :=
  match table.get? key with
  | none => some (table.put key (.tables [[]]))
  | some (.tables elements) => some (table.put key (.tables ([] :: elements)))
  | some _ => none

end Table
end Syslog.Toml
