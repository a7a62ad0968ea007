import Syslog.Text.Basic

/-!
# Source markers

A listener may put `source_address=` and the sender's address into a datagram. Every marker is taken
out together with its value, which ends before the next blank, and the blanks after the value. The
first value that is not empty is the address of the sender.
-/
namespace Syslog.SourceMarker
open Text

def marker : Text := ofString "source_address="

/-- The text without its markers, and the sender's address if one of them has it. -/
def remove (t : Text) : Text × Option Text :=
  match _h : breakAt? marker t with
  | none => (t, none)
  | some (before, rest) =>
    let value := rest.takeWhile fun c => !isBlank c
    let later := remove (trimStart isBlank (rest.dropWhile fun c => !isBlank c))
    (before ++ later.1, if value = [] then later.2 else some value)
termination_by t.length
decreasing_by
  have hlength := congrArg List.length (breakAt?_eq_some _h)
  have hvalue := (rest.dropWhile_sublist fun c => !isBlank c).length_le
  have hblank := ((rest.dropWhile fun c => !isBlank c).dropWhile_sublist isBlank).length_le
  have hmarker : marker.length = 15 := by decide
  simp only [trimStart, List.length_append] at *
  omega

end Syslog.SourceMarker
