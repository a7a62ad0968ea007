import Mathlib.Data.Int.Notation
import Mathlib.Data.Nat.Notation
import Syslog.Record

/-!
# Timely readings

A reading whose instant lies in the window gives a record with that instant. Minutes count toward
zero, so a window reaches almost a minute further into the past than its number of minutes.
-/
namespace Syslog

/-- The window finds a message of the instant timely. -/
def Window.Accepts (window : Window) (instant now : Instant) : Prop :=
  window.judge (Record.minutesBetween instant now) = .timely

instance (window : Window) (instant now : Instant) : Decidable (window.Accepts instant now) :=
  inferInstanceAs (Decidable (window.judge (Record.minutesBetween instant now) = .timely))

namespace Window

lemma tdiv_minute (difference : ℤ) :
    difference.tdiv 60000 =
      if 0 ≤ difference then difference / 60000 else -(-difference / 60000) := by
  split
  · next hle => exact Int.tdiv_eq_ediv_of_nonneg hle
  · next hlt =>
    rw [← Int.tdiv_eq_ediv_of_nonneg (show 0 ≤ -difference by omega), Int.neg_tdiv, Int.neg_neg]

lemma lt_tdiv_minute_iff {difference : ℤ} {behind : ℕ} :
    (behind : ℤ) < difference.tdiv 60000 ↔ 60000 * ((behind : ℤ) + 1) ≤ difference := by
  rw [tdiv_minute]
  split <;> omega

/-- The milliseconds late up to which a message is too far ahead. All that is cut off to zero
minutes counts alike, so a window of no minutes ahead ends a minute after the reference time. -/
def Clamps (window : Window) (late : ℤ) : Prop :=
  if window.ahead = 0 then late < 60000 else late ≤ -(60000 * (window.ahead : ℤ))

instance (window : Window) (late : ℤ) : Decidable (window.Clamps late) :=
  inferInstanceAs (Decidable (ite _ _ _))

lemma tdiv_minute_le_iff {window : Window} {late : ℤ} :
    late.tdiv 60000 ≤ -(window.ahead : ℤ) ↔ window.Clamps late := by
  rw [tdiv_minute, Clamps]
  split <;> split <;> omega

/-- How a window judges a message that is some milliseconds late. -/
theorem judge_tdiv_minute (window : Window) (late : ℤ) :
    window.judge (late.tdiv 60000) =
      if 60000 * ((window.behind : ℤ) + 1) ≤ late then .stale
      else if window.Clamps late then .ahead else .timely := by
  have hahead : -(window.ahead : ℤ) < late.tdiv 60000 ↔ ¬ window.Clamps late := by
    rw [← tdiv_minute_le_iff, Int.not_le]
  rw [judge]
  simp only [lt_tdiv_minute_iff, hahead, ite_not]

end Window

lemma Record.ofReading_of_accepts {reading : Reading} {now : Moment} {window : Window}
    {instant : Instant} (hinstant : reading.instant now = .ok instant)
    (haccepts : window.Accepts instant now.instant) (address : Option Text) :
    ofReading reading now window address = .ok (withTime reading address instant false) := by
  rw [Window.Accepts] at haccepts
  simp only [ofReading, hinstant, bind, Except.bind, haccepts]
  rfl

end Syslog
