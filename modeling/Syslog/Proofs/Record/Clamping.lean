import Syslog.Proofs.Record.Undated

/-!
# Clamped records

A record is marked as clamped if its message claimed a time too far ahead. Under a window that
tolerates a minute ahead or more, the mark says so: the message told its time, and one later than
that of the clock. A window without a minute ahead marks all that is less than a minute late, even
what the clock itself has dated.
-/
namespace Syslog
open Text

/-- The message tells its time, and one that is later than that of the clock. -/
def Reading.ClaimsLater (reading : Reading) (now : Moment) : Prop :=
  reading.date.origin = .message ∧
    ∃ instant, reading.instant now = .ok instant ∧ now.instant < instant

namespace Record

variable {reading : Reading} {now : Moment} {window : Window} {address : Option Text}
  {record : Record}

lemma exists_instant_of_ofReading (h : ofReading reading now window address = .ok record) :
    ∃ instant, reading.instant now = .ok instant ∧
      (record.clamped = true ↔ window.Clamps (now.instant - instant)) := by
  cases hinstant : reading.instant now with
  | error discard =>
    rw [ofReading, hinstant] at h
    cases h
  | ok instant =>
    refine ⟨instant, rfl, ?_⟩
    rw [ofReading_of_instant hinstant, minutesBetween, window.judge_tdiv_minute] at h
    split_ifs at h with hstale hclamps
    · obtain rfl := Except.ok.inj h
      exact iff_of_true rfl hclamps
    · obtain rfl := Except.ok.inj h
      exact iff_of_false Bool.false_ne_true hclamps

lemma clamps_iff (h : 0 < window.ahead) {instant now : ℤ} :
    window.Clamps (now - instant) ↔ now + 60000 * (window.ahead : ℤ) ≤ instant := by
  rw [Window.Clamps, if_neg (Nat.ne_of_gt h)]
  omega

lemma clamps_iff_of_ahead_eq_zero (h : window.ahead = 0) {instant now : ℤ} :
    window.Clamps (now - instant) ↔ now < instant + 60000 := by
  rw [Window.Clamps, if_pos h]
  omega

lemma claimsLater_of_clamps (h : 0 < window.ahead) {instant : Instant}
    (hinstant : reading.instant now = .ok instant)
    (hclamps : window.Clamps (now.instant - instant)) : reading.ClaimsLater now := by
  have hlater : now.instant < instant := by
    refine Int.lt_of_lt_of_le ?_ ((clamps_iff h).1 hclamps)
    exact Int.lt_add_of_pos_right _ (by omega)
  refine ⟨?_, instant, hinstant, hlater⟩
  cases horigin : reading.date.origin with
  | message => rfl
  | clock =>
    rw [Reading.instant, horigin] at hinstant
    obtain rfl := Except.ok.inj hinstant
    exact absurd hlater (Int.lt_irrefl _)

/-- The mark of a clamped record says that its message claimed a later time exactly under the
windows that tolerate a minute ahead. It then stands for the full minutes of the window; without any
it stands for a message that is less than a minute late. -/
theorem claimsLater_of_clamped_iff (window : Window) :
    ((∀ (reading : Reading) (now : Moment) (address : Option Text) (record : Record),
        ofReading reading now window address = .ok record → record.clamped = true →
          reading.ClaimsLater now) ↔ 0 < window.ahead) ∧
    ∀ (reading : Reading) (now : Moment) (address : Option Text) (record : Record),
      ofReading reading now window address = .ok record →
        ∃ instant, reading.instant now = .ok instant ∧
          (0 < window.ahead → (record.clamped = true ↔
            now.instant + 60000 * (window.ahead : ℤ) ≤ instant)) ∧
          (window.ahead = 0 → (record.clamped = true ↔ now.instant < instant + 60000)) := by
  refine ⟨⟨fun hlaw => ?_, fun hahead reading now address record hrecord hclamped => ?_⟩,
    fun reading now address record hrecord => ?_⟩
  · -- the clock dates a record that a window without a minute ahead clamps
    refine Nat.pos_of_ne_zero fun hahead => ?_
    have horigin : (⟨0, ⟨[]⟩, ⟨[], .clock⟩⟩ : Reading).date.origin = .clock := rfl
    have hclaims := hlaw _ ⟨0, 0⟩ none _ (ofReading_of_clock horigin window none)
      (decide_eq_true hahead)
    cases hclaims.1
  · obtain ⟨instant, hinstant, hmark⟩ := exists_instant_of_ofReading hrecord
    exact claimsLater_of_clamps hahead hinstant (hmark.1 hclamped)
  · obtain ⟨instant, hinstant, hmark⟩ := exists_instant_of_ofReading hrecord
    exact ⟨instant, hinstant, fun hahead => hmark.trans (clamps_iff hahead),
      fun hahead => hmark.trans (clamps_iff_of_ahead_eq_zero hahead)⟩

def early : Reading := ⟨7, ⟨[("message", ['x'])]⟩, ⟨ofString "Jun 02 2024 02:00:06", .message⟩⟩

/-- A minute ahead is too far for a window of one minute, and a millisecond less is not. -/
theorem claimsLater_early :
    (∃ record, ofReading early ⟨1717293546000, 0⟩ ⟨1, 0⟩ none = .ok record ∧
      record.clamped = true ∧ early.ClaimsLater ⟨1717293546000, 0⟩) ∧
    ∃ record, ofReading early ⟨1717293546001, 0⟩ ⟨1, 0⟩ none = .ok record ∧
      record.clamped = false := by
  obtain ⟨hlaw, hmark⟩ := claimsLater_of_clamped_iff ⟨1, 0⟩
  have hclamped : ofReading early ⟨1717293546000, 0⟩ ⟨1, 0⟩ none =
      .ok (withTime early none 1717293546000 true) := by decide +kernel
  have htimely : ofReading early ⟨1717293546001, 0⟩ ⟨1, 0⟩ none =
      .ok (withTime early none 1717293606000 false) := by decide +kernel
  have htold : early.instant ⟨1717293546001, 0⟩ = .ok 1717293606000 := by decide +kernel
  refine ⟨⟨_, hclamped, rfl, hlaw.2 (by decide) _ _ _ _ hclamped rfl⟩, _, htimely, ?_⟩
  obtain ⟨instant, hinstant, hahead, -⟩ := hmark _ _ _ _ htimely
  obtain rfl : instant = 1717293606000 := Except.ok.inj (hinstant.symm.trans htold)
  exact Bool.eq_false_iff.2 (mt (hahead (by decide)).1 (by decide))

/-- Without a minute ahead, a record has the mark although the clock has dated it, and although its
message is half a minute late. -/
theorem clamped_undated_and_late :
    let undated : Reading :=
      ⟨22, ⟨[("message", ['x'])]⟩, ⟨ofString "2024-06-02T01:59:06+00:00", .clock⟩⟩
    (∃ record, ofReading undated ⟨1717293546000, 0⟩ ⟨0, 43200⟩ none = .ok record ∧
      record.clamped = true ∧ ¬ undated.ClaimsLater ⟨1717293546000, 0⟩) ∧
    ∃ record, ofReading early ⟨1717293636000, 0⟩ ⟨0, 43200⟩ none = .ok record ∧
      record.clamped = true ∧ ¬ early.ClaimsLater ⟨1717293636000, 0⟩ := by
  intro undated
  have hlate : ofReading early ⟨1717293636000, 0⟩ ⟨0, 43200⟩ none =
      .ok (withTime early none 1717293636000 true) := by decide +kernel
  have htold : early.instant ⟨1717293636000, 0⟩ = .ok 1717293606000 := by decide +kernel
  refine ⟨⟨_, ofReading_of_clock rfl _ _, rfl, fun hclaims => ?_⟩, _, hlate, rfl, fun hclaims => ?_⟩
  · cases hclaims.1
  · obtain ⟨-, instant, hinstant, hlater⟩ := hclaims
    obtain rfl : instant = 1717293606000 := Except.ok.inj (hinstant.symm.trans htold)
    exact absurd hlater (by decide)

end Record
end Syslog
