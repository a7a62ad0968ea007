import Syslog.Proofs.Catalog.Loading
import Syslog.Setup

/-!
# Offsets in settings

The offset of the clock is set in minutes, as a number of 32 bits. Valid settings have one within a
day; its seconds are exact and less than a day, so no valid settings are refused for their offset
later on. The lowest number is not refused as the others outside a day are: it has no absolute value
in 32 bits, and validation breaks off there.
-/
namespace Syslog
open Text

namespace Checked

variable {m n p : Int32}

lemma ofInt?_eq_none_iff {value : ℤ} :
    ofInt? value = none ↔ ¬ (-half32 ≤ value ∧ value < half32) := by
  rw [ofInt?, ite_eq_right_iff]
  exact ⟨fun h hrange => Option.some_ne_none _ (h hrange), fun h hrange => absurd hrange h⟩

lemma ofInt?_eq_some_iff {value : ℤ} : ofInt? value = some n ↔ n.toInt = value := by
  rw [ofInt?, Option.ite_none_right_eq_some, Option.some.injEq]
  constructor
  · rintro ⟨⟨hlow, hhigh⟩, rfl⟩
    exact Int32.toInt_ofInt_of_le hlow hhigh
  · rintro rfl
    exact ⟨⟨n.le_toInt, n.toInt_lt⟩, Int32.ofInt_toInt n⟩

lemma abs?_eq_none_iff : abs? n = none ↔ n = Int32.minValue := by
  have hmin : Int32.minValue.toInt = -half32 := by decide
  have hlow : -(half32 : ℤ) ≤ n.toInt := n.le_toInt
  have hhigh : n.toInt < half32 := n.toInt_lt
  rw [abs?, ofInt?_eq_none_iff, ← Int32.toInt_inj, hmin]
  omega

lemma abs?_eq_some_iff : abs? n = some p ↔ p.toInt = n.toInt.natAbs := ofInt?_eq_some_iff

lemma mul?_eq_some_iff : mul? m n = some p ↔ p.toInt = m.toInt * n.toInt := ofInt?_eq_some_iff

lemma exists_mul?_sixty (h : n.toInt.natAbs ≤ 1439) :
    ∃ seconds, mul? n 60 = some seconds ∧ seconds.toInt = n.toInt * 60 := by
  have hsixty : (60 : Int32).toInt = 60 := by decide
  have hhalf : (half32 : ℤ) = 2147483648 := rfl
  cases hseconds : mul? n 60 with
  | none =>
    rw [mul?, ofInt?_eq_none_iff, hsixty, hhalf] at hseconds
    omega
  | some seconds => exact ⟨seconds, rfl, hsixty ▸ mul?_eq_some_iff.1 hseconds⟩

end Checked

namespace Settings

variable {settings : Settings}

lemma dayMinutes_le_iff {size : Int32} : dayMinutes ≤ size ↔ 1440 ≤ size.toInt := by
  rw [Int32.le_iff_toInt_le]
  rfl

theorem fault?_eq_none_iff :
    settings.fault? = none ↔ settings.workers ≠ 0 ∧ settings.queueCapacity ≠ 0 ∧
      settings.clockOffsetMinutes.toInt.natAbs ≤ 1439 ∧ settings.patternsPath ≠ some [] := by
  have hlowest : Checked.abs? settings.clockOffsetMinutes = none →
      ¬ settings.clockOffsetMinutes.toInt.natAbs ≤ 1439 := by
    intro hsize
    rw [Checked.abs?_eq_none_iff.1 hsize]
    decide
  have hday : ∀ size, Checked.abs? settings.clockOffsetMinutes = some size →
      (dayMinutes ≤ size ↔ ¬ settings.clockOffsetMinutes.toInt.natAbs ≤ 1439) := by
    intro size hsize
    rw [dayMinutes_le_iff, Checked.abs?_eq_some_iff.1 hsize]
    omega
  fun_cases fault? settings <;> simp_all

/-- Validation breaks off at the lowest offset, unless it finds a fault before. -/
theorem fault?_eq_overflow_iff :
    settings.fault? = some .overflow ↔ settings.workers ≠ 0 ∧ settings.queueCapacity ≠ 0 ∧
      settings.clockOffsetMinutes = Int32.minValue := by
  rw [← Checked.abs?_eq_none_iff]
  fun_cases fault? settings <;> simp_all

lemma fault?_ne_outOfRange (n : ℤ) :
    settings.fault? ≠ some (.invalid (ofString "clock offset out of range: " ++ ofInt n)) := by
  fun_cases fault? settings <;> simp [ofString]

end Settings

lemma Catalog.fault_of_ofSettings {settings : Settings} {patterns : Option (List UInt8)}
    {fault : SetupFault} (h : ofSettings settings patterns = .error fault) :
    fault = .patternsUnavailable ∨ ∃ line found, fault = .invalidGrammar line found := by
  rw [ofSettings] at h
  split at h
  · rw [ofFile] at h
    split at h
    · obtain ⟨_, ⟨line, index⟩, _, -, -, hfault⟩ :=
        exists_of_mapM_eq_error (ofText_eq_error_iff.1 h)
      obtain ⟨found, -, rfl⟩ := grammarOfLine_eq_error_iff.1 hfault
      exact .inr ⟨line.number, found, rfl⟩
    · exact .inl (Except.error.inj h).symm
  · cases h

namespace Collector

variable {settings : Settings} {patterns thresholds : Option (List UInt8)}

lemma ofSettings_of_fault {fault : SetupFault} (h : settings.fault? = some fault)
    (patterns thresholds : Option (List UInt8)) :
    ofSettings settings patterns thresholds = .error fault := by
  rw [ofSettings, h]
  rfl

lemma exists_ofSettings_of_valid (h : settings.fault? = none)
    (patterns thresholds : Option (List UInt8)) :
    ∃ seconds, Checked.mul? settings.clockOffsetMinutes 60 = some seconds ∧
      seconds.toInt = settings.clockOffsetMinutes.toInt * 60 ∧
      seconds.toInt.natAbs < daySeconds ∧
      ofSettings settings patterns thresholds =
        (Catalog.ofSettings settings patterns).map fun catalog =>
          new catalog (Window.ofSettings settings thresholds) (.following seconds.toInt) := by
  obtain ⟨-, -, hoffset, -⟩ := Settings.fault?_eq_none_iff.1 h
  obtain ⟨seconds, hmul, hseconds⟩ := Checked.exists_mul?_sixty hoffset
  have hrange : seconds.toInt.natAbs < daySeconds := by
    rw [hseconds, daySeconds]
    omega
  refine ⟨seconds, hmul, hseconds, hrange, ?_⟩
  rw [ofSettings, h, hmul]
  simp only [if_neg (Nat.not_le.2 hrange)]
  cases Catalog.ofSettings settings patterns <;> rfl

/-- Settings are refused for what validation finds in them, or else for their grammars. -/
theorem ofSettings_eq_error_iff {fault : SetupFault} :
    ofSettings settings patterns thresholds = .error fault ↔ settings.fault? = some fault ∨
      settings.fault? = none ∧ Catalog.ofSettings settings patterns = .error fault := by
  cases hfault : settings.fault? with
  | some found =>
    rw [ofSettings_of_fault hfault]
    simp
  | none =>
    obtain ⟨seconds, -, -, -, hcollector⟩ := exists_ofSettings_of_valid hfault patterns thresholds
    rw [hcollector]
    cases Catalog.ofSettings settings patterns <;> simp [Except.map]

/-- What becomes of the offset in settings. Validation breaks off at the lowest number, which has no
absolute value in 32 bits. Of all others those within a day are valid. Their seconds are a number of
32 bits, exact and less than a day, and the clock has them as its offset; so nothing but validation
breaks off, and no settings are refused for an offset that is out of range. -/
theorem ofSettings_offset (settings : Settings) (patterns thresholds : Option (List UInt8)) :
    let minutes := settings.clockOffsetMinutes
    (settings.fault? = some .overflow ↔
      settings.workers ≠ 0 ∧ settings.queueCapacity ≠ 0 ∧ minutes = Int32.minValue) ∧
    (settings.fault? = none ↔ settings.workers ≠ 0 ∧ settings.queueCapacity ≠ 0 ∧
      minutes.toInt.natAbs ≤ 1439 ∧ settings.patternsPath ≠ some []) ∧
    (settings.fault? = none → ∃ seconds, Checked.mul? minutes 60 = some seconds ∧
      seconds.toInt = minutes.toInt * 60 ∧ seconds.toInt.natAbs < daySeconds ∧
      ofSettings settings patterns thresholds =
        (Catalog.ofSettings settings patterns).map fun catalog =>
          new catalog (Window.ofSettings settings thresholds) (.following seconds.toInt)) ∧
    (∀ fault, ofSettings settings patterns thresholds = .error fault ↔
      settings.fault? = some fault ∨
        settings.fault? = none ∧ Catalog.ofSettings settings patterns = .error fault) ∧
    (ofSettings settings patterns thresholds = .error .overflow ↔
      settings.fault? = some .overflow) ∧
    ∀ n, ofSettings settings patterns thresholds ≠
      .error (.invalid (ofString "clock offset out of range: " ++ ofInt n)) := by
  refine ⟨Settings.fault?_eq_overflow_iff, Settings.fault?_eq_none_iff,
    fun hvalid => exists_ofSettings_of_valid hvalid patterns thresholds,
    fun fault => ofSettings_eq_error_iff, ?_, fun n hrange => ?_⟩
  · rw [ofSettings_eq_error_iff, or_iff_left]
    rintro ⟨-, hcatalog⟩
    simpa using Catalog.fault_of_ofSettings hcatalog
  · rcases ofSettings_eq_error_iff.1 hrange with hfault | ⟨-, hcatalog⟩
    · exact Settings.fault?_ne_outOfRange n hfault
    · simpa using Catalog.fault_of_ofSettings hcatalog

/-- A clock a minute short of a day west of UTC. -/
theorem ofSettings_offset_west :
    Settings.fault? ⟨none, none, 4, 1024, -1439⟩ = none ∧
      ofSettings ⟨none, none, 4, 1024, -1439⟩ none none =
        .ok (new .bundled .standard (.following (-86340))) := by
  obtain ⟨-, hvalid, hcollector, -⟩ := ofSettings_offset ⟨none, none, 4, 1024, -1439⟩ none none
  have hnone := hvalid.2 ⟨by decide, by decide, by decide, by decide⟩
  obtain ⟨seconds, -, hseconds, -, hok⟩ := hcollector hnone
  have hminutes : seconds.toInt = -86340 := hseconds.trans (by decide)
  refine ⟨hnone, hok.trans ?_⟩
  rw [hminutes]
  rfl

/-- At the lowest offset the program breaks off and does not say what is wrong with it. -/
theorem ofSettings_lowestOffset :
    let settings : Settings := ⟨none, none, 4, 1024, -2147483648⟩
    settings.clockOffsetMinutes.toInt = -2147483648 ∧ settings.fault? = some .overflow ∧
      ofSettings settings none none = .error .overflow ∧
      settings.fault? ≠ some (.invalid (ofString
        "clock_offset_minutes must be within ±1439 (got -2147483648)")) := by
  intro settings
  have hoverflow : settings.fault? = some .overflow := by decide
  refine ⟨by decide, hoverflow, ofSettings_of_fault hoverflow none none, ?_⟩
  rw [hoverflow]
  simp

end Collector
end Syslog
