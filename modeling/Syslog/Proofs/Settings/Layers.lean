import Syslog.Proofs.Text.Encoding
import Syslog.Proofs.Toml.Lines
import Syslog.Settings

/-!
# Layers of settings

The environment and a file each give some of the settings, and what neither gives is standard. A
file gives a setting where its table has the name of the setting with a value of its type.
-/
namespace Syslog
open Text

lemma bind_eq_ok_iff {ε α β : Type} {x : Except ε α} {f : α → Except ε β} {b : β} :
    x >>= f = .ok b ↔ ∃ a, x = .ok a ∧ f a = .ok b := by
  cases x with
  | error fault => exact iff_of_false (by simp [bind, Except.bind]) (by simp)
  | ok a => simp [bind, Except.bind]

namespace Toml

variable {value : Value}

lemma Value.path?_eq_some_iff {path : Option Text} :
    value.path? = some path ↔ ∃ text, value = .string text ∧ some text = path := by
  cases value <;> simp [path?]

lemma Value.integer?_eq_some_iff {low high n : ℤ} :
    value.integer? low high = some n ↔ value = .integer n ∧ low ≤ n ∧ n < high := by
  cases value with
  | integer m =>
    rw [integer?, Option.ite_none_right_eq_some, Option.some.injEq, Value.integer.injEq]
    constructor
    · rintro ⟨hrange, rfl⟩
      exact ⟨rfl, hrange⟩
    · rintro ⟨rfl, hrange⟩
      exact ⟨hrange, rfl⟩
  | _ => simp [integer?]

lemma Value.word64?_eq_some_iff (value : Value) (n : UInt64) :
    value.word64? = some n ↔ value = .integer n.toNat := by
  rw [word64?, Option.map_eq_some_iff]
  constructor
  · rintro ⟨m, hm, rfl⟩
    obtain ⟨rfl, hlow, hhigh⟩ := integer?_eq_some_iff.1 hm
    have hsize : m.toNat < UInt64.size := (Int.toNat_lt hlow).2 hhigh
    rw [UInt64.toNat_ofNat_of_lt' hsize, Int.toNat_of_nonneg hlow]
  · rintro rfl
    have hlt : (n.toNat : ℤ) < (values64 : ℤ) := Int.ofNat_lt.2 n.toNat_lt
    exact ⟨n.toNat, integer?_eq_some_iff.2 ⟨rfl, Int.natCast_nonneg _, hlt⟩, by simp⟩

lemma Value.int32?_eq_some_iff (value : Value) (n : Int32) :
    value.int32? = some n ↔ value = .integer n.toInt := by
  rw [int32?, Option.map_eq_some_iff]
  constructor
  · rintro ⟨m, hm, rfl⟩
    obtain ⟨rfl, hlow, hhigh⟩ := integer?_eq_some_iff.1 hm
    rw [Int32.toInt_ofInt_of_le hlow hhigh]
  · rintro rfl
    exact ⟨n.toInt, integer?_eq_some_iff.2 ⟨rfl, n.le_toInt, n.toInt_lt⟩, by simp⟩

variable {table : Table} {key : String}

lemma Table.read_eq_ok_iff {α : Type} {standard a : α} {ofValue? : Value → Option α} :
    table.read key standard ofValue? = .ok a ↔
      (table.get? (ofString key) = none ∧ standard = a) ∨
        ∃ value, table.get? (ofString key) = some value ∧ ofValue? value = some a := by
  rw [read]
  cases table.get? (ofString key) with
  | none => simp
  | some value => cases hvalue : ofValue? value <;> simp [hvalue]

lemma Table.read_path_eq_ok_iff {path : Option Text} :
    table.read key none Value.path? = .ok path ↔
      table.get? (ofString key) = path.map .string := by
  simp only [read_eq_ok_iff, Value.path?_eq_some_iff]
  cases path <;> simp

lemma Table.read_eq_ok_iff_exists {α : Type} {standard a : α} {ofValue? : Value → Option α}
    {toValue : α → Value} (h : ∀ value a, ofValue? value = some a ↔ value = toValue a) :
    table.read key standard ofValue? = .ok a ↔
      ∃ told : Option α, table.get? (ofString key) = told.map toValue ∧
        told.getD standard = a := by
  rw [read_eq_ok_iff]
  constructor
  · rintro (⟨hget, rfl⟩ | ⟨value, hget, hvalue⟩)
    · exact ⟨none, hget, rfl⟩
    · exact ⟨some a, by rw [hget, (h value a).1 hvalue]; rfl, rfl⟩
  · rintro ⟨_ | told, hget, rfl⟩
    · exact .inl ⟨hget, rfl⟩
    · exact .inr ⟨toValue told, hget, (h _ _).2 rfl⟩

end Toml

namespace Settings

/-- What one source gives of the settings. -/
structure Layer where
  patternsPath : Option Text
  thresholdsPath : Option Text
  workers : Option UInt64
  queueCapacity : Option UInt64
  clockOffsetMinutes : Option Int32
  deriving DecidableEq, Repr

namespace Layer

def empty : Layer := ⟨none, none, none, none, none⟩

def ofEnvironment (environment : Environment) : Layer :=
  { patternsPath := environment "NORMALIZER_PATTERNS"
    thresholdsPath := environment "NORMALIZER_THRESHOLDS"
    workers := (environment "NORMALIZER_WORKERS").bind word64?
    queueCapacity := (environment "NORMALIZER_QUEUE_CAPACITY").bind word64?
    clockOffsetMinutes := (environment "NORMALIZER_CLOCK_OFFSET_MINUTES").bind int32? }

/-- What the upper layer gives, and the lower one where the upper gives nothing. -/
def above (upper lower : Layer) : Layer :=
  { patternsPath := upper.patternsPath <|> lower.patternsPath
    thresholdsPath := upper.thresholdsPath <|> lower.thresholdsPath
    workers := upper.workers <|> lower.workers
    queueCapacity := upper.queueCapacity <|> lower.queueCapacity
    clockOffsetMinutes := upper.clockOffsetMinutes <|> lower.clockOffsetMinutes }

lemma above_empty (layer : Layer) : layer.above empty = layer := by
  simp [above, empty]

/-- The settings of a layer, with the standard numbers where it gives none. No path is standard. -/
def settings (layer : Layer) : Settings :=
  { patternsPath := layer.patternsPath
    thresholdsPath := layer.thresholdsPath
    workers := layer.workers.getD standard.workers
    queueCapacity := layer.queueCapacity.getD standard.queueCapacity
    clockOffsetMinutes := layer.clockOffsetMinutes.getD standard.clockOffsetMinutes }

/-- The table has the settings of the layer under their names, and no others of these names. -/
structure Tells (table : Toml.Table) (layer : Layer) : Prop where
  patternsPath : table.get? (ofString "patterns_path") = layer.patternsPath.map .string
  thresholdsPath : table.get? (ofString "thresholds_path") = layer.thresholdsPath.map .string
  workers : table.get? (ofString "workers") = layer.workers.map fun n => .integer n.toNat
  queueCapacity :
    table.get? (ofString "queue_capacity") = layer.queueCapacity.map fun n => .integer n.toNat
  clockOffsetMinutes : table.get? (ofString "clock_offset_minutes") =
    layer.clockOffsetMinutes.map fun n => .integer n.toInt

/-- What is at the path of a file of settings gives a layer: none of the settings if there is no
file, and those in the table of a document. -/
inductive Gives : File → Layer → Prop where
  | missing : Gives .missing empty
  | document {content : List UInt8} {t : Text} {table : Toml.Table} {layer : Layer}
      (htext : Utf8.decode? content = some t) (htable : Toml.document? t = some table)
      (htold : Tells table layer) : Gives (.readable content) layer

/-- A table is read where it tells a layer, and only there. -/
theorem ofTable_eq_ok_iff {table : Toml.Table} {settings : Settings} :
    ofTable table = .ok settings ↔ ∃ layer, Tells table layer ∧ layer.settings = settings := by
  simp only [ofTable, bind_eq_ok_iff, standard, Toml.Table.read_path_eq_ok_iff,
    Toml.Table.read_eq_ok_iff_exists Toml.Value.word64?_eq_some_iff,
    Toml.Table.read_eq_ok_iff_exists Toml.Value.int32?_eq_some_iff]
  constructor
  · rintro ⟨patternsPath, hpatterns, thresholdsPath, hthresholds, _, ⟨workers, hworkers, rfl⟩, _,
      ⟨queueCapacity, hcapacity, rfl⟩, _, ⟨clockOffsetMinutes, hoffset, rfl⟩, heq⟩
    refine ⟨⟨patternsPath, thresholdsPath, workers, queueCapacity, clockOffsetMinutes⟩,
      ⟨hpatterns, hthresholds, hworkers, hcapacity, hoffset⟩, ?_⟩
    rw [← Except.ok.inj heq]
    rfl
  · rintro ⟨layer, htells, rfl⟩
    exact ⟨_, htells.patternsPath, _, htells.thresholdsPath, _, ⟨_, htells.workers, rfl⟩, _,
      ⟨_, htells.queueCapacity, rfl⟩, _, ⟨_, htells.clockOffsetMinutes, rfl⟩, rfl⟩

section Written

/-- The settings by their names in a file. -/
def members (layer : Layer) : List (Text × Option Toml.Scalar) :=
  [(ofString "patterns_path", layer.patternsPath.map .string),
    (ofString "thresholds_path", layer.thresholdsPath.map .string),
    (ofString "workers", layer.workers.map fun n => .integer n.toNat),
    (ofString "queue_capacity", layer.queueCapacity.map fun n => .integer n.toNat),
    (ofString "clock_offset_minutes", layer.clockOffsetMinutes.map fun n => .integer n.toInt)]

def entries (layer : Layer) : List (Text × Toml.Scalar) :=
  layer.members.filterMap fun member => member.2.map (member.1, ·)

/-- A file that gives the layer. -/
def text (layer : Layer) : Text := layer.entries.flatMap Toml.lineText

variable {layer : Layer}

lemma keys_members (layer : Layer) : layer.members.map Prod.fst =
    ["patterns_path", "thresholds_path", "workers", "queue_capacity",
      "clock_offset_minutes"].map ofString := rfl

lemma nodup_keys_members (layer : Layer) : (layer.members.map Prod.fst).Nodup := by
  rw [keys_members]
  decide

lemma fits_of_mem_members {member : Text × Option Toml.Scalar} (h : member ∈ layer.members) :
    ∀ scalar ∈ member.2, scalar.Fits := by
  have hword : ∀ n : UInt64, (Toml.Scalar.integer n.toNat).Fits := fun n =>
    Toml.Scalar.fits_integer (Int.le_trans (by decide) (Int.natCast_nonneg _))
      (Int.ofNat_lt.2 n.toNat_lt)
  have hint : ∀ n : Int32, (Toml.Scalar.integer n.toInt).Fits := fun n =>
    Toml.Scalar.fits_integer (Int.le_trans (by decide) n.le_toInt)
      (Int.lt_of_lt_of_le n.toInt_lt (by decide))
  simp only [members, List.mem_cons, List.not_mem_nil, or_false] at h
  rcases h with rfl | rfl | rfl | rfl | rfl <;> intro scalar hscalar <;>
    obtain ⟨told, -, rfl⟩ := Option.map_eq_some_iff.1 hscalar
  · trivial
  · trivial
  · exact hword told
  · exact hword told
  · exact hint told

lemma keys_sublist {β : Type} (members : List (Text × Option β)) :
    ((members.filterMap fun member => member.2.map (member.1, ·)).map Prod.fst).Sublist
      (members.map Prod.fst) := by
  induction members with
  | nil => exact List.Sublist.refl []
  | cons member members ih =>
    obtain ⟨name, _ | b⟩ := member
    · exact ih.cons name
    · exact ih.cons_cons name

lemma lookup_filterMap {β γ : Type} {members : List (Text × Option β)}
    (hkeys : (members.map Prod.fst).Nodup) (f : β → γ) (key : Text) :
    ((members.filterMap fun member => member.2.map (member.1, ·)).map
        fun entry => (entry.1, f entry.2)).lookup key =
      ((members.lookup key).join).map f := by
  induction members with
  | nil => rfl
  | cons member members ih =>
    rw [List.map_cons, List.nodup_cons] at hkeys
    obtain ⟨hname, hkeys⟩ := hkeys
    have ih := ih hkeys
    by_cases hkey : key = member.1
    · subst hkey
      obtain ⟨name, _ | b⟩ := member
      · have hlookup : members.lookup name = none := Toml.lookup_eq_none_of_notMem hname
        rw [hlookup] at ih
        simpa using ih
      · simp
    · have hne : (key == member.1) = false := beq_false_of_ne hkey
      obtain ⟨name, _ | b⟩ := member
      · simpa [List.lookup_cons, hne] using ih
      · simpa [List.lookup_cons, hne] using ih

lemma tells_entries (layer : Layer) :
    Tells (layer.entries.map fun entry => (entry.1, entry.2.value)) layer := by
  have hget : ∀ name : String,
      Toml.Table.get? (layer.entries.map fun entry => (entry.1, entry.2.value)) (ofString name) =
        ((layer.members.lookup (ofString name)).join).map Toml.Scalar.value :=
    fun name => lookup_filterMap (nodup_keys_members layer) Toml.Scalar.value (ofString name)
  constructor <;> exact (hget _).trans (Option.map_map ..)

theorem gives_text (layer : Layer) : Gives (.readable (Utf8.encode layer.text)) layer := by
  have hentries : ∀ entry ∈ layer.entries, Toml.IsBareKey entry.1 ∧ entry.2.Fits := by
    intro entry hentry
    obtain ⟨member, hmember, heq⟩ := List.mem_filterMap.1 hentry
    obtain ⟨scalar, hscalar, rfl⟩ := Option.map_eq_some_iff.1 heq
    have hbare : ∀ key ∈ layer.members.map Prod.fst, Toml.IsBareKey key := by
      rw [keys_members]
      decide
    exact ⟨hbare _ (List.mem_map_of_mem hmember), fits_of_mem_members hmember scalar hscalar⟩
  have hkeys : (layer.entries.map Prod.fst).Nodup :=
    (nodup_keys_members layer).sublist (keys_sublist layer.members)
  exact .document (Utf8.decode?_encode _) (Toml.document?_lines hentries hkeys)
    (tells_entries layer)

end Written

end Layer

section Loading

variable {file : File} {layer : Layer} {environment : Environment}

/-- The environment over a file, beside which it is not asked for the capacity and the offset. -/
def Layer.overriding (environment : Environment) : Layer :=
  { ofEnvironment environment with queueCapacity := none, clockOffsetMinutes := none }

lemma ofFile_eq_ok_iff {content : List UInt8} {settings : Settings} :
    ofFile (some content) = .ok settings ↔
      ∃ layer, Layer.Gives (.readable content) layer ∧ layer.settings = settings := by
  constructor
  · intro h
    rw [ofFile] at h
    split at h
    · cases h
    · next t htext =>
      split at h
      · next table htable =>
        obtain ⟨layer, htells, rfl⟩ := Layer.ofTable_eq_ok_iff.1 h
        exact ⟨layer, .document htext htable htells, rfl⟩
      · cases h
  · rintro ⟨layer, hgives, rfl⟩
    cases hgives with
    | document htext htable htells =>
      rw [ofFile, Option.bind_some, htext]
      simp only [htable]
      exact Layer.ofTable_eq_ok_iff.2 ⟨layer, htells, rfl⟩

lemma getD_above {α : Type} (upper lower : Option α) (standard : α) :
    (upper <|> lower).getD standard = upper.getD (lower.getD standard) := by
  cases upper <;> rfl

lemma getD_eq_getD_above_iff {α : Type} {upper lower : Option α} {standard : α} :
    lower.getD standard = (upper <|> lower).getD standard ↔
      ∀ a ∈ upper, a = lower.getD standard := by
  cases upper <;> simp [eq_comm]

lemma settings_overriddenBy (layer : Layer) (environment : Environment) :
    layer.settings.overriddenBy environment =
      ((Layer.overriding environment).above layer).settings := by
  simp only [overriddenBy, Layer.settings, Layer.above, Layer.overriding, Layer.ofEnvironment,
    getD_above]
  rfl

lemma load_missing (environment : Environment) :
    load .missing environment = .ok (Layer.ofEnvironment environment).settings := by
  have hself : (Layer.overriding environment).above (Layer.ofEnvironment environment) =
      Layer.ofEnvironment environment := by
    simp [Layer.above, Layer.overriding, Layer.ofEnvironment]
  change Except.ok ((Layer.ofEnvironment environment).settings.overriddenBy environment) = _
  rw [settings_overriddenBy, hself]

lemma load_of_gives {content : List UInt8} (h : Layer.Gives (.readable content) layer)
    (environment : Environment) : load (.readable content) environment =
      .ok ((Layer.overriding environment).above layer).settings := by
  have hfile : ofFile (some content) = .ok layer.settings := ofFile_eq_ok_iff.2 ⟨layer, h, rfl⟩
  change (ofFile (some content)).bind (fun settings => .ok (settings.overriddenBy environment)) = _
  rw [hfile]
  exact congrArg Except.ok (settings_overriddenBy layer environment)

/-- What is loaded. The paths and the workers are the environment's before the file's, and the
file's before the standard. So are the capacity and the offset without a file, but where there is
one the environment does not count for them. -/
theorem load_layers (hgives : Layer.Gives file layer) (environment : Environment) :
    let told := Layer.ofEnvironment environment
    ∃ settings, load file environment = .ok settings ∧
      settings.patternsPath = (told.patternsPath <|> layer.patternsPath) ∧
      settings.thresholdsPath = (told.thresholdsPath <|> layer.thresholdsPath) ∧
      settings.workers = (told.workers <|> layer.workers).getD standard.workers ∧
      (file = .missing →
        settings.queueCapacity = told.queueCapacity.getD standard.queueCapacity ∧
        settings.clockOffsetMinutes =
          told.clockOffsetMinutes.getD standard.clockOffsetMinutes) ∧
      (file ≠ .missing →
        settings.queueCapacity = layer.queueCapacity.getD standard.queueCapacity ∧
        settings.clockOffsetMinutes =
          layer.clockOffsetMinutes.getD standard.clockOffsetMinutes) ∧
      (settings = (told.above layer).settings ↔ file ≠ .missing →
        (∀ n ∈ told.queueCapacity, n = layer.queueCapacity.getD standard.queueCapacity) ∧
        ∀ n ∈ told.clockOffsetMinutes,
          n = layer.clockOffsetMinutes.getD standard.clockOffsetMinutes) := by
  intro told
  cases hgives with
  | missing =>
    have htold : told = told.above .empty := (Layer.above_empty told).symm
    refine ⟨_, load_missing environment, congrArg Layer.patternsPath htold,
      congrArg Layer.thresholdsPath htold, congrArg (fun layer => layer.settings.workers) htold,
      fun _ => ⟨rfl, rfl⟩, fun h => absurd rfl h, ?_⟩
    exact iff_of_true (congrArg Layer.settings htold) fun h => absurd rfl h
  | document htext htable htells =>
    refine ⟨_, load_of_gives (.document htext htable htells) environment, rfl, rfl, rfl,
      fun h => absurd h (by simp), fun _ => ⟨rfl, rfl⟩, ?_⟩
    have hsettings : ((Layer.overriding environment).above layer).settings =
        (told.above layer).settings ↔
          (layer.queueCapacity.getD standard.queueCapacity =
              (told.queueCapacity <|> layer.queueCapacity).getD standard.queueCapacity ∧
            layer.clockOffsetMinutes.getD standard.clockOffsetMinutes =
              (told.clockOffsetMinutes <|> layer.clockOffsetMinutes).getD
                standard.clockOffsetMinutes) := by
      rw [Layer.settings, Layer.settings, Settings.mk.injEq]
      exact ⟨fun h => h.2.2.2, fun h => ⟨rfl, rfl, rfl, h⟩⟩
    rw [hsettings, getD_eq_getD_above_iff, getD_eq_getD_above_iff]
    simp

/-- Workers of the environment before those of a file; a capacity that is no number is as unset. -/
theorem load_layers_workers :
    let layer : Layer := ⟨some (ofString "grammars"), none, some 2, some 64, none⟩
    let environment : Environment := fun name =>
      [("NORMALIZER_WORKERS", ofString "8"),
        ("NORMALIZER_QUEUE_CAPACITY", ofString "many")].lookup name
    Layer.Gives (.readable (Utf8.encode layer.text)) layer ∧
      load (.readable (Utf8.encode layer.text)) environment =
        .ok ⟨some (ofString "grammars"), none, 8, 64, 0⟩ := by
  intro layer environment
  have hgives := layer.gives_text
  obtain ⟨settings, hload, -, -, -, -, -, hover⟩ := load_layers hgives environment
  have hcapacity : (Layer.ofEnvironment environment).queueCapacity = none := by decide
  have hoffset : (Layer.ofEnvironment environment).clockOffsetMinutes = none := by decide
  refine ⟨hgives, hload.trans (congrArg Except.ok ?_)⟩
  rw [hover.2 fun _ => ⟨by simp [hcapacity], by simp [hoffset]⟩]
  decide

/-- A file that says nothing of the capacity and the offset hides those of the environment. -/
theorem load_hidden :
    let layer : Layer := ⟨none, none, some 2, none, none⟩
    let environment : Environment := fun name =>
      [("NORMALIZER_QUEUE_CAPACITY", ofString "7"),
        ("NORMALIZER_CLOCK_OFFSET_MINUTES", ofString "120")].lookup name
    let file := File.readable (Utf8.encode (ofString "workers = 2\n"))
    Layer.Gives file layer ∧ load file environment = .ok ⟨none, none, 2, 1024, 0⟩ ∧
      ((Layer.ofEnvironment environment).above layer).settings = ⟨none, none, 2, 7, 120⟩ := by
  intro layer environment file
  have htext : layer.text = ofString "workers = 2\n" := by decide
  have hgives : Layer.Gives file layer := by
    have htold := layer.gives_text
    rwa [htext] at htold
  refine ⟨hgives, (load_of_gives hgives environment).trans (congrArg Except.ok ?_), ?_⟩
  · decide
  · decide

end Loading

end Settings
end Syslog
