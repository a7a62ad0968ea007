import Syslog.Text.Basic

/-!
# Fields

The values that a grammar takes out of a message, by name, in the order of their first insertion.
An empty value is no value: inserting one removes the name. A name whose value is replaced keeps
its place; a name that was removed goes to the end when it comes back.
-/
namespace Syslog

structure Fields where
  entries : List (String × Text)
  deriving DecidableEq, Repr

namespace Fields

def empty : Fields := ⟨[]⟩

def get? (fields : Fields) (name : String) : Option Text := fields.entries.lookup name

def contains (fields : Fields) (name : String) : Bool := (fields.get? name).isSome

def size (fields : Fields) : Nat := fields.entries.length

def isEmpty (fields : Fields) : Bool := fields.entries.isEmpty

def names (fields : Fields) : List String := fields.entries.map Prod.fst

def erase (fields : Fields) (name : String) : Fields :=
  ⟨fields.entries.filter fun entry => entry.1 != name⟩

/-- Takes the first entry of a name out and tells the value that it had. -/
def remove (fields : Fields) (name : String) : Option Text × Fields :=
  match fields.entries.findIdx? fun entry => entry.1 == name with
  | none => (none, fields)
  | some i => (fields.entries[i]?.map Prod.snd, ⟨fields.entries.eraseIdx i⟩)

def insert (fields : Fields) (name : String) (value : Text) : Fields :=
  if value = [] then fields.erase name
  else if fields.contains name then
    ⟨fields.entries.map fun entry => if entry.1 == name then (name, value) else entry⟩
  else ⟨fields.entries ++ [(name, value)]⟩

def ofList (entries : List (String × Text)) : Fields :=
  entries.foldl (fun fields entry => fields.insert entry.1 entry.2) empty

/-- What every map built by insertions satisfies: no name twice, no empty value. -/
def WellFormed (fields : Fields) : Prop :=
  fields.names.Nodup ∧ ∀ entry ∈ fields.entries, entry.2 ≠ []

@[simp] theorem get?_empty (name : String) : empty.get? name = none := rfl

theorem wellFormed_empty : empty.WellFormed := by simp [WellFormed, names, empty]

theorem lookup_cons_ite (entries : List (String × Text)) (name other : String) (value : Text) :
    ((name, value) :: entries).lookup other =
      if other = name then some value else entries.lookup other := by
  by_cases h : other = name
  · simp [h]
  · rw [List.lookup_cons, beq_false_of_ne h, if_neg h]

theorem lookup_filter_ne (entries : List (String × Text)) (name other : String) :
    (entries.filter fun entry => entry.1 != name).lookup other =
      if other = name then none else entries.lookup other := by
  induction entries with
  | nil => simp
  | cons entry entries ih =>
    obtain ⟨key, value⟩ := entry
    by_cases hkey : key = name
    · rw [List.filter_cons_of_neg (by simp [hkey]), ih, lookup_cons_ite, hkey]
      by_cases hother : other = name <;> simp [hother]
    · rw [List.filter_cons_of_pos (by simpa using hkey), lookup_cons_ite, lookup_cons_ite, ih]
      by_cases hother : other = key
      · simp [hother, hkey]
      · simp [hother]

theorem lookup_map_replace (entries : List (String × Text)) (name other : String) (value : Text) :
    (entries.map fun entry => if entry.1 == name then (name, value) else entry).lookup other =
      if other = name then (entries.lookup name).map fun _ => value else entries.lookup other := by
  induction entries with
  | nil => simp
  | cons entry entries ih =>
    obtain ⟨key, old⟩ := entry
    by_cases hkey : key = name
    · subst hkey
      by_cases hother : other = key <;> simp_all [lookup_cons_ite]
    · have hsame : (key == name) = false := by simpa using hkey
      simp only [List.map_cons, hsame, Bool.false_eq_true, ↓reduceIte, lookup_cons_ite, ih,
        if_neg (Ne.symm hkey)]
      by_cases hother : other = key
      · rw [if_pos hother, if_neg (hother ▸ hkey), if_pos hother]
      · simp [hother]

theorem lookup_append_one (entries : List (String × Text)) (name other : String) (value : Text) :
    (entries ++ [(name, value)]).lookup other =
      (entries.lookup other).or (if other = name then some value else none) := by
  induction entries with
  | nil => simp [lookup_cons_ite]
  | cons entry entries ih =>
    rw [List.cons_append, lookup_cons_ite, lookup_cons_ite, ih]
    by_cases h : other = entry.1 <;> simp [h]

theorem lookup_isSome_iff (entries : List (String × Text)) (name : String) :
    (entries.lookup name).isSome = true ↔ name ∈ entries.map Prod.fst := by
  induction entries with
  | nil => simp
  | cons entry entries ih =>
    rw [lookup_cons_ite, List.map_cons, List.mem_cons, ← ih]
    by_cases h : name = entry.1 <;> simp [h]

theorem map_fst_replace (entries : List (String × Text)) (name : String) (value : Text) :
    (entries.map fun entry => if entry.1 == name then (name, value) else entry).map Prod.fst =
      entries.map Prod.fst := by
  rw [List.map_map]
  refine List.map_congr_left fun entry _ => ?_
  by_cases h : entry.1 = name <;> simp [h]

@[simp] theorem get?_erase (fields : Fields) (name other : String) :
    (fields.erase name).get? other = if other = name then none else fields.get? other :=
  lookup_filter_ne fields.entries name other

@[simp] theorem get?_insert (fields : Fields) (name other : String) (value : Text) :
    (fields.insert name value).get? other =
      if other = name then (if value = [] then none else some value) else fields.get? other := by
  unfold insert
  split
  · simp
  · next hvalue =>
    split
    · next h =>
      obtain ⟨old, h⟩ := Option.isSome_iff_exists.1 h
      have h : fields.entries.lookup name = some old := h
      simp only [get?, lookup_map_replace, h, Option.map_some]
    · next h =>
      simp only [contains, get?, Option.not_isSome_iff_eq_none] at h
      by_cases hname : other = name <;> simp [get?, lookup_append_one, hname, h]

/-- With no name twice, the first entry of a name is the only one. -/
theorem remove_eq {fields : Fields} (h : fields.names.Nodup) (name : String) :
    fields.remove name = (fields.get? name, fields.erase name) := by
  obtain ⟨entries⟩ := fields
  induction entries with
  | nil => rfl
  | cons entry entries ih =>
    obtain ⟨key, value⟩ := entry
    obtain ⟨hnew, hlater⟩ := List.nodup_cons.1 h
    by_cases hkey : key = name
    · subst hkey
      have hkept : entries.filter (fun entry => entry.1 != key) = entries :=
        List.filter_eq_self.2 fun entry hentry => by
          rw [bne_iff_ne]
          rintro rfl
          exact hnew (List.mem_map.2 ⟨entry, hentry, rfl⟩)
      simp [remove, erase, get?, List.findIdx?_cons, hkept]
    · have hlookup : ((key, value) :: entries).lookup name = entries.lookup name := by
        rw [lookup_cons_ite, if_neg (Ne.symm hkey)]
      have hrest := ih hlater
      simp only [remove, erase, get?, List.findIdx?_cons, beq_eq_false_iff_ne.2 hkey, hlookup,
        Bool.false_eq_true, ↓reduceIte] at hrest ⊢
      rw [List.filter_cons_of_pos (by simpa using hkey)]
      cases hfound : entries.findIdx? (fun entry => entry.1 == name) with
      | none =>
        rw [hfound] at hrest
        obtain ⟨hnone, hsame⟩ := Prod.mk.inj hrest
        simp [← hnone, ← Fields.mk.inj hsame]
      | some i =>
        rw [hfound] at hrest
        obtain ⟨hvalue, hsame⟩ := Prod.mk.inj hrest
        simp [← hvalue, ← Fields.mk.inj hsame]

theorem contains_iff (fields : Fields) (name : String) :
    fields.contains name = true ↔ name ∈ fields.names :=
  lookup_isSome_iff fields.entries name

theorem wellFormed_erase {fields : Fields} (h : fields.WellFormed) (name : String) :
    (fields.erase name).WellFormed :=
  ⟨h.1.sublist (List.filter_sublist.map _), fun entry hentry =>
    h.2 entry (List.mem_filter.1 hentry).1⟩

theorem wellFormed_insert {fields : Fields} (h : fields.WellFormed) (name : String)
    (value : Text) : (fields.insert name value).WellFormed := by
  unfold insert
  split
  · exact wellFormed_erase h name
  · next hvalue =>
    split
    · refine ⟨?_, fun entry hentry => ?_⟩
      · rw [names, map_fst_replace]
        exact h.1
      · obtain ⟨old, hold, rfl⟩ := List.mem_map.1 hentry
        split
        · exact hvalue
        · exact h.2 old hold
    · next hnew =>
      rw [contains_iff] at hnew
      refine ⟨?_, fun entry hentry => ?_⟩
      · rw [names, List.map_append, List.nodup_append]
        refine ⟨h.1, by simp, fun a ha b hb hab => hnew ?_⟩
        have hb : b = name := List.mem_singleton.1 hb
        rwa [← hb, ← hab]
      · rcases List.mem_append.1 hentry with hold | hlast
        · exact h.2 entry hold
        · simp [List.mem_singleton.1 hlast, hvalue]

theorem wellFormed_ofList (entries : List (String × Text)) : (ofList entries).WellFormed := by
  suffices ∀ fields : Fields, fields.WellFormed →
      (entries.foldl (fun fields entry => fields.insert entry.1 entry.2) fields).WellFormed from
    this empty wellFormed_empty
  induction entries with
  | nil => exact fun _ h => h
  | cons entry entries ih => exact fun fields h => ih _ (wellFormed_insert h entry.1 entry.2)

end Fields
end Syslog
