/-!
# Values by key

A few values, each under a key of its own, in the order in which the keys first
appeared. What an operation does is said by what is found under each key after it.
-/

namespace SchemaDesk

/-- Values by key. -/
abbrev Keyed (κ α : Type) := List (κ × α)

namespace Keyed

variable {κ α : Type} [DecidableEq κ]

/-- The value under a key. -/
def get? (entries : Keyed κ α) (key : κ) : Option α :=
  match entries with
  | [] => none
  | (own, value) :: rest => if own = key then some value else get? rest key

/-- Put a value under a key, in place of the one that was there. -/
def set (entries : Keyed κ α) (key : κ) (value : α) : Keyed κ α :=
  match entries with
  | [] => [(key, value)]
  | (own, old) :: rest =>
    if own = key then (own, value) :: rest else (own, old) :: set rest key value

/-- Leave out what stands under a key. -/
def erase (entries : Keyed κ α) (key : κ) : Keyed κ α :=
  match entries with
  | [] => []
  | (own, value) :: rest => if own = key then erase rest key else (own, value) :: erase rest key

/-- The keys, in order. -/
def keys (entries : Keyed κ α) : List κ :=
  entries.map (·.1)

@[simp]
theorem get?_set_self (entries : Keyed κ α) (key : κ) (value : α) :
    (entries.set key value).get? key = some value := by
  induction entries with
  | nil => simp [set, get?]
  | cons entry rest ih => by_cases h : entry.1 = key <;> simp [set, get?, h, ih]

theorem get?_set_of_ne (entries : Keyed κ α) {key other : κ} (value : α) (h : other ≠ key) :
    (entries.set key value).get? other = entries.get? other := by
  induction entries with
  | nil => simp [set, get?, h.symm]
  | cons entry rest ih =>
    by_cases hkey : entry.1 = key
    · simp [set, get?, hkey, h.symm]
    · simp [set, get?, hkey, ih]

@[simp]
theorem get?_erase_self (entries : Keyed κ α) (key : κ) : (entries.erase key).get? key = none := by
  induction entries with
  | nil => rfl
  | cons entry rest ih =>
    by_cases h : entry.1 = key <;> simp [erase, get?, h, ih]

theorem get?_erase_of_ne (entries : Keyed κ α) {key other : κ} (h : other ≠ key) :
    (entries.erase key).get? other = entries.get? other := by
  induction entries with
  | nil => rfl
  | cons entry rest ih =>
    by_cases hkey : entry.1 = key
    · simp [erase, get?, hkey, h.symm, ih]
    · simp [erase, get?, hkey, ih]

theorem get?_map {β : Type} (change : α → β) (entries : Keyed κ α) (key : κ) :
    get? (entries.map fun entry => (entry.1, change entry.2)) key =
      (entries.get? key).map change := by
  induction entries with
  | nil => rfl
  | cons entry rest ih =>
    simp only [List.map_cons, get?]
    split
    · rfl
    · exact ih

theorem mem_of_get? {entries : Keyed κ α} {key : κ} {value : α}
    (hvalue : entries.get? key = some value) : (key, value) ∈ entries := by
  induction entries with
  | nil => cases hvalue
  | cons entry rest ih =>
    unfold get? at hvalue
    split at hvalue
    next hkey =>
      cases hvalue
      exact hkey ▸ List.mem_cons_self
    next => exact List.mem_cons_of_mem _ (ih hvalue)

theorem mem_keys_of_get? {entries : Keyed κ α} {key : κ} {value : α}
    (hvalue : entries.get? key = some value) : key ∈ entries.keys :=
  List.mem_map_of_mem (mem_of_get? hvalue)

theorem get?_eq_none_iff {entries : Keyed κ α} {key : κ} :
    entries.get? key = none ↔ key ∉ entries.keys := by
  induction entries with
  | nil => simp [get?, keys]
  | cons entry rest ih =>
    by_cases hkey : entry.1 = key
    · simp [get?, keys, hkey]
    · simp only [keys] at ih
      simp [get?, keys, hkey, Ne.symm hkey, ih]

theorem set_of_not_mem {entries : Keyed κ α} {key : κ} (hkey : key ∉ entries.keys) (value : α) :
    entries.set key value = entries ++ [(key, value)] := by
  induction entries with
  | nil => rfl
  | cons entry rest ih =>
    obtain ⟨hne, hrest⟩ : entry.1 ≠ key ∧ key ∉ keys rest := by
      simpa [keys, eq_comm] using hkey
    rw [set, if_neg hne, ih hrest]
    rfl

theorem mem_set {entries : Keyed κ α} {key : κ} {value : α} {entry : κ × α}
    (hmem : entry ∈ entries.set key value) : entry = (key, value) ∨ entry ∈ entries := by
  induction entries with
  | nil => exact Or.inl (List.mem_singleton.mp hmem)
  | cons first rest ih =>
    unfold set at hmem
    split at hmem
    next hkey =>
      rcases List.mem_cons.mp hmem with rfl | hmem
      · exact Or.inl (by rw [hkey])
      · exact Or.inr (List.mem_cons_of_mem _ hmem)
    next =>
      rcases List.mem_cons.mp hmem with rfl | hmem
      · exact Or.inr List.mem_cons_self
      · exact (ih hmem).imp_right (List.mem_cons_of_mem _)

theorem mem_erase {entries : Keyed κ α} {key : κ} {entry : κ × α}
    (hmem : entry ∈ entries.erase key) : entry ∈ entries ∧ entry.1 ≠ key := by
  induction entries with
  | nil => cases hmem
  | cons first rest ih =>
    unfold erase at hmem
    split at hmem
    next => exact (ih hmem).imp_left (List.mem_cons_of_mem _)
    next hkey =>
      rcases List.mem_cons.mp hmem with rfl | hmem
      · exact ⟨List.mem_cons_self, hkey⟩
      · exact (ih hmem).imp_left (List.mem_cons_of_mem _)

theorem mem_keys_set {entries : Keyed κ α} {key other : κ} {value : α} :
    other ∈ (entries.set key value).keys ↔ other = key ∨ other ∈ entries.keys := by
  induction entries with
  | nil => simp [set, keys]
  | cons entry rest ih =>
    simp only [keys] at ih
    by_cases hkey : entry.1 = key
    · simp [set, keys, hkey]
    · simp [set, keys, hkey, ih, or_left_comm]

/-- Keys stay distinct. -/
theorem nodup_keys_set {entries : Keyed κ α} (hdistinct : entries.keys.Nodup) (key : κ)
    (value : α) : (entries.set key value).keys.Nodup := by
  induction entries with
  | nil => simp [set, keys]
  | cons entry rest ih =>
    obtain ⟨hnew, hrest⟩ := List.nodup_cons.mp hdistinct
    unfold set
    split
    · exact hdistinct
    next hkey =>
      refine List.nodup_cons.mpr ⟨?_, ih hrest⟩
      intro hmem
      rcases mem_keys_set.mp hmem with heq | hmem
      · exact hkey heq
      · exact hnew hmem

end Keyed

end SchemaDesk
