/-!
# `AccessScopes.Sequence.Keyed`: tables in the order of first writing

A table is a list of keys with values. Writing a key that is there already replaces its value and
leaves the key in its place; a new key goes to the end.

* `map_fst_put`: the keys after a write.
* `lookup_put`: the values after a write.
* `putAll_eq_self`: a table whose keys are different is written as it is.
-/

set_option autoImplicit false

namespace AccessScopes

variable {κ α : Type} [DecidableEq κ]

/-- Writes a value under a key. -/
def put (key : κ) (value : α) : List (κ × α) → List (κ × α)
  | [] => [(key, value)]
  | (k, v) :: rest => if k = key then (k, value) :: rest else (k, v) :: put key value rest

/-- Writes all entries of a list, one after the other. -/
def putAll (entries : List (κ × α)) : List (κ × α) :=
  entries.foldl (fun table entry => put entry.1 entry.2 table) []

/-- The keys after a write: the same ones if the key was there, else one more at the end. -/
theorem map_fst_put (key : κ) (value : α) (table : List (κ × α)) :
    (put key value table).map Prod.fst
      = if key ∈ table.map Prod.fst then table.map Prod.fst else table.map Prod.fst ++ [key] := by
  induction table with
  | nil => simp [put]
  | cons entry rest ih =>
    obtain ⟨k, v⟩ := entry
    by_cases h : k = key
    · simp [put, h]
    · have h' : ¬ key = k := fun e => h e.symm
      simp only [put, h, if_false, List.map_cons, List.mem_cons, h', false_or, ih]
      split <;> simp

/-- The values after a write: the new one under its key, the old ones under all others. -/
theorem lookup_put (key : κ) (value : α) (table : List (κ × α)) (k : κ) :
    (put key value table).lookup k = if k = key then some value else table.lookup k := by
  induction table with
  | nil =>
    by_cases h : k = key
    · subst h; simp [put]
    · have hb : (k == key) = false := by simpa using h
      simp [put, List.lookup_cons, h, hb]
  | cons entry rest ih =>
    obtain ⟨k₀, v⟩ := entry
    by_cases h₀ : k₀ = key
    · subst h₀
      by_cases h : k = k₀
      · subst h; simp [put]
      · have hb : (k == k₀) = false := by simpa using h
        simp [put, List.lookup_cons, h, hb]
    · by_cases h : k = k₀
      · subst h; simp [put, h₀]
      · have hb : (k == k₀) = false := by simpa using h
        simp only [put, h₀, if_false, List.lookup_cons, hb, ih]

/-- A write keeps keys apart. -/
theorem nodup_keys_put {key : κ} {value : α} {table : List (κ × α)}
    (h : (table.map Prod.fst).Nodup) : ((put key value table).map Prod.fst).Nodup := by
  rw [map_fst_put]
  split
  · exact h
  · next hk =>
    exact List.nodup_append.mpr ⟨h, by simp, by
      rintro a ha b hb rfl
      exact hk ((List.mem_singleton.mp hb) ▸ ha)⟩

/-- Whatever is written, no key is in the table twice. -/
theorem nodup_keys_putAll (entries : List (κ × α)) :
    ((putAll entries).map Prod.fst).Nodup := by
  suffices h : ∀ table : List (κ × α), (table.map Prod.fst).Nodup →
      ((entries.foldl (fun table entry => put entry.1 entry.2 table) table).map Prod.fst).Nodup from
    h [] (by simp)
  induction entries with
  | nil => exact fun _ h => h
  | cons entry rest ih => exact fun table h => ih _ (nodup_keys_put h)

/-- A new key goes to the end. -/
theorem put_of_not_mem {key : κ} {value : α} {table : List (κ × α)}
    (h : key ∉ table.map Prod.fst) : put key value table = table ++ [(key, value)] := by
  induction table with
  | nil => rfl
  | cons entry rest ih =>
    obtain ⟨k, v⟩ := entry
    rw [List.map_cons, List.mem_cons, not_or] at h
    rw [put, if_neg (Ne.symm h.1), ih h.2, List.cons_append]

/-- Entries with different keys are written one behind the other. -/
theorem putAll_eq_self {entries : List (κ × α)} (h : (entries.map Prod.fst).Nodup) :
    putAll entries = entries := by
  suffices hfold : ∀ table : List (κ × α), ((table ++ entries).map Prod.fst).Nodup →
      entries.foldl (fun table entry => put entry.1 entry.2 table) table = table ++ entries from
    hfold [] h
  clear h
  induction entries with
  | nil => exact fun table _ => (List.append_nil table).symm
  | cons entry rest ih =>
    intro table h
    have hnew : entry.1 ∉ table.map Prod.fst := by
      rw [List.map_append, List.nodup_append] at h
      exact fun hmem => h.2.2 _ hmem _ List.mem_cons_self rfl
    rw [List.foldl_cons, put_of_not_mem hnew, ih _ (by rwa [List.append_assoc]), List.append_assoc]
    rfl

end AccessScopes
