import ReportQuery.Names

namespace ReportQuery

abbrev Entries (α : Type) := List (String × α)

namespace Entries

variable {α : Type} {key : String} {value : α} {m : Entries α}

def keys (m : Entries α) : List String := m.map Prod.fst

def get? (key : String) : Entries α → Option α
  | [] => none
  | (k, v) :: rest => if k = key then some v else get? key rest

/-- Gives a key a value: in its old place if it has one, else at the end. -/
def put (key : String) (value : α) : Entries α → Entries α
  | [] => [(key, value)]
  | (k, v) :: rest => if k = key then (k, value) :: rest else (k, v) :: put key value rest

/-- The map of a list of entries, in which a later entry gives its value to an earlier one of the
same key. -/
def ofList (entries : List (String × α)) : Entries α :=
  entries.foldl (fun map (key, value) => put key value map) []

theorem keys_put : keys (put key value m) = addName (keys m) key := by
  induction m with
  | nil => simp [put, keys, addName]
  | cons entry m ih =>
    by_cases h : entry.1 = key
    · simp [put, keys, addName, h]
    · by_cases hk : key ∈ keys m
      · simp_all [put, keys, addName]
      · simp_all [put, keys, addName, Ne.symm h]

theorem nodup_keys_put (h : (keys m).Nodup) : (keys (put key value m)).Nodup := by
  rw [keys_put]
  exact nodup_addName h

theorem nodup_keys_ofList (entries : List (String × α)) : (keys (ofList entries)).Nodup := by
  have grow (start : Entries α) (h : (keys start).Nodup) :
      (keys (entries.foldl (fun map (key, value) => put key value map) start)).Nodup := by
    induction entries generalizing start with
    | nil => exact h
    | cons entry entries ih => exact ih _ (nodup_keys_put h)
  exact grow [] List.nodup_nil

theorem put_of_not_mem (h : key ∉ keys m) : put key value m = m ++ [(key, value)] := by
  induction m with
  | nil => rfl
  | cons entry m ih =>
    obtain ⟨k, v⟩ := entry
    simp only [keys, List.map_cons, List.mem_cons, not_or] at h
    rw [put, if_neg (Ne.symm h.1), ih h.2, List.cons_append]

theorem ofList_of_nodup (h : (keys m).Nodup) : ofList m = m := by
  have grow (start rest : Entries α) (h : (keys (start ++ rest)).Nodup) :
      rest.foldl (fun map (key, value) => put key value map) start = start ++ rest := by
    induction rest generalizing start with
    | nil => rw [List.foldl_nil, List.append_nil]
    | cons entry rest ih =>
      obtain ⟨k, v⟩ := entry
      have hk : k ∉ keys start := by
        intro hk
        rw [keys, List.map_append, List.nodup_append] at h
        exact h.2.2 k hk k List.mem_cons_self rfl
      have hnext : (keys ((start ++ [(k, v)]) ++ rest)).Nodup := by
        rwa [List.append_assoc, List.singleton_append]
      simp only [List.foldl_cons, put_of_not_mem hk, ih _ hnext, List.append_assoc,
        List.singleton_append]
  exact grow [] m h

theorem get?_eq_some_of_mem (h : (keys m).Nodup) (hm : (key, value) ∈ m) :
    get? key m = some value := by
  induction m with
  | nil => cases hm
  | cons entry m ih =>
    obtain ⟨k, v⟩ := entry
    rw [keys, List.map_cons, List.nodup_cons] at h
    rcases List.mem_cons.mp hm with he | hm
    · cases he
      rw [get?, if_pos rfl]
    · have hk : k ≠ key := by
        rintro rfl
        exact h.1 (List.mem_map.mpr ⟨_, hm, rfl⟩)
      rw [get?, if_neg hk, ih h.2 hm]

end Entries

end ReportQuery
