namespace ReportQuery

def addName (names : List String) (name : String) : List String :=
  if name ∈ names then names else names ++ [name]

def distinct (names : List String) : List String := names.foldl addName []

variable {names : List String} {name other : String}

@[simp]
theorem mem_addName : other ∈ addName names name ↔ other ∈ names ∨ other = name := by
  by_cases h : name ∈ names
  · simp only [addName, h, if_true, iff_self_or]
    rintro rfl
    exact h
  · simp [addName, h]

theorem prefix_addName : names <+: addName names name := by
  rw [addName]
  split
  · exact List.prefix_refl names
  · exact List.prefix_append names [name]

theorem nodup_addName (h : names.Nodup) : (addName names name).Nodup := by
  by_cases hn : name ∈ names
  · simpa [addName, hn] using h
  · rw [addName, if_neg hn, List.nodup_append]
    refine ⟨h, by simp, ?_⟩
    intro a ha b hb he
    exact hn (List.mem_singleton.mp hb ▸ he ▸ ha)

@[simp]
theorem mem_distinct : name ∈ distinct names ↔ name ∈ names := by
  have grow (seen : List String) :
      name ∈ names.foldl addName seen ↔ name ∈ seen ∨ name ∈ names := by
    induction names generalizing seen with
    | nil => simp
    | cons head names ih => rw [List.foldl_cons, ih, mem_addName, List.mem_cons, or_assoc]
  rw [distinct, grow]
  simp

theorem nodup_distinct (names : List String) : (distinct names).Nodup := by
  have grow (seen : List String) (h : seen.Nodup) : (names.foldl addName seen).Nodup := by
    induction names generalizing seen with
    | nil => exact h
    | cons head names ih => exact ih _ (nodup_addName h)
  exact grow [] List.nodup_nil

end ReportQuery
