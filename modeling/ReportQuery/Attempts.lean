namespace ReportQuery

variable {ε α β : Type} {x : Except ε α} {f : α → Except ε β} {e : ε}

theorem exists_eq_ok_of_isOk (h : x.isOk) : ∃ a, x = .ok a := by
  cases x with
  | error e => cases h
  | ok a => exact ⟨a, rfl⟩

theorem eq_ok_of_toOption {a : α} (h : x.toOption = some a) : x = .ok a := by
  cases x with
  | error e => cases h
  | ok b => exact congrArg Except.ok (Option.some.inj h)

theorem bind_eq_ok_iff {b : β} : x >>= f = .ok b ↔ ∃ a, x = .ok a ∧ f a = .ok b := by
  cases x with
  | error e => simp [bind, Except.bind]
  | ok a => simp [bind, Except.bind]

theorem bind_eq_error_iff :
    x >>= f = .error e ↔ x = .error e ∨ ∃ a, x = .ok a ∧ f a = .error e := by
  cases x with
  | error e => simp [bind, Except.bind]
  | ok a => simp [bind, Except.bind]

theorem of_bind_eq_error {P : ε → Prop} (hx : ∀ e, x = .error e → P e)
    (hf : ∀ a e, f a = .error e → P e) (h : x >>= f = .error e) : P e := by
  rcases bind_eq_error_iff.mp h with hxe | ⟨a, -, hfe⟩
  · exact hx e hxe
  · exact hf a e hfe

theorem map_eq_ok_iff {g : α → β} {b : β} : x.map g = .ok b ↔ ∃ a, x = .ok a ∧ g a = b := by
  cases x with
  | error e => simp [Except.map]
  | ok a => simp [Except.map]

theorem map_eq_error_iff {g : α → β} : x.map g = .error e ↔ x = .error e := by
  cases x with
  | error e => simp [Except.map]
  | ok a => simp [Except.map]

variable {list : List α}

theorem mapM_eq_ok_iff {values : List β} :
    list.mapM f = .ok values ↔ list.map f = values.map .ok := by
  induction list generalizing values with
  | nil =>
    cases values with
    | nil => exact iff_of_true rfl rfl
    | cons b bs => exact iff_of_false (fun h => nomatch h) (fun h => nomatch h)
  | cons a list ih =>
    simp only [List.mapM_cons, bind_eq_ok_iff, ih]
    constructor
    · intro h
      obtain ⟨b, hb, bs, hbs, h⟩ := h
      cases h
      rw [List.map_cons, List.map_cons, hb, hbs]
    · intro h
      cases values with
      | nil => cases h
      | cons b bs =>
        obtain ⟨hb, hbs⟩ := List.cons.inj h
        exact ⟨b, hb, bs, hbs, rfl⟩

theorem mapM_eq_error_iff : (∃ e, list.mapM f = .error e) ↔ ∃ a ∈ list, ∃ e, f a = .error e := by
  induction list with
  | nil => exact iff_of_false (fun ⟨_, h⟩ => nomatch h) (fun ⟨_, h, _⟩ => nomatch h)
  | cons a list ih =>
    simp only [List.mapM_cons, bind_eq_error_iff]
    constructor
    · intro h
      obtain ⟨e, ha | ⟨b, -, hl | ⟨bs, -, hp⟩⟩⟩ := h
      · exact ⟨a, List.mem_cons_self, e, ha⟩
      · obtain ⟨a', hm, hf⟩ := ih.mp ⟨e, hl⟩
        exact ⟨a', List.mem_cons_of_mem _ hm, hf⟩
      · cases hp
    · intro h
      obtain ⟨a', hm, e, he⟩ := h
      rcases List.mem_cons.mp hm with rfl | hm
      · exact ⟨e, .inl he⟩
      · obtain ⟨e', hl⟩ := ih.mpr ⟨a', hm, e, he⟩
        cases ha : f a with
        | error e => exact ⟨e, .inl rfl⟩
        | ok b => exact ⟨e', .inr ⟨b, rfl, .inl hl⟩⟩

end ReportQuery
