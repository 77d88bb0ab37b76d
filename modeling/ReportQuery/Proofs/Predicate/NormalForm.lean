import ReportQuery.Predicate.Dump
import ReportQuery.Proofs.Predicate.Writing

namespace ReportQuery

open Schema Checked Entries

section Extras

variable {members : Entries Json} {key : String} {v : Json}

theorem extraMembers_cons_type :
    extraMembers (("type", v) :: extraMembers members) = extraMembers members := by
  simp [extraMembers]

theorem get?_extraMembers (h : key ≠ "type") :
    get? key (extraMembers members) = get? key members := by
  induction members with
  | nil => rfl
  | cons entry members ih =>
    obtain ⟨k, v⟩ := entry
    by_cases hk : k = "type"
    · have hne : k ≠ key := by
        rintro rfl
        exact h hk
      simp only [extraMembers, hk, ne_eq, not_true_eq_false, decide_false, Bool.false_eq_true,
        not_false_eq_true, List.filter_cons_of_neg] at ih ⊢
      rw [ih, get?, if_neg (hk ▸ hne)]
    · simp only [extraMembers, ne_eq, hk, not_false_eq_true, decide_true, List.filter_cons_of_pos,
        get?] at ih ⊢
      rw [ih]

end Extras

theorem Target.writes_toJson (target : Target) : Writes target.toJson target := by
  cases target with
  | column name => exact .column rfl rfl
  | rootColumn name => exact .rootColumn rfl rfl

theorem Operand.Writes.toJson {v : Json} {operand : Operand} (h : Operand.Writes v operand) :
    Operand.Writes operand.toJson operand := by
  cases h with
  | scalar => exact .scalar rfl rfl
  | parameter => exact .parameter rfl rfl
  | column => exact .column rfl rfl (Target.writes_toJson _)
  | @unknown members type ht hk =>
    have hu : Operand.Writes (Operand.unknown type (extraMembers members)).toJson _ :=
      .unknown rfl hk
    rwa [extraMembers_cons_type] at hu

namespace Predicate

variable {v : Json} {p : Predicate}

theorem partsToJson_eq_map (parts : List Predicate) : partsToJson parts = parts.map toJson := by
  induction parts with
  | nil => rfl
  | cons part parts ih => rw [partsToJson, List.map_cons, ih]

theorem forall₂_partsToJson {items : List Json} {parts : List Predicate}
    (h : List.Forall₂ (fun _ part => Writes part.toJson part) items parts) :
    List.Forall₂ Writes (partsToJson parts) parts := by
  rw [partsToJson_eq_map]
  induction h with
  | nil => exact .nil
  | cons hpart _ ih => exact .cons hpart ih

theorem writes_toJson_of_node (h : Node (fun _ part => Writes part.toJson part) v p) :
    Writes p.toJson p := by
  refine .node ?_
  cases h with
  | all _ _ hparts => exact .all rfl rfl (forall₂_partsToJson hparts)
  | any _ _ hparts => exact .any rfl rfl (forall₂_partsToJson hparts)
  | not _ _ hpart => exact .not rfl rfl hpart
  | comparison _ _ _ _ _ hoperand =>
    exact .comparison rfl rfl (Target.writes_toJson _) rfl rfl hoperand.toJson
  | unary => exact .unary rfl rfl (Target.writes_toJson _) rfl
  | existence => exact .existence rfl rfl rfl
  | existenceOf _ _ _ hpart => exact .existenceOf rfl rfl rfl hpart
  | @unknown members type _ hk =>
    have hu : Node Writes (unknown type (extraMembers members)).toJson _ := .unknown rfl hk
    rwa [extraMembers_cons_type] at hu

theorem Writes.toJson (h : Writes v p) : Writes p.toJson p := by
  induction p using inductionOnParts generalizing v with
  | node p ih =>
    obtain ⟨h⟩ := h
    exact writes_toJson_of_node (h.imp fun part hpart _ hv => ih part hpart hv)

/-- The form of a valid predicate is valid as the same predicate, and has itself as its form. Either
value writes that predicate node by node, and the unknown nodes and operands have kept their
extras. -/
theorem toJson_normal (h : check v = valid p) :
    check p.toJson = valid p ∧ toJson <$> check p.toJson = valid p.toJson ∧
      Writes v p ∧ Writes p.toJson p ∧
      (∀ members type extras, Writes (.obj members) (.unknown type extras) →
        ∀ key, key ≠ "type" → get? key extras = get? key members) ∧
      (∀ members type extras, Operand.Writes (.obj members) (.unknown type extras) →
        ∀ key, key ≠ "type" → get? key extras = get? key members) := by
  have hv := check_eq_valid_iff.mp h
  have hp := check_eq_valid_iff.mpr hv.toJson
  refine ⟨hp, ?_, hv, hv.toJson, ?_, ?_⟩
  · rw [hp]
    rfl
  · intro members type extras hw key hkey
    obtain ⟨hw⟩ := hw
    cases hw with
    | unknown => exact get?_extraMembers hkey
  · intro members type extras hw key hkey
    cases hw with
    | unknown => exact get?_extraMembers hkey

theorem toJson_normal_untyped_parts :
    check (.obj [("expressions", .arr [.obj [("type", .str "exists")], .obj [("a", .int 1)]]),
      ("type", .str "and"), ("b", .null)]) =
        valid (all [existence [] none, unknown "unknown" [("a", .int 1)]]) ∧
      check (.obj [("type", .str "and"), ("expressions", .arr [
        .obj [("type", .str "exists"), ("in_collection", .obj []), ("predicate", .null)],
        .obj [("type", .str "unknown"), ("a", .int 1)]])]) =
          valid (all [existence [] none, unknown "unknown" [("a", .int 1)]]) := by
  have hv : check (.obj [("expressions", .arr [.obj [("type", .str "exists")],
      .obj [("a", .int 1)]]), ("type", .str "and"), ("b", .null)]) =
        valid (all [existence [] none, unknown "unknown" [("a", .int 1)]]) := rfl
  exact ⟨hv, (toJson_normal hv).1⟩

end Predicate

end ReportQuery
