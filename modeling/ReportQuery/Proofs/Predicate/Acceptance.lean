import ReportQuery.Proofs.Predicate.Writing
import ReportQuery.Proofs.Schema.Explained

namespace ReportQuery

open Schema Checked Entries

section Members

variable {key : String} {members : Entries Json} {default v : Json}

theorem memberOr_eq_iff :
    memberOr key default members = v ↔
      get? key members = none ∧ default = v ∨ get? key members = some v := by
  rw [memberOr]
  cases get? key members with
  | none => simp
  | some w => simp

theorem textOrAbsent_iff {s : String} :
    TextOrAbsent key members ↔ ∃ t, memberOr key (.str s) members = .str t := by
  simp only [TextOrAbsent, memberOr_eq_iff]
  constructor
  · intro h
    rcases h with h | ⟨t, h⟩
    · exact ⟨s, .inl ⟨h, rfl⟩⟩
    · exact ⟨t, .inr h⟩
  · intro h
    obtain ⟨t, ⟨h, -⟩ | h⟩ := h
    · exact .inl h
    · exact .inr ⟨t, h⟩

theorem otherType_iff {known : List String} (hu : "unknown" ∉ known) :
    OtherType known members ↔
      ∃ type, memberOr "type" (.str "unknown") members = .str type ∧ type ∉ known := by
  simp only [OtherType, memberOr_eq_iff]
  constructor
  · intro h
    rcases h with h | ⟨type, h, ht⟩
    · exact ⟨"unknown", .inl ⟨h, rfl⟩, hu⟩
    · exact ⟨type, .inr h, ht⟩
  · intro h
    obtain ⟨type, ⟨h, -⟩ | h, ht⟩ := h
    · exact .inl h
    · exact .inr ⟨type, h, ht⟩

end Members

theorem isTarget_iff {v : Json} : IsTarget v ↔ ∃ target, Target.Writes v target := by
  constructor
  · intro h
    obtain ⟨ht, htype, hname⟩ := h
    simp only [List.mem_cons, List.not_mem_nil, or_false] at htype
    rcases htype with rfl | rfl
    · exact ⟨_, .column ht hname⟩
    · exact ⟨_, .rootColumn ht hname⟩
  · intro h
    obtain ⟨target, h⟩ := h
    cases h with
    | column ht hname => exact .mk ht (by decide) hname
    | rootColumn ht hname => exact .mk ht (by decide) hname

theorem isOperand_iff {v : Json} : IsOperand v ↔ ∃ operand, Operand.Writes v operand := by
  constructor
  · intro h
    cases h with
    | scalar ht => exact ⟨_, .scalar ht rfl⟩
    | parameter ht hname => exact ⟨_, .parameter ht hname⟩
    | column ht hv htarget =>
      obtain ⟨target, htarget⟩ := isTarget_iff.mp htarget
      exact ⟨_, .column ht hv htarget⟩
    | unknown ht =>
      obtain ⟨type, ht, hk⟩ := (otherType_iff (by decide)).mp ht
      exact ⟨_, .unknown ht hk⟩
  · intro h
    obtain ⟨operand, h⟩ := h
    cases h with
    | scalar ht => exact .scalar ht
    | parameter ht hname => exact .parameter ht hname
    | column ht hv htarget => exact .column ht hv (isTarget_iff.mpr ⟨_, htarget⟩)
    | unknown ht hk => exact .unknown ((otherType_iff (by decide)).mpr ⟨_, ht, hk⟩)

namespace Predicate

variable {v : Json}

theorem isPredicate_group {members : Entries Json} {type : String} {items : List Json}
    (ht : get? "type" members = some (.str type)) (htype : type ∈ ["and", "or"])
    (hitems : memberOr "expressions" (.arr []) members = .arr items)
    (h : ∀ item ∈ items, IsPredicate item) : IsPredicate (.obj members) := by
  rcases memberOr_eq_iff.mp hitems with ⟨hnone, -⟩ | hitems
  · exact .empty ht htype hnone
  · exact .parts ht htype hitems h

theorem isPredicate_of_node {p : Predicate} (h : Node (fun v _ => IsPredicate v) v p) :
    IsPredicate v := by
  have collection {members inner : Entries Json}
      (hc : memberOr "in_collection" (.obj []) members = .obj inner) :
      get? "in_collection" members = none ∨
        ∃ inner, get? "in_collection" members = some (.obj inner) :=
    (memberOr_eq_iff.mp hc).imp And.left fun hc => ⟨inner, hc⟩
  have mem_of {items : List Json} {parts : List Predicate}
      (hparts : List.Forall₂ (fun item _ => IsPredicate item) items parts) (item : Json)
      (hitem : item ∈ items) : IsPredicate item := by
    obtain ⟨_, h⟩ := exists_forall₂_iff.mp ⟨parts, hparts⟩ item hitem
    exact h
  cases h with
  | all ht hitems hparts =>
    exact isPredicate_group ht (by decide) hitems (mem_of hparts)
  | any ht hitems hparts =>
    exact isPredicate_group ht (by decide) hitems (mem_of hparts)
  | not ht hv hpart => exact .not ht hv hpart
  | comparison ht hv htarget ho hw hoperand =>
    exact .comparison ht hv (isTarget_iff.mpr ⟨_, htarget⟩) ho hw (isOperand_iff.mpr ⟨_, hoperand⟩)
  | unary ht hv htarget ho =>
    exact .unary ht hv (isTarget_iff.mpr ⟨_, htarget⟩) (textOrAbsent_iff.mpr ⟨_, ho⟩)
  | existence ht hc hnull =>
    exact .existence ht (collection hc) ((memberOr_eq_iff.mp hnull).imp And.left id)
  | existenceOf ht hc hv hpart => exact .existenceOf ht (collection hc) hv hpart
  | unknown ht hk => exact .unknown ((otherType_iff (by decide)).mpr ⟨_, ht, hk⟩)

theorem isPredicate_of_writes {p : Predicate} (h : Writes v p) : IsPredicate v := by
  induction p using inductionOnParts generalizing v with
  | node p ih =>
    obtain ⟨h⟩ := h
    exact isPredicate_of_node (h.imp fun part hpart v => ih part hpart)

theorem exists_writes_group {members : Entries Json} {type : String} {items : List Json}
    {parts : List Predicate} (ht : get? "type" members = some (.str type))
    (htype : type ∈ ["and", "or"]) (hitems : memberOr "expressions" (.arr []) members = .arr items)
    (hparts : List.Forall₂ Writes items parts) : ∃ p, Writes (.obj members) p := by
  simp only [List.mem_cons, List.not_mem_nil, or_false] at htype
  rcases htype with rfl | rfl
  · exact ⟨_, .node (.all ht hitems hparts)⟩
  · exact ⟨_, .node (.any ht hitems hparts)⟩

theorem exists_writes_of_isPredicate (h : IsPredicate v) : ∃ p, Writes v p := by
  have collection {members : Entries Json}
      (hc : get? "in_collection" members = none ∨
        ∃ inner, get? "in_collection" members = some (.obj inner)) :
      ∃ inner, memberOr "in_collection" (.obj []) members = .obj inner := by
    rcases hc with hc | ⟨inner, hc⟩
    · exact ⟨[], memberOr_eq_iff.mpr (.inl ⟨hc, rfl⟩)⟩
    · exact ⟨inner, memberOr_eq_iff.mpr (.inr hc)⟩
  induction h with
  | empty ht htype hnone =>
    exact exists_writes_group ht htype (memberOr_eq_iff.mpr (.inl ⟨hnone, rfl⟩)) .nil
  | parts ht htype hitems _ ih =>
    obtain ⟨parts, hparts⟩ := exists_forall₂_iff.mpr ih
    exact exists_writes_group ht htype (memberOr_eq_iff.mpr (.inr hitems)) hparts
  | not ht hv _ ih =>
    obtain ⟨p, hp⟩ := ih
    exact ⟨_, .node (.not ht hv hp)⟩
  | comparison ht hv htarget ho hw hoperand =>
    obtain ⟨target, htarget⟩ := isTarget_iff.mp htarget
    obtain ⟨operand, hoperand⟩ := isOperand_iff.mp hoperand
    exact ⟨_, .node (.comparison ht hv htarget ho hw hoperand)⟩
  | unary ht hv htarget ho =>
    obtain ⟨target, htarget⟩ := isTarget_iff.mp htarget
    obtain ⟨operator, ho⟩ := textOrAbsent_iff.mp ho
    exact ⟨_, .node (.unary ht hv htarget ho)⟩
  | existence ht hc hnull =>
    obtain ⟨inner, hc⟩ := collection hc
    exact ⟨_, .node (.existence ht hc (memberOr_eq_iff.mpr (hnull.imp (⟨·, rfl⟩) id)))⟩
  | existenceOf ht hc hv _ ih =>
    obtain ⟨inner, hc⟩ := collection hc
    obtain ⟨p, hp⟩ := ih
    exact ⟨_, .node (.existenceOf ht hc hv hp)⟩
  | unknown ht =>
    obtain ⟨type, ht, hk⟩ := (otherType_iff (by decide)).mp ht
    exact ⟨_, .node (.unknown ht hk)⟩

end Predicate

theorem Target.explained_check (v : Json) : (Target.check v).Explained := by
  cases v with
  | obj members =>
    refine (explained_tag _ _ _).refine ?_
    intro type
    exact ((explained_required _ _ explained_text).map _).within _
  | _ => exact explained_fault _

theorem explained_unknownType (members : Entries Json) : (unknownType members).Explained :=
  explained_optional _ _ _ explained_text

theorem Operand.explained_check (v : Json) : (Operand.check v).Explained := by
  cases v with
  | obj members =>
    rw [Operand.check]
    split
    · exact ((explained_optional _ _ _ explained_valid).map _).within _
    · exact ((explained_required _ _ explained_text).map _).within _
    · exact ((explained_required _ _ Target.explained_check).map _).within _
    · exact ((explained_unknownType members).map _).within _
  | _ => exact (explained_fault _).within _

namespace Predicate

mutual

theorem explained_check : (v : Json) → (check v).Explained
  | .obj members => by
    rw [check]
    split
    · exact ((explained_partsAt _ members).map _).within _
    · exact ((explained_partsAt _ members).map _).within _
    · split
      · next part hpart =>
        exact (((explained_partAt? _ members part hpart).within _).map _).within _
      · exact ((explained_fault _).within _).within _
    · exact ((((explained_required _ _ Target.explained_check).map _).seq
        (explained_required _ _ explained_text)).seq
          (explained_required _ _ Operand.explained_check)).within _
    · exact (((explained_required _ _ Target.explained_check).map _).seq
        (explained_optional _ _ _ explained_text)).within _
    · exact (((explained_optional _ _ _ explained_mapping).map _).seq
        (explained_optionalPartAt _ members)).within _
    · exact ((explained_unknownType members).map _).within _
  | .null | .bool _ | .int _ | .float _ | .str _ | .arr _ => (explained_fault _).within _

theorem explained_partAt? (key : String) : (members : List (String × Json)) →
    ∀ part, partAt? key members = some part → part.Explained
  | [], _, h => nomatch h
  | (k, v) :: members, part, h => by
    rw [partAt?] at h
    split at h
    · cases h
      exact explained_check v
    · exact explained_partAt? key members part h

theorem explained_optionalPartAt (key : String) : (members : List (String × Json)) →
    (optionalPartAt key members).Explained
  | [] => explained_valid none
  | (k, v) :: members => by
    rw [optionalPartAt_cons]
    split
    · cases v with
      | null => exact (explained_valid none).within _
      | _ => exact ((explained_check _).map _).within _
    · exact explained_optionalPartAt key members

theorem explained_partsAt (key : String) : (members : List (String × Json)) →
    (partsAt key members).Explained
  | [] => explained_valid []
  | (k, v) :: members => by
    rw [partsAt]
    split
    · exact (explained_parts v).within _
    · exact explained_partsAt key members

theorem explained_parts : (v : Json) → (parts v).Explained
  | .arr items => explained_partsFrom 0 items
  | .null | .bool _ | .int _ | .float _ | .str _ | .obj _ => explained_fault _

theorem explained_partsFrom (i : Nat) : (items : List Json) → (partsFrom i items).Explained
  | [] => by
    rw [partsFrom]
    exact explained_valid []
  | item :: items => by
    rw [partsFrom]
    exact (((explained_check item).within _).map _).seq (explained_partsFrom (i + 1) items)

end

theorem faults_eq_nil_iff {v : Json} : (check v).faults = [] ↔ ∃ p, check v = valid p := by
  constructor
  · intro h
    exact explained_check v h
  · intro h
    obtain ⟨p, h⟩ := h
    rw [h, faults]

theorem exists_check_eq_valid_iff {v : Json} : (∃ p, check v = valid p) ↔ IsPredicate v := by
  simp only [check_eq_valid_iff]
  constructor
  · intro h
    obtain ⟨p, h⟩ := h
    exact isPredicate_of_writes h
  · intro h
    exact exists_writes_of_isPredicate h

theorem check_of_not_obj {v : Json} (h : ∀ members, v ≠ .obj members) :
    check v = faulty [⟨[.key "unknown"], .notRecord⟩] := by
  cases v with
  | obj members => exact absurd rfl (h members)
  | _ => rfl

/-- A type that is no text names no node, and cannot be the type of an unknown one. -/
theorem check_of_type_not_text {members : Entries Json} {type : Json}
    (ht : get? "type" members = some type) (h : ∀ s, type ≠ .str s) :
    check (.obj members) = faulty [⟨[.key "unknown", .key "type"], .notText⟩] := by
  have hc : claimedType members = none := by
    rw [claimedType, ht]
    cases type with
    | str s => exact absurd rfl (h s)
    | _ => rfl
  have hu : unknownType members = (fault .notText).within (.key "type") := by
    rw [unknownType, Schema.optional, ht]
    cases type with
    | str s => exact absurd rfl (h s)
    | _ => rfl
  rw [check, hc, hu]
  rfl

/-- A value is checked without a fault exactly if it is in the grammar of predicates, and then it is
valid. An object with a type that is no text, and what is no object, have a single fault. -/
theorem accepts_iff_isPredicate (v : Json) :
    ((check v).faults = [] ↔ IsPredicate v) ∧ ((∃ p, check v = valid p) ↔ IsPredicate v) ∧
      (∀ members type, v = .obj members → get? "type" members = some type →
        (∀ s, type ≠ .str s) → check v = faulty [⟨[.key "unknown", .key "type"], .notText⟩]) ∧
      ((∀ members, v ≠ .obj members) → check v = faulty [⟨[.key "unknown"], .notRecord⟩]) := by
  refine ⟨faults_eq_nil_iff.trans exists_check_eq_valid_iff, exists_check_eq_valid_iff, ?_,
    check_of_not_obj⟩
  rintro members type rfl ht h
  exact check_of_type_not_text ht h

theorem accepts_negation_of_untyped :
    (check (.obj [("type", .str "not"), ("expression", .obj [("name", .null)])])).faults = [] ∧
      check (.obj [("type", .int 1)]) = faulty [⟨[.key "unknown", .key "type"], .notText⟩] ∧
      check (.arr []) = faulty [⟨[.key "unknown"], .notRecord⟩] := by
  have hp : IsPredicate (.obj [("type", .str "not"), ("expression", .obj [("name", .null)])]) :=
    .not rfl rfl (.unknown (.inl rfl))
  exact ⟨(accepts_iff_isPredicate _).1.mpr hp, (accepts_iff_isPredicate _).2.2.1 _ _ rfl rfl nofun,
    (accepts_iff_isPredicate _).2.2.2 nofun⟩

end Predicate

end ReportQuery
