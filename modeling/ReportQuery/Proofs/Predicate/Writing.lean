import ReportQuery.Predicate.Grammar
import ReportQuery.Proofs.Pointwise
import ReportQuery.Proofs.Predicate.Members

namespace ReportQuery

open Schema Checked Entries

inductive Target.Writes : Json → Target → Prop where
  | column {members : Entries Json} {name : String} :
    get? "type" members = some (.str "column") → get? "name" members = some (.str name) →
      Writes (.obj members) (.column name)
  | rootColumn {members : Entries Json} {name : String} :
    get? "type" members = some (.str "root_collection_column") →
      get? "name" members = some (.str name) → Writes (.obj members) (.rootColumn name)

/-- How an object writes an operand. One of no known type keeps all its other members. -/
inductive Operand.Writes : Json → Operand → Prop where
  | scalar {members : Entries Json} {value : Json} :
    get? "type" members = some (.str "scalar") → memberOr "value" .null members = value →
      Writes (.obj members) (.scalar value)
  | parameter {members : Entries Json} {name : String} :
    get? "type" members = some (.str "variable") → get? "name" members = some (.str name) →
      Writes (.obj members) (.parameter name)
  | column {members : Entries Json} {v : Json} {target : Target} :
    get? "type" members = some (.str "column") → get? "column" members = some v →
      Target.Writes v target → Writes (.obj members) (.column target)
  | unknown {members : Entries Json} {type : String} :
    memberOr "type" (.str "unknown") members = .str type →
      type ∉ ["scalar", "variable", "column"] →
        Writes (.obj members) (.unknown type (extraMembers members))

namespace Predicate

/-- How an object writes a node, where `Part` tells how its parts are written. -/
inductive Node (Part : Json → Predicate → Prop) : Json → Predicate → Prop where
  | all {members : Entries Json} {items : List Json} {parts : List Predicate} :
    get? "type" members = some (.str "and") →
      memberOr "expressions" (.arr []) members = .arr items → List.Forall₂ Part items parts →
        Node Part (.obj members) (.all parts)
  | any {members : Entries Json} {items : List Json} {parts : List Predicate} :
    get? "type" members = some (.str "or") →
      memberOr "expressions" (.arr []) members = .arr items → List.Forall₂ Part items parts →
        Node Part (.obj members) (.any parts)
  | not {members : Entries Json} {v : Json} {part : Predicate} :
    get? "type" members = some (.str "not") → get? "expression" members = some v →
      Part v part → Node Part (.obj members) (.not part)
  | comparison {members : Entries Json} {v w : Json} {target : Target} {operator : String}
      {operand : Operand} :
    get? "type" members = some (.str "binary_comparison_operator") →
      get? "column" members = some v → Target.Writes v target →
        get? "operator" members = some (.str operator) →
          get? "value" members = some w → Operand.Writes w operand →
            Node Part (.obj members) (.comparison target operator operand)
  | unary {members : Entries Json} {v : Json} {target : Target} {operator : String} :
    get? "type" members = some (.str "unary_comparison_operator") →
      get? "column" members = some v → Target.Writes v target →
        memberOr "operator" (.str "is_null") members = .str operator →
          Node Part (.obj members) (.unary target operator)
  | existence {members collection : Entries Json} :
    get? "type" members = some (.str "exists") →
      memberOr "in_collection" (.obj []) members = .obj collection →
        memberOr "predicate" .null members = .null →
          Node Part (.obj members) (.existence collection none)
  | existenceOf {members collection : Entries Json} {v : Json} {part : Predicate} :
    get? "type" members = some (.str "exists") →
      memberOr "in_collection" (.obj []) members = .obj collection →
        get? "predicate" members = some v → Part v part →
          Node Part (.obj members) (.existence collection (some part))
  | unknown {members : Entries Json} {type : String} :
    memberOr "type" (.str "unknown") members = .str type → type ∉ nodeTypes →
      Node Part (.obj members) (.unknown type (extraMembers members))

/-- How an object writes a predicate. -/
inductive Writes : Json → Predicate → Prop where
  | node {v : Json} {p : Predicate} : Node Writes v p → Writes v p

end Predicate

section ClaimedType

variable {members : Entries Json} {type : String} {known : List String}

theorem claimedType_eq_some_iff :
    claimedType members = some type ↔ get? "type" members = some (.str type) := by
  rw [claimedType]
  split
  · next s h => simp [h]
  · next h =>
    refine iff_of_false nofun ?_
    intro ht
    exact h type ht

theorem not_mem_of_claimedType (h : memberOr "type" (.str "unknown") members = .str type)
    (hu : "unknown" ∉ known) (hk : ∀ t ∈ known, claimedType members ≠ some t) : type ∉ known := by
  intro ht
  cases hg : get? "type" members with
  | none =>
    rw [memberOr, hg] at h
    cases h
    exact hu ht
  | some v =>
    rw [memberOr, hg] at h
    cases h
    exact hk type ht (claimedType_eq_some_iff.mpr hg)

theorem claimedType_ne_of_not_mem (h : memberOr "type" (.str "unknown") members = .str type)
    (ht : type ∉ known) : ∀ t ∈ known, claimedType members ≠ some t := by
  intro t hm hc
  rw [memberOr, claimedType_eq_some_iff.mp hc] at h
  cases h
  exact ht hm

end ClaimedType

namespace Target

variable {v : Json} {target : Target}

theorem writes_of_check (h : check v = valid target) : Writes v target := by
  cases v with
  | obj members =>
    rw [check, refine_eq_valid_iff] at h
    obtain ⟨type, ht, h⟩ := h
    obtain ⟨ht, htags⟩ := tag_eq_valid_iff.mp ht
    rw [within_eq_valid_iff, map_eq_valid_iff] at h
    obtain ⟨name, hname, rfl⟩ := h
    rw [required_text_eq_valid_iff] at hname
    simp only [tags, List.mem_cons, List.not_mem_nil, or_false] at htags
    rcases htags with rfl | rfl
    · exact .column ht hname
    · exact .rootColumn ht hname
  | _ => cases h

theorem check_of_writes (h : Writes v target) : check v = valid target := by
  cases h with
  | column ht hname =>
    rw [check, tag_eq_valid_iff.mpr ⟨ht, by decide⟩, refine, required_text_eq_valid_iff.mpr hname]
    rfl
  | rootColumn ht hname =>
    rw [check, tag_eq_valid_iff.mpr ⟨ht, by decide⟩, refine, required_text_eq_valid_iff.mpr hname]
    rfl

end Target

namespace Operand

variable {v : Json} {operand : Operand}

theorem writes_of_check (h : check v = valid operand) : Writes v operand := by
  cases v with
  | obj members =>
    rw [check] at h
    split at h
    all_goals
      rw [within_eq_valid_iff, map_eq_valid_iff] at h
      obtain ⟨x, hx, rfl⟩ := h
    · next ht =>
      exact .scalar (claimedType_eq_some_iff.mp ht) (optional_anything_eq_valid_iff.mp hx)
    · next ht =>
      exact .parameter (claimedType_eq_some_iff.mp ht) (required_text_eq_valid_iff.mp hx)
    · next ht =>
      obtain ⟨w, hw, htarget⟩ := required_eq_valid_iff.mp hx
      exact .column (claimedType_eq_some_iff.mp ht) hw (Target.writes_of_check htarget)
    · next hscalar hvariable hcolumn =>
      rw [unknownType, optional_text_eq_valid_iff] at hx
      refine .unknown hx (not_mem_of_claimedType hx (by decide) ?_)
      simp only [List.forall_mem_cons]
      exact ⟨hscalar, hvariable, hcolumn, nofun⟩
  | _ => cases h

theorem check_of_writes (h : Writes v operand) : check v = valid operand := by
  cases h with
  | scalar ht hvalue =>
    have hvalue := optional_anything_eq_valid_iff.mpr hvalue
    simp only [check, claimedType_eq_some_iff.mpr ht, hvalue]
    rfl
  | parameter ht hname =>
    have hname := required_text_eq_valid_iff.mpr hname
    simp only [check, claimedType_eq_some_iff.mpr ht, hname]
    rfl
  | column ht hv htarget =>
    have htarget := required_eq_valid_iff.mpr ⟨_, hv, Target.check_of_writes htarget⟩
    simp only [check, claimedType_eq_some_iff.mpr ht, htarget]
    rfl
  | unknown ht hk =>
    have hne := claimedType_ne_of_not_mem ht hk
    rw [check]
    split
    · next hc => exact absurd hc (hne _ (by decide))
    · next hc => exact absurd hc (hne _ (by decide))
    · next hc => exact absurd hc (hne _ (by decide))
    · rw [within_eq_valid_iff, map_eq_valid_iff]
      exact ⟨_, optional_text_eq_valid_iff.mpr ht, rfl⟩

end Operand

namespace Predicate

section Parts

def directParts : Predicate → List Predicate
  | all parts | any parts => parts
  | not part => [part]
  | existence _ part => part.toList
  | comparison .. | unary .. | unknown .. => []

mutual

/-- What holds of every node of whose parts it holds, holds of every predicate. -/
theorem inductionOnParts {motive : Predicate → Prop}
    (node : ∀ p, (∀ part ∈ p.directParts, motive part) → motive p) : (p : Predicate) → motive p
  | all parts => node _ (inductionOnAll node parts)
  | any parts => node _ (inductionOnAll node parts)
  | not part => node _ (List.forall_mem_singleton.mpr (inductionOnParts node part))
  | existence _ none => node _ nofun
  | existence _ (some part) => node _ (List.forall_mem_singleton.mpr (inductionOnParts node part))
  | comparison .. => node _ nofun
  | unary .. => node _ nofun
  | unknown .. => node _ nofun

theorem inductionOnAll {motive : Predicate → Prop}
    (node : ∀ p, (∀ part ∈ p.directParts, motive part) → motive p) :
    (parts : List Predicate) → ∀ part ∈ parts, motive part
  | [] => nofun
  | part :: parts =>
    List.forall_mem_cons.mpr ⟨inductionOnParts node part, inductionOnAll node parts⟩

end

theorem Node.imp {Part Part' : Json → Predicate → Prop} {v : Json} {p : Predicate}
    (h : Node Part v p) (himp : ∀ part ∈ p.directParts, ∀ v, Part v part → Part' v part) :
    Node Part' v p := by
  cases h with
  | all ht hitems hparts => exact .all ht hitems (forall₂_of_mem hparts himp)
  | any ht hitems hparts => exact .any ht hitems (forall₂_of_mem hparts himp)
  | not ht hv hpart => exact .not ht hv (himp _ List.mem_cons_self _ hpart)
  | comparison ht hv htarget ho hw hoperand => exact .comparison ht hv htarget ho hw hoperand
  | unary ht hv htarget ho => exact .unary ht hv htarget ho
  | existence ht hc hnull => exact .existence ht hc hnull
  | existenceOf ht hc hv hpart => exact .existenceOf ht hc hv (himp _ List.mem_cons_self _ hpart)
  | unknown ht hk => exact .unknown ht hk

end Parts

variable {v : Json} {p : Predicate}

theorem node_of_check (h : check v = valid p) : Node (fun v p => check v = valid p) v p := by
  cases v with
  | obj members =>
    -- The types are taken in the order of the check; the last case is that of all others.
    rw [check, partAt?_eq_map] at h
    split at h
    all_goals rw [within_eq_valid_iff] at h
    · next ht =>
      obtain ⟨parts, hparts, rfl⟩ := map_eq_valid_iff.mp h
      obtain ⟨items, hitems, hparts⟩ := partsAt_eq_valid_iff.mp hparts
      exact .all (claimedType_eq_some_iff.mp ht) hitems hparts
    · next ht =>
      obtain ⟨parts, hparts, rfl⟩ := map_eq_valid_iff.mp h
      obtain ⟨items, hitems, hparts⟩ := partsAt_eq_valid_iff.mp hparts
      exact .any (claimedType_eq_some_iff.mp ht) hitems hparts
    · next ht =>
      cases hg : get? "expression" members with
      | none =>
        rw [hg] at h
        cases h
      | some part =>
        rw [hg] at h
        obtain ⟨p, hp, rfl⟩ := map_eq_valid_iff.mp h
        exact .not (claimedType_eq_some_iff.mp ht) hg (within_eq_valid_iff.mp hp)
    · next ht =>
      simp only [seq_eq_valid_iff, map_eq_valid_iff] at h
      obtain ⟨_, operand, ⟨_, operator, ⟨target, htarget, rfl⟩, ho, rfl⟩, hoperand, rfl⟩ := h
      obtain ⟨v, hv, htarget⟩ := required_eq_valid_iff.mp htarget
      obtain ⟨w, hw, hoperand⟩ := required_eq_valid_iff.mp hoperand
      exact .comparison (claimedType_eq_some_iff.mp ht) hv (Target.writes_of_check htarget)
        (required_text_eq_valid_iff.mp ho) hw (Operand.writes_of_check hoperand)
    · next ht =>
      simp only [seq_eq_valid_iff, map_eq_valid_iff] at h
      obtain ⟨_, operator, ⟨target, htarget, rfl⟩, ho, rfl⟩ := h
      obtain ⟨v, hv, htarget⟩ := required_eq_valid_iff.mp htarget
      exact .unary (claimedType_eq_some_iff.mp ht) hv (Target.writes_of_check htarget)
        (optional_text_eq_valid_iff.mp ho)
    · next ht =>
      simp only [seq_eq_valid_iff, map_eq_valid_iff] at h
      obtain ⟨_, part, ⟨collection, hc, rfl⟩, hpart, rfl⟩ := h
      rw [optional_mapping_eq_valid_iff] at hc
      cases part with
      | none =>
        exact .existence (claimedType_eq_some_iff.mp ht) hc (optionalPartAt_eq_none_iff.mp hpart)
      | some part =>
        obtain ⟨v, hv, hpart⟩ := optionalPartAt_eq_some_iff.mp hpart
        exact .existenceOf (claimedType_eq_some_iff.mp ht) hc hv hpart
    · next hand hor hnot hbinary hunary hexists =>
      obtain ⟨type, ht, rfl⟩ := map_eq_valid_iff.mp h
      rw [unknownType, optional_text_eq_valid_iff] at ht
      refine .unknown ht (not_mem_of_claimedType ht (by decide) ?_)
      simp only [nodeTypes, List.forall_mem_cons]
      exact ⟨hand, hor, hnot, hbinary, hunary, hexists, nofun⟩
  | _ => cases h

theorem check_of_node (h : Node (fun v p => check v = valid p) v p) : check v = valid p := by
  cases h with
  | all ht hitems hparts =>
    have hparts := partsAt_eq_valid_iff.mpr ⟨_, hitems, hparts⟩
    simp only [check, claimedType_eq_some_iff.mpr ht, hparts]
    rfl
  | any ht hitems hparts =>
    have hparts := partsAt_eq_valid_iff.mpr ⟨_, hitems, hparts⟩
    simp only [check, claimedType_eq_some_iff.mpr ht, hparts]
    rfl
  | not ht hv hpart =>
    simp only [check, claimedType_eq_some_iff.mpr ht, partAt?_eq_map, hv, Option.map_some, hpart]
    rfl
  | comparison ht hv htarget ho hw hoperand =>
    have htarget := required_eq_valid_iff.mpr ⟨_, hv, Target.check_of_writes htarget⟩
    have ho := required_text_eq_valid_iff.mpr ho
    have hoperand := required_eq_valid_iff.mpr ⟨_, hw, Operand.check_of_writes hoperand⟩
    simp only [check, claimedType_eq_some_iff.mpr ht, htarget, ho, hoperand]
    rfl
  | unary ht hv htarget ho =>
    have htarget := required_eq_valid_iff.mpr ⟨_, hv, Target.check_of_writes htarget⟩
    have ho := optional_text_eq_valid_iff.mpr ho
    simp only [check, claimedType_eq_some_iff.mpr ht, htarget, ho]
    rfl
  | existence ht hc hnull =>
    have hc := optional_mapping_eq_valid_iff.mpr hc
    have hnull := optionalPartAt_eq_none_iff.mpr hnull
    simp only [check, claimedType_eq_some_iff.mpr ht, hc, hnull]
    rfl
  | existenceOf ht hc hv hpart =>
    have hc := optional_mapping_eq_valid_iff.mpr hc
    have hpart := optionalPartAt_eq_some_iff.mpr ⟨_, hv, hpart⟩
    simp only [check, claimedType_eq_some_iff.mpr ht, hc, hpart]
    rfl
  | unknown ht hk =>
    have hne := claimedType_ne_of_not_mem ht hk
    rw [check]
    split
    · next hc => exact absurd hc (hne _ (by decide))
    · next hc => exact absurd hc (hne _ (by decide))
    · next hc => exact absurd hc (hne _ (by decide))
    · next hc => exact absurd hc (hne _ (by decide))
    · next hc => exact absurd hc (hne _ (by decide))
    · next hc => exact absurd hc (hne _ (by decide))
    · rw [within_eq_valid_iff, map_eq_valid_iff]
      exact ⟨_, optional_text_eq_valid_iff.mpr ht, rfl⟩

/-- A value is valid as the predicate that it writes, and as no other. -/
theorem check_eq_valid_iff : check v = valid p ↔ Writes v p := by
  induction p using inductionOnParts generalizing v with
  | node p ih =>
    constructor
    · intro h
      refine .node ((node_of_check h).imp ?_)
      intro part hpart v hv
      exact (ih part hpart).mp hv
    · intro h
      obtain ⟨h⟩ := h
      refine check_of_node (h.imp ?_)
      intro part hpart v hv
      exact (ih part hpart).mpr hv

end Predicate

end ReportQuery
