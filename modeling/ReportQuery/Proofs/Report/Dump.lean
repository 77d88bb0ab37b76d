import ReportQuery.Proofs.Filter.Leaves
import ReportQuery.Proofs.Schema.Valid
import ReportQuery.Report.Schema

namespace ReportQuery

open Schema Checked Entries

theorem LeafTest.check_toJson (t : LeafTest) : check t.toJson = valid t := by
  cases t with
  | text value matching => cases matching <;> rfl
  | number comparison value => cases comparison <;> rfl

theorem Leaf.check_members (l : Leaf) :
    check [("kind", .str "leaf"), ("field_name", .str l.field), ("predicate", l.test.toJson)] =
      valid l := by
  change Leaf.mk <$> (Schema.text (.str l.field)).within (.key "field_name")
    <*> (LeafTest.check l.test.toJson).within (.key "predicate") = valid l
  rw [l.test.check_toJson]
  rfl

namespace FilterTree

mutual

theorem check_toJson : (tree : FilterTree) → check tree.toJson = valid tree
  | leaf l => by
    rw [toJson, Leaf.toJson, check, tag_eq_valid_iff.mpr ⟨rfl, by decide⟩, refine, if_pos rfl,
      l.check_members]
    rfl
  | group trees => by
    have hparts : partsAt "expressions"
        [("kind", .str "and_group"), ("expressions", .arr (partsToJson trees))] =
          (partsFrom 0 (partsToJson trees)).within (.key "expressions") := rfl
    rw [toJson, check, tag_eq_valid_iff.mpr ⟨rfl, by decide⟩, refine, if_neg (by decide), hparts,
      partsFrom_partsToJson 0 trees]
    rfl

theorem partsFrom_partsToJson (i : Nat) : (parts : List FilterTree) →
    partsFrom i (partsToJson parts) = valid parts
  | [] => by rw [partsToJson, partsFrom]
  | part :: parts => by
    rw [partsToJson, partsFrom, check_toJson part, partsFrom_partsToJson (i + 1) parts]
    rfl

end

theorem nullable_check_toJson (tree : Option FilterTree) :
    nullable check (.ofOption toJson tree) = valid tree := by
  cases tree with
  | none => rfl
  | some tree =>
    rw [nullable_eq_some_iff]
    refine ⟨?_, check_toJson tree⟩
    cases tree with
    | leaf l => exact nofun
    | group parts => exact nofun

end FilterTree

theorem Schema.listOf_text_strings (names : List String) :
    listOf text (.strings names) = valid names := by
  rw [listOf_eq_valid_iff]
  refine ⟨_, rfl, ?_⟩
  rw [List.forall₂_map_left_iff, List.forall₂_same]
  intro name _
  rfl

theorem DateRange.check_toJson (r : DateRange) : check r.toJson = valid r := rfl

theorem Report.check_toJson (r : Report) : check r.toJson = valid r := by
  -- Every member is there, so that no default is taken.
  change Report.mk <$> (text (.str r.propertyId)).within (.key "property_id")
    <*> (DateRange.check r.dates.toJson).within (.key "date_range")
    <*> (listOf text (.strings r.dimensionNames)).within (.key "dimension_names")
    <*> (listOf text (.strings r.metricNames)).within (.key "metric_names")
    <*> (integer (.int r.limit)).within (.key "limit")
    <*> (nullable FilterTree.check (.ofOption FilterTree.toJson r.dimensionFilter)).within
      (.key "dimension_filter")
    <*> (nullable FilterTree.check (.ofOption FilterTree.toJson r.metricFilter)).within
      (.key "metric_filter") = valid r
  rw [r.dates.check_toJson, listOf_text_strings, listOf_text_strings,
    FilterTree.nullable_check_toJson, FilterTree.nullable_check_toJson]
  rfl

section Finite

def Leaf.IsFinite (l : Leaf) : Prop :=
  ∀ comparison x, l.test = .number comparison x → x.isFinite

theorem Leaf.finite_toJson {l : Leaf} (h : l.IsFinite) : l.toJson.finite = l.toJson := by
  obtain ⟨field, test⟩ := l
  cases test with
  | text value matching => rfl
  | number comparison x =>
    have hx : (Json.float x).finite = .float x := if_pos (h comparison x rfl)
    simp only [toJson, LeafTest.toJson, Json.finite, Json.finiteMembers] at hx ⊢
    rw [hx]

namespace FilterTree

mutual

theorem finite_toJson : (tree : FilterTree) → (∀ l ∈ tree.leaves, l.IsFinite) →
    tree.toJson.finite = tree.toJson
  | leaf l, h => by
    rw [toJson]
    exact Leaf.finite_toJson (h l (List.mem_singleton.mpr rfl))
  | group parts, h => by
    rw [toJson]
    simp only [Json.finite, Json.finiteMembers]
    rw [finiteItems_partsToJson parts h]

theorem finiteItems_partsToJson : (parts : List FilterTree) → (∀ l ∈ leavesOf parts, l.IsFinite) →
    Json.finiteItems (partsToJson parts) = partsToJson parts
  | [], _ => rfl
  | part :: parts, h => by
    rw [leavesOf, List.forall_mem_append] at h
    rw [partsToJson, Json.finiteItems, finite_toJson part h.1, finiteItems_partsToJson parts h.2]

end

theorem finite_ofOption_toJson (tree : Option FilterTree) (h : ∀ l ∈ leavesIn tree, l.IsFinite) :
    (Json.ofOption toJson tree).finite = .ofOption toJson tree := by
  cases tree with
  | none => rfl
  | some tree => exact finite_toJson tree h

end FilterTree

theorem Json.finite_strings (items : List String) : (strings items).finite = strings items := by
  have h : finiteItems (items.map .str) = items.map .str := by
    induction items with
    | nil => rfl
    | cons item items ih =>
      rw [List.map_cons, finiteItems, ih]
      rfl
  rw [strings, finite, h]

theorem Report.finite_toJson {r : Report}
    (hd : ∀ l ∈ FilterTree.leavesIn r.dimensionFilter, l.IsFinite)
    (hm : ∀ l ∈ FilterTree.leavesIn r.metricFilter, l.IsFinite) : r.toJson.finite = r.toJson := by
  simp only [toJson, DateRange.toJson, Json.finite, Json.finiteMembers]
  rw [Json.finite_strings, Json.finite_strings, FilterTree.finite_ofOption_toJson _ hd,
    FilterTree.finite_ofOption_toJson _ hm]

end Finite

end ReportQuery
