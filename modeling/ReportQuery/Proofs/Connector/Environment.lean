import ReportQuery.Proofs.Connector.Plan
import ReportQuery.Proofs.Connector.Run
import ReportQuery.Proofs.Report.Row

namespace ReportQuery

namespace Environment.Answers

variable {env : Environment} {c : Connector} {q : Query} {p : Plan} {row : Row}

theorem dimension_of_plan (h : env.Answers p.report row) (hp : c.plan q = .ok p) :
    (Selection.split q.fields).dimensionNames.map env.dimension <+: row.dimensionValues := by
  obtain ⟨_, _, _, -, -, -, rfl⟩ := Connector.plan_eq_ok_iff.mp hp
  exact (prefix_addName.map env.dimension).trans h.dimension

theorem metric_of_plan (h : env.Answers p.report row) (hp : c.plan q = .ok p) :
    (Selection.split q.fields).metricNames.map env.metric <+: row.metricValues := by
  obtain ⟨_, _, _, -, -, -, rfl⟩ := Connector.plan_eq_ok_iff.mp hp
  exact h.metric

theorem covers_of_plan (h : env.Answers p.report row) (hp : c.plan q = .ok p) :
    (Selection.split q.fields).Covers row := by
  have hd := (h.dimension_of_plan hp).length_le
  have hm := (h.metric_of_plan hp).length_le
  rw [List.length_map] at hd hm
  exact ⟨hd, hm⟩

end Environment.Answers

namespace Connector

variable {Sent : Type} {c : Connector} {q : Query} {p : Plan} {client : ReportClient Sent}
  {trace : Trace}

theorem selection_of_plan (hp : c.plan q = .ok p) : p.selection = .split q.fields := by
  obtain ⟨_, _, _, -, -, -, rfl⟩ := plan_eq_ok_iff.mp hp
  rfl

theorem conclude_of_mapRows {rows : List Row} {mapped : List OutputRow}
    (h : p.selection.mapRows rows (some p.report) = .ok mapped) :
    (conclude p (.ok rows)).1 = .ok mapped := by
  simp only [conclude, h]

/-- One output row for each environment, in which every field has the value that the environment
gives its column. -/
theorem query_fills (hp : c.plan q = .ok p) {envs : List Environment} (hne : envs ≠ [])
    {rows : List Row} (hanswer : (client p.report).answer = .ok rows)
    (hrows : List.Forall₂ (fun env row => env.Answers p.report row) envs rows) :
    ∃ mapped, (c.query (some client) q trace).result = .ok mapped ∧
      List.Forall₂ (fun env row => env.Fills q.fields row) envs mapped := by
  have hcovers : ∀ row ∈ rows, p.selection.Covers row := by
    rw [selection_of_plan hp]
    clear hne hanswer
    induction hrows with
    | nil => simp
    | cons h _ ih => exact List.forall_mem_cons.mpr ⟨h.covers_of_plan hp, ih⟩
  have hnonempty : rows ≠ [] := by
    intro he
    rw [he, List.forall₂_nil_right_iff] at hrows
    exact hne hrows
  refine ⟨rows.map p.selection.outputRow, ?_, ?_⟩
  · rw [query_result_of_plan hp, hanswer]
    exact conclude_of_mapRows (Selection.mapRows_eq_ok_iff.mpr ⟨hnonempty, hcovers, rfl⟩)
  · rw [List.forall₂_map_right_iff, selection_of_plan hp]
    apply hrows.imp
    intro env row h
    exact Environment.fills_outputRow q.nodup_fields (h.dimension_of_plan hp) (h.metric_of_plan hp)

theorem query_fills_visits :
    let envs : List Environment :=
      [⟨fun x => some (if x = "country" then "US" else "shop.example.com"), fun _ => some "12"⟩,
        ⟨fun _ => none, fun _ => some ""⟩]
    let rows : List Row :=
      [⟨[some "US", some "shop.example.com", some "behind"], [some "12"]⟩,
        ⟨[none, none], [some "", some "behind"]⟩]
    let mapped : List OutputRow :=
      [[("country", some "US"), ("land", some "US"), ("visits", some "12")],
        [("country", none), ("land", none), ("visits", none)]]
    ofShop.plan .visits = .ok .visits ∧ envs ≠ [] ∧
      List.Forall₂ (fun env row => env.Answers .visits row) envs rows ∧
      (ofShop.query (some (.inMemory (.ok rows))) .visits (.fresh "trace")).result = .ok mapped ∧
      List.Forall₂ (fun env row => env.Fills Query.visits.fields row) envs mapped := by
  intro envs rows mapped
  have hne : envs ≠ [] := List.cons_ne_nil _ _
  have hrows : List.Forall₂ (fun env row => env.Answers .visits row) envs rows :=
    .cons ⟨by decide +kernel, by decide +kernel⟩ (.cons ⟨by decide +kernel, by decide +kernel⟩ .nil)
  have hmapped : (ofShop.query (some (.inMemory (.ok rows))) .visits (.fresh "trace")).result =
      .ok mapped := eq_ok_of_toOption (by decide +kernel)
  obtain ⟨filled, hfilled, hfills⟩ :=
    @query_fills _ _ _ _ (.inMemory (.ok rows)) (.fresh "trace") plan_visits _ hne _ rfl hrows
  rw [hmapped] at hfilled
  cases hfilled
  exact ⟨plan_visits, hne, hrows, hmapped, hfills⟩

end Connector

end ReportQuery
