import ReportQuery.Schema.Checked

namespace ReportQuery.Schema

open Checked

namespace Checked

variable {α β : Type}

def faults : Checked α → List Fault
  | valid _ => []
  | faulty faults => faults

/-- A result that is valid, or else names a fault. -/
def Explained (c : Checked α) : Prop := c.faults = [] → ∃ a, c = valid a

theorem explained_valid (a : α) : (valid a).Explained := fun _ => ⟨a, rfl⟩

theorem explained_fault (problem : Problem) : (fault problem : Checked α).Explained := nofun

theorem Explained.map {a : Checked α} (f : α → β) (h : a.Explained) : (f <$> a).Explained := by
  cases a with
  | valid a => exact explained_valid (f a)
  | faulty faults =>
    intro hf
    obtain ⟨_, h⟩ := h hf
    cases h

theorem Explained.seq {f : Checked (α → β)} {a : Checked α} (hf : f.Explained) (ha : a.Explained) :
    (f <*> a).Explained := by
  cases f with
  | valid f =>
    have hmap : valid f <*> a = f <$> a := pure_seq f a
    rw [hmap]
    exact ha.map f
  | faulty first =>
    intro h
    have hnil : first = [] := by
      cases a with
      | valid => exact h
      | faulty second => exact (List.append_eq_nil_iff.mp h).1
    obtain ⟨_, hf⟩ := hf hnil
    cases hf

theorem Explained.within {a : Checked α} (step : Step) (h : a.Explained) :
    (a.within step).Explained := by
  cases a with
  | valid a => exact explained_valid a
  | faulty faults =>
    intro hf
    obtain ⟨_, h⟩ := h (List.map_eq_nil_iff.mp hf)
    cases h

theorem Explained.refine {a : Checked α} {check : α → Checked β} (h : a.Explained)
    (hcheck : ∀ a, (check a).Explained) : (a.refine check).Explained := by
  cases a with
  | valid a => exact hcheck a
  | faulty faults =>
    intro hf
    obtain ⟨_, h⟩ := h hf
    cases h

end Checked

variable {α : Type} {check : Json → Checked α}

theorem explained_text (v : Json) : (text v).Explained := by
  cases v with
  | str s => exact explained_valid s
  | _ => exact explained_fault _

theorem explained_mapping (v : Json) : (mapping v).Explained := by
  cases v with
  | obj members => exact explained_valid members
  | _ => exact explained_fault _

section Members

variable (key : String) (members : Entries Json)

theorem explained_required (h : ∀ v, (check v).Explained) :
    (required key check members).Explained := by
  rw [required]
  split
  · exact (h _).within _
  · exact (explained_fault _).within _

theorem explained_optional (default : α) (h : ∀ v, (check v).Explained) :
    (optional key default check members).Explained := by
  rw [Schema.optional]
  split
  · exact (h _).within _
  · exact explained_valid default

theorem explained_tag (tags : List String) : (tag key tags members).Explained := by
  rw [tag]
  split
  · exact explained_fault _
  · split
    · exact explained_valid _
    · exact explained_fault _
  · exact explained_fault _

end Members

end ReportQuery.Schema
