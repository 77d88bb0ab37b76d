import ReportQuery.Json.Display
import ReportQuery.Schema.Fault

namespace ReportQuery.Schema

inductive Checked (α : Type) where
  | valid (value : α)
  | faulty (faults : List Fault)

namespace Checked

variable {α β : Type}

def map (f : α → β) : Checked α → Checked β
  | valid a => valid (f a)
  | faulty faults => faulty faults

def apply (f : Checked (α → β)) (a : Checked α) : Checked β :=
  match f, a with
  | valid f, valid a => valid (f a)
  | valid _, faulty faults => faulty faults
  | faulty faults, valid _ => faulty faults
  | faulty first, faulty second => faulty (first ++ second)

instance : Functor Checked := ⟨map, fun a => map fun _ => a⟩

instance : Applicative Checked where
  pure := valid
  seq f a := apply f (a ())

def fault (problem : Problem) : Checked α := faulty [⟨[], problem⟩]

def ofExcept : Except Problem α → Checked α
  | .ok a => valid a
  | .error problem => fault problem

/-- Moves the faults of a part to the part's place in the whole. -/
def within (step : Step) : Checked α → Checked α
  | valid a => valid a
  | faulty faults => faulty (faults.map fun f => { f with path := step :: f.path })

def refine (check : α → Checked β) : Checked α → Checked β
  | valid a => check a
  | faulty faults => faulty faults

theorem map_eq_valid_iff {f : α → β} {a : Checked α} {b : β} :
    f <$> a = valid b ↔ ∃ x, a = valid x ∧ f x = b := by
  cases a with
  | valid x => simp [Functor.map, map]
  | faulty faults => simp [Functor.map, map]

theorem seq_eq_valid_iff {f : Checked (α → β)} {a : Checked α} {b : β} :
    f <*> a = valid b ↔ ∃ g x, f = valid g ∧ a = valid x ∧ g x = b := by
  cases f with
  | valid g => cases a <;> simp [Seq.seq, apply]
  | faulty faults => cases a <;> simp [Seq.seq, apply]

@[simp]
theorem within_eq_valid_iff {step : Step} {a : Checked α} {b : α} :
    a.within step = valid b ↔ a = valid b := by
  cases a with
  | valid x => simp [within]
  | faulty faults => simp [within]

theorem refine_eq_valid_iff {check : α → Checked β} {a : Checked α} {b : β} :
    a.refine check = valid b ↔ ∃ x, a = valid x ∧ check x = valid b := by
  cases a with
  | valid x => simp [refine]
  | faulty faults => simp [refine]

instance : LawfulApplicative Checked where
  map_const := rfl
  id_map a := by cases a <;> rfl
  seqLeft_eq a b := by cases a <;> cases b <;> rfl
  seqRight_eq a b := by cases a <;> cases b <;> rfl
  pure_seq f a := by cases a <;> rfl
  map_pure f a := rfl
  seq_pure f a := by cases f <;> rfl
  seq_assoc a f g := by
    cases a <;> cases f <;> cases g <;> simp [Seq.seq, apply, Functor.map, map, List.append_assoc]

end Checked

open Checked

variable {α : Type}

def text : Json → Checked String
  | .str s => valid s
  | _ => fault .notText

def anything : Json → Checked Json := valid

def mapping : Json → Checked (Entries Json)
  | .obj members => valid members
  | _ => fault .notMapping

def record (check : Entries Json → Checked α) : Json → Checked α
  | .obj members => check members
  | _ => fault .notRecord

def word (expected : String) : Json → Checked Unit
  | .str s => if s = expected then valid () else fault (.notWord expected)
  | _ => fault (.notWord expected)

def oneOf (name : α → String) (choices : List α) : Json → Checked α
  | .str s =>
    match choices.find? fun choice => name choice = s with
    | some choice => valid choice
    | none => fault (.notOneOf (choices.map name))
  | _ => fault (.notOneOf (choices.map name))

def itemsFrom (check : Json → Checked α) (i : Nat) : List Json → Checked (List α)
  | [] => valid []
  | item :: items =>
    List.cons <$> (check item).within (.index i) <*> itemsFrom check (i + 1) items

def listOf (check : Json → Checked α) : Json → Checked (List α)
  | .arr items => itemsFrom check 0 items
  | _ => fault .notList

def membersOf (check : Json → Checked α) : Entries Json → Checked (Entries α)
  | [] => valid []
  | (key, value) :: members =>
    (fun a rest => (key, a) :: rest) <$> (check value).within (.key key) <*> membersOf check members

def mappingOf (check : Json → Checked α) : Json → Checked (Entries α)
  | .obj members => membersOf check members
  | _ => fault .notMapping

def nullable (check : Json → Checked α) : Json → Checked (Option α)
  | .null => valid none
  | value => some <$> check value

def required (key : String) (check : Json → Checked α) (members : Entries Json) : Checked α :=
  match Entries.get? key members with
  | some value => (check value).within (.key key)
  | none => (fault .missing).within (.key key)

def optional (key : String) (default : α) (check : Json → Checked α) (members : Entries Json) :
    Checked α :=
  match Entries.get? key members with
  | some value => (check value).within (.key key)
  | none => valid default

/-- The member that names the alternative of a union. -/
def tag (key : String) (tags : List String) (members : Entries Json) : Checked String :=
  match Entries.get? key members with
  | none => fault (.tagMissing key)
  | some (.str s) => if s ∈ tags then valid s else fault (.tagUnknown key s tags)
  | some value => fault (.tagUnknown key value.display tags)

def ofText (read? : String → Option Json) (check : Json → Checked α) (s : String) : Checked α :=
  match read? s with
  | some value => check value
  | none => fault .malformed

end ReportQuery.Schema
