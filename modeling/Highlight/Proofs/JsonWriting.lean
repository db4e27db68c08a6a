import Highlight.Declaration.Printer
import Highlight.Proofs.Failure

/-! # What is printed can be written

Writing fails only at a key that is no text. The keys of a declaration are names of fields and texts
of case tables, so a declaration is always written, as the value that is read back from it.
-/

namespace Highlight

namespace Json.Datum

mutual

theorem write_ofJson : (j : Json) → (ofJson j).write = .ok j
  | .null | .bool _ | .num _ | .str _ => rfl
  | .arr items => by
    rw [ofJson, write, writeItems_ofItems items]
    rfl
  | .obj members => by
    rw [ofJson, write, writeFields_ofFields members]
    rfl

theorem writeItems_ofItems : (xs : List Json) → writeItems (ofItems xs) = .ok xs
  | [] => rfl
  | x :: xs => by
    rw [ofItems, writeItems, write_ofJson x, writeItems_ofItems xs]
    rfl

theorem writeFields_ofFields :
    (xs : List (String × Json)) → writeFields (ofFields xs) = .ok xs
  | [] => rfl
  | (name, x) :: xs => by
    rw [ofFields, writeFields, write_ofJson x, writeFields_ofFields xs]
    rfl

end

theorem writeItems_map {α : Type} {f : α → Datum} {F : α → Json}
    (h : ∀ x, (f x).write = .ok (F x)) (xs : List α) :
    writeItems (xs.map f) = .ok (xs.map F) := by
  induction xs with
  | nil => rfl
  | cons x xs ih =>
    rw [List.map_cons, writeItems, h, ih]
    rfl

theorem writeEntries_map {α : Type} {k : α → String} {f : α → Datum} {F : α → Json}
    (h : ∀ x, (f x).write = .ok (F x)) (xs : List α) :
    writeEntries (xs.map fun x => (.str (k x), f x)) = .ok (xs.map fun x => (k x, F x)) := by
  induction xs with
  | nil => rfl
  | cons x xs ih =>
    rw [List.map_cons, writeEntries, key, h, ih]
    rfl

/-- The value is written as this member, or both are absent. -/
def WritesMember (x : String × Option Datum) (y : String × Option Json) : Prop :=
  x.1 = y.1 ∧ Option.Rel (fun d j => d.write = .ok j) x.2 y.2

theorem write_ofMembers {fields : List (String × Option Datum)}
    {members : List (String × Option Json)} (h : List.Forall₂ WritesMember fields members) :
    (ofMembers fields).write = .ok (.ofMembers members) := by
  induction h with
  | nil => rfl
  | @cons x y _ _ hxy _ ih =>
    obtain ⟨name, value⟩ := x
    obtain ⟨name', value'⟩ := y
    obtain ⟨rfl, hValue⟩ := hxy
    cases hValue with
    | none => exact ih
    | some hWrite =>
      rw [ofMembers, write] at ih ⊢
      obtain ⟨written, hFields, hEq⟩ := except_bind_eq_ok_iff.mp ih
      cases hEq
      simp only [List.filterMap_cons, Option.map_some, writeFields, hWrite, hFields]
      rfl

end Json.Datum

open Json (Datum)
open Json.Datum

theorem CaseTable.write_datum (t : CaseTable) : t.datum.write = .ok t.toJson := by
  have hEntries := writeEntries_map (k := Prod.fst) (f := fun x : String × String => .str x.2)
    (F := fun x => .str x.2) (fun _ => rfl) t.entries
  rw [datum, write, hEntries]
  rfl

theorem Outcome.write_datum (o : Outcome) : o.datum.write = .ok o.toJson := by
  cases o with
  | cases table default =>
    simp only [datum, write, writeFields, table.write_datum]
    rfl
  | emit | bracket | groups => exact write_ofJson _

theorem RuleDeclaration.write_datum (r : RuleDeclaration) : r.datum.write = .ok r.toJson := by
  refine write_ofMembers (.cons ⟨rfl, .some rfl⟩ (.cons ⟨rfl, .some r.outcome.write_datum⟩
    (.cons ⟨rfl, ?_⟩ .nil)))
  cases r.action.toJson? with
  | none => exact .none
  | some j => exact .some (write_ofJson j)

theorem Entry.write_datum (e : Entry) : e.datum.write = .ok e.toJson := by
  cases e with
  | «include» state => rfl
  | rule r => exact r.write_datum

theorem StateDeclaration.write_datum (s : StateDeclaration) : s.datum.write = .ok s.toJson := by
  simp only [datum, write, writeFields, writeItems_map Entry.write_datum]
  rfl

theorem Declaration.write_datum (d : Declaration) : d.datum.write = .ok d.toJson := by
  have hStates : (Datum.list (d.states.map StateDeclaration.datum)).write =
      .ok (.arr (d.states.map StateDeclaration.toJson)) := by
    rw [write, writeItems_map StateDeclaration.write_datum]
    rfl
  have hBrackets : (Datum.list (d.brackets.map fun b => .ofJson b.toJson)).write =
      .ok (.arr (d.brackets.map BracketPair.toJson)) := by
    rw [write, writeItems_map (fun b => write_ofJson (BracketPair.toJson b))]
    rfl
  refine write_ofMembers (.cons ⟨rfl, .some rfl⟩ (.cons ⟨rfl, .some rfl⟩ (.cons ⟨rfl, .some rfl⟩
    (.cons ⟨rfl, .some rfl⟩ (.cons ⟨rfl, .some rfl⟩ (.cons ⟨rfl, .some rfl⟩ (.cons ⟨rfl, ?_⟩
    (.cons ⟨rfl, .some hStates⟩ .nil))))))))
  dsimp only
  split
  · exact .none
  · exact .some hBrackets

end Highlight
