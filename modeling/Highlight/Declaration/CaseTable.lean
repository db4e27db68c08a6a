/-! # Case tables

A case table assigns tags to texts. Its entries are kept in the order of their texts, each text
once, so that tables with the same assignment are equal.
-/

namespace Highlight

structure CaseTable where
  entries : List (String × String)
  sorted : entries.Pairwise fun a b => a.1 < b.1
deriving DecidableEq

namespace CaseTable

def empty : CaseTable := ⟨[], .nil⟩

instance : Inhabited CaseTable := ⟨empty⟩

theorem eq_of_entries_eq {t u : CaseTable} (h : t.entries = u.entries) : t = u := by
  cases t
  cases u
  cases h
  rfl

/-- Insert into an ordered list of entries. The tag of a text that is there already is replaced. -/
def insertEntry (text tag : String) : List (String × String) → List (String × String)
  | [] => [(text, tag)]
  | e :: es =>
    if text < e.1 then (text, tag) :: e :: es
    else if text = e.1 then (text, tag) :: es
    else e :: insertEntry text tag es

theorem mem_insertEntry {text tag : String} {es : List (String × String)} {x : String × String}
    (h : x ∈ insertEntry text tag es) : x = (text, tag) ∨ x ∈ es := by
  induction es with
  | nil => simpa [insertEntry] using h
  | cons e es ih =>
    simp only [insertEntry] at h
    split at h
    · simpa using h
    · split at h
      · rcases List.mem_cons.1 h with h | h
        · exact .inl h
        · exact .inr (List.mem_cons_of_mem _ h)
      · rcases List.mem_cons.1 h with h | h
        · exact .inr (h ▸ List.mem_cons_self)
        · exact (ih h).imp_right (List.mem_cons_of_mem _)

theorem sorted_insertEntry (text tag : String) {es : List (String × String)}
    (h : es.Pairwise fun a b => a.1 < b.1) :
    (insertEntry text tag es).Pairwise fun a b => a.1 < b.1 := by
  induction es with
  | nil => simp [insertEntry]
  | cons e es ih =>
    rw [List.pairwise_cons] at h
    simp only [insertEntry]
    split
    case isTrue lt =>
      refine List.pairwise_cons.2 ⟨fun x hx => ?_, List.pairwise_cons.2 h⟩
      rcases List.mem_cons.1 hx with rfl | hx
      · exact lt
      · exact String.lt_trans lt (h.1 x hx)
    case isFalse notLt =>
      split
      case isTrue eq => exact List.pairwise_cons.2 ⟨fun x hx => eq ▸ h.1 x hx, h.2⟩
      case isFalse ne =>
        refine List.pairwise_cons.2 ⟨fun x hx => ?_, ih h.2⟩
        rcases mem_insertEntry hx with rfl | hx
        · exact Decidable.byContradiction fun ge =>
            ne (String.le_antisymm (String.not_lt.1 ge) (String.not_lt.1 notLt))
        · exact h.1 x hx

def insert (t : CaseTable) (text tag : String) : CaseTable :=
  ⟨insertEntry text tag t.entries, sorted_insertEntry text tag t.sorted⟩

def ofList (es : List (String × String)) : CaseTable :=
  es.foldl (fun t e => t.insert e.1 e.2) empty

def get? (t : CaseTable) (text : String) : Option String :=
  t.entries.lookup text

theorem lookup_insertEntry (text tag : String) (es : List (String × String)) (x : String) :
    (insertEntry text tag es).lookup x = if x = text then some tag else es.lookup x := by
  induction es with
  | nil => by_cases h : x = text <;> simp [insertEntry, List.lookup_cons, h, beq_eq_false_iff_ne.2]
  | cons e es ih =>
    obtain ⟨key, value⟩ := e
    simp only [insertEntry]
    split
    · by_cases h : x = text <;> simp [List.lookup_cons, h, beq_eq_false_iff_ne.2]
    · split
      case isTrue eq =>
        subst eq
        by_cases h : x = text <;> simp [List.lookup_cons, h, beq_eq_false_iff_ne.2]
      case isFalse ne =>
        simp only [List.lookup_cons, ih]
        by_cases h : x = text
        · simp [h, beq_eq_false_iff_ne.2 ne]
        · simp [h]

theorem get?_insert (t : CaseTable) (text tag x : String) :
    (t.insert text tag).get? x = if x = text then some tag else t.get? x :=
  lookup_insertEntry text tag t.entries x

end CaseTable

end Highlight
