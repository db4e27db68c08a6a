import Highlight.Declaration.Printer
import Highlight.Proofs.JsonReading
import Mathlib.Data.List.Forall2

/-! # The values that stand for a declaration

More than one JSON value stands for a declaration. A record is an object with its fields in any
order, or a list of all of them. What has its default may be left out of an object, and an object
may hold fields of other names. The value that is printed is one of these.
-/

namespace Highlight

namespace Json

/-- A field of a record: the values that stand for what it holds, and whether an object may leave
it out. -/
structure Field where
  name : String
  holds : Json → Prop
  omissible : Prop := False

/-- The members of an object that stands for a record. Each field is there once, and what else is
there has none of the reserved names. -/
structure Record (reserved : List String) (fs : List Field) (ms : List (String × Json)) : Prop where
  fields : ∀ f ∈ fs, (∃ j, f.holds j ∧ ms.filter (·.1 == f.name) = [(f.name, j)]) ∨
    f.omissible ∧ ∀ m ∈ ms, m.1 ≠ f.name
  others : ∀ m ∈ ms, (∀ f ∈ fs, m.1 ≠ f.name) → m.1 ∉ reserved ∧ Fits 100 m.2

inductive WritesRecord (reserved : List String) (fs : List Field) : Json → Prop
  | object {ms : List (String × Json)} (h : Record reserved fs ms) :
    WritesRecord reserved fs (.obj ms)
  | list {js : List Json} (h : List.Forall₂ Field.holds fs js) : WritesRecord reserved fs (.arr js)

section Members

variable {reserved : List String} {fs : List Field}

theorem Record.holds_of_mem {ms : List (String × Json)} (h : Record reserved fs ms) {f : Field}
    (hf : f ∈ fs) {m : String × Json} (hm : m ∈ ms) (hKey : m.1 = f.name) : f.holds m.2 := by
  obtain ⟨j, hj, hFilter⟩ | ⟨-, hNone⟩ := h.fields f hf
  · have hMem : m ∈ ms.filter (·.1 == f.name) := List.mem_filter.mpr ⟨hm, beq_iff_eq.mpr hKey⟩
    rw [hFilter, List.mem_singleton] at hMem
    rwa [hMem]
  · exact absurd hKey (hNone m hm)

theorem filter_filterMap_members {ms : List (String × Option Json)} {name : String}
    {x : Option Json} (hNodup : (ms.map Prod.fst).Nodup) (h : (name, x) ∈ ms) :
    (ms.filterMap fun (key, value) => value.map (key, ·)).filter (·.1 == name) =
      (x.map (name, ·)).toList := by
  induction ms with
  | nil => cases h
  | cons m ms ih =>
    obtain ⟨key, y⟩ := m
    obtain ⟨hNew, hNodup⟩ := List.nodup_cons.mp hNodup
    by_cases hEq : key = name
    · subst hEq
      have hRest :
          (ms.filterMap fun (key, value) => value.map (key, ·)).filter (·.1 == key) = [] := by
        refine List.filter_eq_nil_iff.mpr fun n hn hKey => hNew ?_
        obtain ⟨⟨k, v⟩, hk, hv⟩ := List.mem_filterMap.mp hn
        obtain ⟨_, -, rfl⟩ := Option.map_eq_some_iff.mp hv
        exact List.mem_map.mpr ⟨_, hk, beq_iff_eq.mp hKey⟩
      have hxy : x = y := by
        rcases List.mem_cons.mp h with hSame | hMem
        · exact (Prod.mk.inj hSame).2
        · exact absurd (List.mem_map.mpr ⟨_, hMem, rfl⟩) hNew
      subst hxy
      cases x with
      | none => simpa using hRest
      | some j => simpa using hRest
    · have hMem : (name, x) ∈ ms :=
        (List.mem_cons.mp h).resolve_left fun hSame => hEq (Prod.mk.inj hSame).1.symm
      rw [← ih hNodup hMem]
      cases y with
      | none => rfl
      | some j => simp [hEq]

/-- A member that may be absent is in order if it holds what the field holds, or may be left out. -/
inductive Field.Allows (f : Field) : String × Option Json → Prop
  | member {j : Json} (h : f.holds j) : f.Allows (f.name, some j)
  | absent (h : f.omissible) : f.Allows (f.name, none)

theorem Field.allows {f : Field} {x : Option Json} (hHolds : ∀ j ∈ x, f.holds j)
    (hAbsent : x = none → f.omissible) : f.Allows (f.name, x) := by
  cases x with
  | none => exact .absent (hAbsent rfl)
  | some j => exact .member (hHolds j rfl)

theorem writesRecord_ofMembers {ms : List (String × Option Json)}
    (hNodup : (ms.map Prod.fst).Nodup) (h : List.Forall₂ Field.Allows fs ms) :
    WritesRecord reserved fs (.ofMembers ms) := by
  refine .object ⟨fun f hf => ?_, fun n hn hOther => ?_⟩
  · obtain ⟨m, hm, hAllows⟩ := exists_of_mem_of_forall₂ h.flip hf
    have hFilter := filter_filterMap_members hNodup hm
    cases hAllows with
    | member hHolds => exact .inl ⟨_, hHolds, hFilter⟩
    | absent hOmits =>
      refine .inr ⟨hOmits, fun n hn hKey => ?_⟩
      exact List.filter_eq_nil_iff.mp hFilter n hn (beq_iff_eq.mpr hKey)
  · obtain ⟨m, hm, hEq⟩ := List.mem_filterMap.mp hn
    obtain ⟨j, -, rfl⟩ := Option.map_eq_some_iff.mp hEq
    obtain ⟨f, hf, hAllows⟩ := exists_of_mem_of_forall₂ h hm
    cases hAllows <;> exact absurd rfl (hOther f hf)

end Members

inductive WritesList {α : Type} (writes : α → Json → Prop) (xs : List α) : Json → Prop
  | list {js : List Json} (h : List.Forall₂ writes xs js) : WritesList writes xs (.arr js)

inductive WritesOptional {α : Type} (writes : α → Json → Prop) : Option α → Json → Prop
  | absent : WritesOptional writes none .null
  | present {x : α} {j : Json} (h : writes x j) : WritesOptional writes (some x) j

inductive Names (name : String) : Json → Prop
  | text : Names name (.str name)
  | key : Names name (.obj [(name, .null)])

theorem writesList_map {α : Type} {writes : α → Json → Prop} {encode : α → Json}
    (h : ∀ x, writes x (encode x)) (xs : List α) : WritesList writes xs (.arr (xs.map encode)) :=
  .list (List.forall₂_map_right_iff.mpr (List.forall₂_same.mpr fun x _ => h x))

end Json

open Json

inductive CaseTable.WrittenAs (t : CaseTable) : Json → Prop
  | object {es : List (String × String)} (h : es.Perm t.entries) :
    t.WrittenAs (.obj (es.map fun (text, tag) => (text, .str tag)))

def Polarity.WrittenAs (p : Polarity) (j : Json) : Prop := Names p.name j

namespace Outcome

def casesFields (table : CaseTable) (default : String) : List Field :=
  [⟨"table", table.WrittenAs, False⟩, ⟨"default", (· = .str default), False⟩]

def bracketFields (tag : Option String) (polarity : Option Polarity) : List Field :=
  [⟨"tag", WritesOptional (fun x j => j = .str x) tag, tag = none⟩,
    ⟨"polarity", WritesOptional Polarity.WrittenAs polarity, polarity = none⟩]

inductive WrittenAs : Outcome → Json → Prop
  | emit {tag : String} : WrittenAs (.emit tag) (.obj [("emit", .str tag)])
  | cases {table : CaseTable} {default : String} {j : Json}
    (h : WritesRecord [] (casesFields table default) j) :
    WrittenAs (.cases table default) (.obj [("cases", j)])
  | bracket {tag : Option String} {polarity : Option Polarity} {j : Json}
    (h : WritesRecord [] (bracketFields tag polarity) j) :
    WrittenAs (.bracket tag polarity) (.obj [("bracket", j)])
  | groups {tags : List String} : WrittenAs (.groups tags) (.obj [("groups", .arr (tags.map .str))])

end Outcome

inductive StackAction.WrittenAs : StackAction → Json → Prop
  | stay {j : Json} (h : Names "none" j) : WrittenAs .stay j
  | push {target : String} : WrittenAs (.push target) (.obj [("push", .str target)])
  | pop {j : Json} (h : Names "pop" j) : WrittenAs .pop j
  | switch {target : String} : WrittenAs (.switch target) (.obj [("switch", .str target)])
  | popAll {j : Json} (h : Names "popAll" j) : WrittenAs .popAll j

def RuleDeclaration.fields (r : RuleDeclaration) : List Field :=
  [⟨"regex", (· = .str r.pattern), False⟩, ⟨"outcome", r.outcome.WrittenAs, False⟩,
    ⟨"action", r.action.WrittenAs, r.action = .stay⟩]

def Entry.includeFields (state : String) : List Field :=
  [⟨"include", (· = .str state), False⟩]

-- An object with an include is never a rule, whatever else it holds.
inductive Entry.WrittenAs : Entry → Json → Prop
  | include {state : String} {ms : List (String × Json)} (h : Record [] (includeFields state) ms) :
    WrittenAs (.include state) (.obj ms)
  | rule {r : RuleDeclaration} {j : Json} (h : WritesRecord ["include"] r.fields j) :
    WrittenAs (.rule r) j

def StateDeclaration.fields (x : StateDeclaration) : List Field :=
  [⟨"name", (· = .str x.name), False⟩, ⟨"rules", WritesList Entry.WrittenAs x.entries, False⟩]

def StateDeclaration.WrittenAs (x : StateDeclaration) (j : Json) : Prop := WritesRecord [] x.fields j

def BracketPair.fields (b : BracketPair) : List Field :=
  [⟨"open", (· = .str b.opening), False⟩, ⟨"close", (· = .str b.closing), False⟩,
    ⟨"token", (· = .str b.tag), False⟩]

def BracketPair.WrittenAs (b : BracketPair) (j : Json) : Prop := WritesRecord [] b.fields j

namespace Declaration

def fields (d : Declaration) : List Field :=
  [⟨"version", (· = .ofNat d.version.toNat), d.version = currentVersion⟩,
    ⟨"name", (· = .str d.name), False⟩,
    ⟨"root", (· = .str d.root), False⟩,
    ⟨"defaultToken", (· = .str d.defaultTag), False⟩,
    ⟨"ignoreCase", (· = .bool d.ignoreCase), d.ignoreCase = false⟩,
    ⟨"tokenPostfix", (· = .str d.tagEnding), d.tagEnding = ""⟩,
    ⟨"brackets", WritesList BracketPair.WrittenAs d.brackets, d.brackets = []⟩,
    ⟨"states", WritesList StateDeclaration.WrittenAs d.states, False⟩]

def WrittenAs (d : Declaration) (j : Json) : Prop := WritesRecord [] d.fields j

/-- The text is a spelling of a value that stands for the declaration, with blanks around it. -/
inductive SpelledBy (d : Declaration) : String → Prop
  | text {j : Json} {w t v : List Char} (h : d.WrittenAs j) (hBefore : Blank w) (hText : Spells j t)
    (hAfter : Blank v) : d.SpelledBy (String.ofList (w ++ (t ++ v)))

end Declaration

theorem CaseTable.writtenAs_toJson (t : CaseTable) : t.WrittenAs t.toJson :=
  .object (.refl t.entries)

theorem Outcome.writtenAs_toJson (o : Outcome) : o.WrittenAs o.toJson := by
  cases o with
  | emit tag => exact .emit
  | cases table default =>
    have hFields : WritesRecord [] (casesFields table default)
        (.ofMembers [("table", some table.toJson), ("default", some (.str default))]) :=
      writesRecord_ofMembers (by simp)
        (.cons (.member table.writtenAs_toJson) (.cons (.member rfl) .nil))
    exact .cases hFields
  | bracket tag polarity =>
    have hTag (j : Json) (hj : j ∈ tag.map .str) : WritesOptional (fun x j => j = .str x) tag j := by
      obtain ⟨x, rfl, rfl⟩ := Option.map_eq_some_iff.mp hj
      exact .present rfl
    have hPolarity (j : Json) (hj : j ∈ polarity.map (.str ·.name)) :
        WritesOptional Polarity.WrittenAs polarity j := by
      obtain ⟨p, rfl, rfl⟩ := Option.map_eq_some_iff.mp hj
      exact .present .text
    exact .bracket (writesRecord_ofMembers (by simp)
      (.cons (Field.allows hTag Option.map_eq_none_iff.mp)
        (.cons (Field.allows hPolarity Option.map_eq_none_iff.mp) .nil)))
  | groups tags => exact .groups

theorem StackAction.writtenAs_of_toJson? {a : StackAction} {j : Json} (h : a.toJson? = some j) :
    a.WrittenAs j := by
  cases a with
  | stay => cases h
  | push target =>
    cases h
    exact .push
  | pop =>
    cases h
    exact .pop .text
  | switch target =>
    cases h
    exact .switch
  | popAll =>
    cases h
    exact .popAll .text

theorem StackAction.eq_stay_of_toJson? {a : StackAction} (h : a.toJson? = none) : a = .stay := by
  cases a with
  | stay => rfl
  | push target | switch target | pop | popAll => cases h

theorem Entry.writtenAs_toJson (e : Entry) : e.WrittenAs e.toJson := by
  cases e with
  | «include» state =>
    have hFields : Record [] (includeFields state) [("include", .str state)] :=
      ⟨by simp [includeFields], by simp [includeFields]⟩
    exact .include hFields
  | rule r =>
    exact .rule (writesRecord_ofMembers (by simp)
      (.cons (.member rfl) (.cons (.member r.outcome.writtenAs_toJson)
        (.cons (Field.allows (fun _ => StackAction.writtenAs_of_toJson?)
          StackAction.eq_stay_of_toJson?) .nil))))

theorem StateDeclaration.writtenAs_toJson (x : StateDeclaration) : x.WrittenAs x.toJson := by
  have hFields : WritesRecord [] x.fields (.ofMembers
      [("name", some (.str x.name)), ("rules", some (.arr (x.entries.map Entry.toJson)))]) :=
    writesRecord_ofMembers (by simp) (.cons (.member rfl)
      (.cons (.member (writesList_map Entry.writtenAs_toJson x.entries)) .nil))
  exact hFields

theorem BracketPair.writtenAs_toJson (b : BracketPair) : b.WrittenAs b.toJson := by
  have hFields : WritesRecord [] b.fields (.ofMembers [("open", some (.str b.opening)),
      ("close", some (.str b.closing)), ("token", some (.str b.tag))]) :=
    writesRecord_ofMembers (by simp)
      (.cons (.member rfl) (.cons (.member rfl) (.cons (.member rfl) .nil)))
  exact hFields

theorem Declaration.writtenAs_toJson (d : Declaration) : d.WrittenAs d.toJson := by
  have hBrackets (j : Json) (h : j ∈ if d.brackets.isEmpty then none else
      some (Json.arr (d.brackets.map BracketPair.toJson))) :
      WritesList BracketPair.WrittenAs d.brackets j := by
    rw [Option.mem_def, ite_eq_iff] at h
    obtain ⟨-, ⟨⟩⟩ | ⟨-, ⟨⟩⟩ := h
    exact writesList_map BracketPair.writtenAs_toJson d.brackets
  exact writesRecord_ofMembers (by simp)
    (.cons (.member rfl) (.cons (.member rfl) (.cons (.member rfl) (.cons (.member rfl)
      (.cons (.member rfl) (.cons (.member rfl) (.cons (Field.allows hBrackets (by simp))
        (.cons (.member (writesList_map StateDeclaration.writtenAs_toJson d.states)) .nil))))))))

theorem Declaration.spelledBy_print (d : Declaration) : d.SpelledBy d.print := by
  have hText := SpelledBy.text d.writtenAs_toJson .nil (spells_render 0 d.toJson) .nil
  rwa [List.nil_append, List.append_nil] at hText

end Highlight
