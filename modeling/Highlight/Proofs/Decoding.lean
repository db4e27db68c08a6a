import Highlight.Declaration.Decoder
import Highlight.Proofs.WrittenForms

/-! # Entries are decoded from their JSON values

Every value that stands for an entry decodes to that entry. Such a value is not nested much deeper
than the values of its other fields, so that it fits where entries are read.
-/

namespace Highlight

open Json

theorem mapM_map_eq_some {α β : Type} {encode : α → β} {decode : β → Option α}
    (h : ∀ x, decode (encode x) = some x) (xs : List α) :
    (xs.map encode).mapM decode = some xs :=
  mapM_eq_some_of_forall₂ (List.forall₂_map_left_iff.mpr (List.forall₂_same.mpr fun x _ => h x))

namespace Json

variable {reserved : List String} {fs : List Field} {ms : List (String × Json)} {f : Field}

theorem Record.field?_eq (h : Record reserved fs ms) (hf : f ∈ fs) :
    (∃ j, f.holds j ∧ field? ms f.name = some (some j)) ∨
      f.omissible ∧ field? ms f.name = some none := by
  refine (h.fields f hf).imp ?_ ?_
  · rintro ⟨j, hj, hFilter⟩
    exact ⟨j, hj, by rw [field?, hFilter]⟩
  · rintro ⟨hOmits, hNone⟩
    have hFilter : ms.filter (·.1 == f.name) = [] :=
      List.filter_eq_nil_iff.mpr fun m hm hKey => hNone m hm (beq_iff_eq.mp hKey)
    exact ⟨hOmits, by rw [field?, hFilter]⟩

theorem Record.required?_eq (h : Record reserved fs ms) (hf : f ∈ fs) (hHas : ¬f.omissible) :
    ∃ j, f.holds j ∧ required? ms f.name = some j := by
  obtain ⟨j, hj, hField⟩ | ⟨hOmits, -⟩ := h.field?_eq hf
  · exact ⟨j, hj, by rw [required?, hField]; rfl⟩
  · exact absurd hOmits hHas

theorem Fits.mono {depth bound : Nat} {j : Json} (h : Fits depth j) (hLe : depth ≤ bound) :
    Fits bound j := by
  induction h generalizing bound with
  | null => exact .null
  | bool => exact .bool
  | natural hn => exact .natural hn
  | negative hPos hn => exact .negative hPos hn
  | string => exact .string
  | list _ ih =>
    obtain ⟨bound, rfl⟩ := Nat.exists_eq_add_of_le' (Nat.le_trans (Nat.le_add_left 2 _) hLe)
    exact .list fun x hx => ih x hx (by omega)
  | object _ ih =>
    obtain ⟨bound, rfl⟩ := Nat.exists_eq_add_of_le' (Nat.le_trans (Nat.le_add_left 2 _) hLe)
    exact .object fun m hm => ih m hm (by omega)

theorem Record.fits (h : Record reserved fs ms) {depth : Nat} (hDepth : 100 ≤ depth + 1)
    (hFields : ∀ f ∈ fs, ∀ j, f.holds j → Fits (depth + 1) j) : Fits (depth + 2) (.obj ms) := by
  refine .object fun m hm => ?_
  by_cases hKey : ∃ f ∈ fs, m.1 = f.name
  · obtain ⟨f, hf, hKey⟩ := hKey
    exact hFields f hf _ (h.holds_of_mem hf hm hKey)
  · exact (h.others m hm fun f hf hEq => hKey ⟨f, hf, hEq⟩).2.mono hDepth

theorem WritesRecord.fits {j : Json} (h : WritesRecord reserved fs j) {depth : Nat}
    (hDepth : 100 ≤ depth + 1) (hFields : ∀ f ∈ fs, ∀ j, f.holds j → Fits (depth + 1) j) :
    Fits (depth + 2) j := by
  cases h with
  | object h => exact h.fits hDepth hFields
  | list h =>
    refine .list fun j hj => ?_
    obtain ⟨f, hf, hHolds⟩ := exists_of_mem_of_forall₂ h hj
    exact hFields f hf j hHolds

theorem Names.name?_eq {name : String} {j : Json} (h : Names name j) : j.name? = some name := by
  cases h <;> rfl

theorem Names.fits {name : String} {j : Json} (h : Names name j) {depth : Nat} :
    Fits (depth + 2) j := by
  cases h with
  | text => exact .string
  | key => exact .object (List.forall_mem_singleton.mpr .null)

theorem WritesOptional.optional?_eq {α : Type} {writes : α → Json → Prop}
    {decode : Json → Option α} (hNull : decode .null = none)
    (hDecode : ∀ x j, writes x j → decode j = some x) {x : Option α} {j : Json}
    (h : WritesOptional writes x j) : optional? decode (some j) = some x := by
  cases h with
  | absent => rfl
  | @present x _ h =>
    have hDecode := hDecode x j h
    cases j with
    | null => exact absurd (hNull.symm.trans hDecode) (by simp)
    | bool | num | str | arr | obj => exact Option.map_eq_some_iff.mpr ⟨x, hDecode, rfl⟩

theorem WritesOptional.fits {α : Type} {writes : α → Json → Prop} {depth : Nat}
    (hFits : ∀ x j, writes x j → Fits depth j) {x : Option α} {j : Json}
    (h : WritesOptional writes x j) : Fits depth j := by
  cases h with
  | absent => exact .null
  | present h => exact hFits _ j h

theorem fits_texts {depth : Nat} (xs : List String) : Fits (depth + 2) (.arr (xs.map .str)) := by
  refine .list fun j hj => ?_
  obtain ⟨x, -, rfl⟩ := List.mem_map.mp hj
  exact .string

end Json

namespace CaseTable

theorem insertEntry_perm {text tag : String} {es : List (String × String)}
    (h : ∀ e ∈ es, text ≠ e.1) : (insertEntry text tag es).Perm ((text, tag) :: es) := by
  induction es with
  | nil => exact .refl _
  | cons e es ih =>
    obtain ⟨hFirst, hRest⟩ := List.forall_mem_cons.mp h
    rw [insertEntry, if_neg hFirst]
    split
    · exact .refl _
    · exact ((ih hRest).cons e).trans (.swap (text, tag) e es)

theorem entries_foldl_insert {es : List (String × String)} {t : CaseTable}
    (h : ((es ++ t.entries).map Prod.fst).Nodup) :
    (es.foldl (fun t e => t.insert e.1 e.2) t).entries.Perm (es ++ t.entries) := by
  induction es generalizing t with
  | nil => exact .refl _
  | cons e es ih =>
    have hNew : e.1 ∉ (es ++ t.entries).map Prod.fst := (List.nodup_cons.mp h).1
    have hInsert : (t.insert e.1 e.2).entries.Perm (e :: t.entries) :=
      insertEntry_perm fun x hx hKey =>
        hNew (List.mem_map.mpr ⟨x, List.mem_append_right es hx, hKey.symm⟩)
    have hMove : (es ++ (t.insert e.1 e.2).entries).Perm (e :: (es ++ t.entries)) :=
      (hInsert.append_left es).trans List.perm_middle
    exact (ih ((hMove.map Prod.fst).nodup_iff.mpr h)).trans hMove

theorem ofList_eq_of_perm {t : CaseTable} {es : List (String × String)} (h : es.Perm t.entries) :
    ofList es = t := by
  have hNodup : (t.entries.map Prod.fst).Nodup :=
    List.pairwise_map.mpr (t.sorted.imp String.ne_of_lt)
  have hEntries : (ofList es).entries.Perm (es ++ []) :=
    entries_foldl_insert (t := empty) (by
      rw [show empty.entries = [] from rfl, List.append_nil]
      exact (h.map Prod.fst).nodup_iff.mpr hNodup)
  rw [List.append_nil] at hEntries
  have hAsymm (a b : String × String) (_ : a ∈ (ofList es).entries) (_ : b ∈ t.entries)
      (hab : a.1 < b.1) (hba : b.1 < a.1) : a = b := absurd hba (String.lt_asymm hab)
  exact eq_of_entries_eq ((hEntries.trans h).eq_of_pairwise hAsymm (ofList es).sorted t.sorted)

theorem ofJson?_of_writtenAs {t : CaseTable} {j : Json} (h : t.WrittenAs j) :
    ofJson? j = some t := by
  obtain ⟨h⟩ := h
  refine Option.bind_eq_some_iff.mpr ⟨_, mapM_map_eq_some ?_ _, ?_⟩
  · exact fun _ => rfl
  · exact congrArg some (ofList_eq_of_perm h)

theorem WrittenAs.fits {t : CaseTable} {j : Json} (h : t.WrittenAs j) {depth : Nat} :
    Fits (depth + 2) j := by
  obtain ⟨h⟩ := h
  refine .object fun m hm => ?_
  obtain ⟨e, -, rfl⟩ := List.mem_map.mp hm
  exact .string

end CaseTable

theorem Polarity.ofJson?_of_writtenAs {p : Polarity} {j : Json} (h : p.WrittenAs j) :
    ofJson? j = some p := by
  refine Option.bind_eq_some_iff.mpr ⟨_, h.name?_eq, ?_⟩
  cases p <;> rfl

namespace Outcome

variable {table : CaseTable} {default : String} {tag : Option String} {polarity : Option Polarity}
  {j : Json}

theorem casesOfJson?_of_writes (h : WritesRecord [] (casesFields table default) j) :
    casesOfJson? j = some (.cases table default) := by
  cases h with
  | @object ms h =>
    obtain ⟨i, hTable, hFirst⟩ : ∃ i, table.WrittenAs i ∧ required? ms "table" = some i :=
      h.required?_eq (.head _) id
    obtain ⟨_, rfl, hSecond⟩ : ∃ i, i = .str default ∧ required? ms "default" = some i :=
      h.required?_eq (.tail _ (.head _)) id
    simp [casesOfJson?, hFirst, hSecond, CaseTable.ofJson?_of_writtenAs hTable, text?]
  | list h =>
    obtain _ | ⟨hTable, _ | ⟨⟨⟩, ⟨⟩⟩⟩ := h
    simp [casesOfJson?, CaseTable.ofJson?_of_writtenAs hTable, text?]

theorem optional?_text_eq (h : WritesOptional (fun x j => j = .str x) tag j) :
    optional? text? (some j) = some tag :=
  h.optional?_eq rfl fun _ _ hEq => hEq ▸ rfl

theorem optional?_polarity_eq (h : WritesOptional Polarity.WrittenAs polarity j) :
    optional? Polarity.ofJson? (some j) = some polarity :=
  h.optional?_eq rfl fun _ _ hName => Polarity.ofJson?_of_writtenAs hName

theorem bracketOfJson?_of_writes (h : WritesRecord [] (bracketFields tag polarity) j) :
    bracketOfJson? j = some (.bracket tag polarity) := by
  cases h with
  | @object ms h =>
    have hTag : (field? ms "tag").bind (optional? text?) = some tag := by
      obtain ⟨i, hi, hField⟩ | ⟨hOmits, hField⟩ := h.field?_eq (.head _)
      · exact Option.bind_eq_some_iff.mpr ⟨_, hField, optional?_text_eq hi⟩
      · exact Option.bind_eq_some_iff.mpr ⟨_, hField, congrArg some hOmits.symm⟩
    have hPolarity : (field? ms "polarity").bind (optional? Polarity.ofJson?) = some polarity := by
      obtain ⟨i, hi, hField⟩ | ⟨hOmits, hField⟩ := h.field?_eq (.tail _ (.head _))
      · exact Option.bind_eq_some_iff.mpr ⟨_, hField, optional?_polarity_eq hi⟩
      · exact Option.bind_eq_some_iff.mpr ⟨_, hField, congrArg some hOmits.symm⟩
    obtain ⟨x, hx, hTag⟩ := Option.bind_eq_some_iff.mp hTag
    obtain ⟨y, hy, hPolarity⟩ := Option.bind_eq_some_iff.mp hPolarity
    simp [bracketOfJson?, hx, hTag, hy, hPolarity]
  | list h =>
    obtain _ | ⟨hTag, _ | ⟨hPolarity, ⟨⟩⟩⟩ := h
    simp [bracketOfJson?, optional?_text_eq hTag, optional?_polarity_eq hPolarity]

theorem ofJson?_of_writtenAs {o : Outcome} (h : o.WrittenAs j) : ofJson? j = some o := by
  cases h with
  | emit => rfl
  | cases h => exact casesOfJson?_of_writes h
  | bracket h => exact bracketOfJson?_of_writes h
  | groups =>
    refine Option.map_eq_some_iff.mpr ⟨_, mapM_map_eq_some ?_ _, rfl⟩
    exact fun _ => rfl

theorem WrittenAs.fits {o : Outcome} (h : o.WrittenAs j) : Fits 102 j := by
  have hContent {fs : List Field} {i : Json} (h : WritesRecord [] fs i)
      (hFields : ∀ f ∈ fs, ∀ k, f.holds k → Fits 100 k) : Fits 101 i :=
    h.fits (Nat.le_refl 100) hFields
  cases h with
  | emit => exact .object (List.forall_mem_singleton.mpr .string)
  | cases h =>
    refine .object (List.forall_mem_singleton.mpr (hContent h ?_))
    refine List.forall_mem_cons.mpr ⟨fun _ hTable => hTable.fits, List.forall_mem_singleton.mpr ?_⟩
    rintro _ rfl
    exact .string
  | bracket h =>
    refine .object (List.forall_mem_singleton.mpr (hContent h ?_))
    refine List.forall_mem_cons.mpr ⟨fun _ hTag => hTag.fits ?_, List.forall_mem_singleton.mpr
      fun _ hPolarity => hPolarity.fits fun _ _ hName => hName.fits⟩
    rintro x _ rfl
    exact .string
  | groups => exact .object (List.forall_mem_singleton.mpr (fits_texts _))

end Outcome

namespace StackAction

variable {a : StackAction} {j : Json}

theorem ofJson?_of_writtenAs (h : a.WrittenAs j) : ofJson? j = some a := by
  cases h with
  | push | switch => rfl
  | stay h | pop h | popAll h => cases h <;> rfl

theorem WrittenAs.fits (h : a.WrittenAs j) {depth : Nat} : Fits (depth + 2) j := by
  cases h with
  | push | switch => exact .object (List.forall_mem_singleton.mpr .string)
  | stay h | pop h | popAll h => exact h.fits

end StackAction

namespace RuleDeclaration

variable {r : RuleDeclaration} {j : Json}

theorem ofJson?_of_writes (h : WritesRecord ["include"] r.fields j) : ofJson? j = some r := by
  cases h with
  | @object ms h =>
    obtain ⟨_, rfl, hPattern⟩ : ∃ i, i = .str r.pattern ∧ required? ms "regex" = some i :=
      h.required?_eq (.head _) id
    obtain ⟨i, hOutcome, hSecond⟩ : ∃ i, r.outcome.WrittenAs i ∧ required? ms "outcome" = some i :=
      h.required?_eq (.tail _ (.head _)) id
    obtain ⟨k, hAction, hThird⟩ | ⟨hStay, hThird⟩ :
        (∃ k, r.action.WrittenAs k ∧ field? ms "action" = some (some k)) ∨
          r.action = .stay ∧ field? ms "action" = some none :=
      h.field?_eq (.tail _ (.tail _ (.head _)))
    · simp [ofJson?, hPattern, hSecond, hThird, text?, Outcome.ofJson?_of_writtenAs hOutcome,
        StackAction.ofJson?_of_writtenAs hAction]
    · simp [ofJson?, hPattern, hSecond, hThird, text?, Outcome.ofJson?_of_writtenAs hOutcome,
        ← hStay]
  | list h =>
    obtain _ | ⟨⟨⟩, _ | ⟨hOutcome, _ | ⟨hAction, ⟨⟩⟩⟩⟩ := h
    simp [ofJson?, text?, Outcome.ofJson?_of_writtenAs hOutcome,
      StackAction.ofJson?_of_writtenAs hAction]

theorem fits_of_writes (h : WritesRecord ["include"] r.fields j) : Fits 103 j := by
  refine h.fits (by decide) ?_
  refine List.forall_mem_cons.mpr ⟨?_, List.forall_mem_cons.mpr ⟨fun _ hOutcome => hOutcome.fits,
    List.forall_mem_singleton.mpr fun _ hAction => hAction.fits⟩⟩
  rintro _ rfl
  exact .string

end RuleDeclaration

namespace Entry

variable {e : Entry} {j : Json}

/-- What stands for a rule is no include, since that name is reserved. -/
theorem includeOfJson?_of_writes {r : RuleDeclaration} (h : WritesRecord ["include"] r.fields j) :
    includeOfJson? j = none := by
  cases h with
  | list => rfl
  | @object ms h =>
    have hNone : ms.filter (·.1 == "include") = [] := by
      refine List.filter_eq_nil_iff.mpr fun m hm hKey => ?_
      obtain hKey : m.1 = "include" := beq_iff_eq.mp hKey
      refine (h.others m hm ?_).1 (hKey ▸ List.mem_singleton_self _)
      rw [hKey]
      simp [RuleDeclaration.fields]
    simp [includeOfJson?, required?, field?, hNone]

theorem ofJson?_of_writtenAs (h : e.WrittenAs j) : ofJson? j = some e := by
  cases h with
  | @«include» state ms h =>
    obtain ⟨_, rfl, hFound⟩ : ∃ i, i = .str state ∧ required? ms "include" = some i :=
      h.required?_eq (.head _) id
    simp [ofJson?, includeOfJson?, hFound, text?]
  | rule h =>
    rw [ofJson?, includeOfJson?_of_writes h, RuleDeclaration.ofJson?_of_writes h]
    rfl

theorem WrittenAs.fits (h : e.WrittenAs j) : Fits 103 j := by
  cases h with
  | «include» h =>
    refine h.fits (by decide) (List.forall_mem_singleton.mpr ?_)
    rintro _ rfl
    exact .string
  | rule h => exact RuleDeclaration.fits_of_writes h

end Entry

end Highlight
