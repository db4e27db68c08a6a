import Highlight.Proofs.Decoding
import Highlight.Proofs.StateRules
import Mathlib.Algebra.Ring.Nat
import Mathlib.Data.List.Lex

/-! # Lookups in case tables

A table is built from its keys in their order, each in the form in which texts are looked up. Where
several keys have the same form the last one counts. The order of keys is that of their bytes, so
this is the greatest key in byte order, however the table was declared.
-/

namespace Highlight

open Unicode

namespace Text

def bytes (s : String) : List UInt8 := s.toByteArray.data.toList

theorem bytes_eq_flatMap (s : String) : bytes s = s.toList.flatMap String.utf8EncodeChar := by
  rw [bytes, ← String.utf8Encode_toList, List.utf8Encode, List.toList_data_toByteArray]

/-- A number written as a first byte, counted from `lead` on, and `more` bytes of six bits each. -/
def spelled (lead : Nat) : Nat → Nat → List UInt8
  | 0, n => [.ofNat (lead + n)]
  | more + 1, n => spelled lead more (n / 64) ++ [.ofNat (128 + n % 64)]

theorem cons_lt_cons_of_lt {a b : Nat} (h : a < b) (hb : b < 256) (us vs : List UInt8) :
    UInt8.ofNat a :: us < UInt8.ofNat b :: vs := by
  refine List.cons_lt_cons_iff.mpr (.inl ?_)
  rwa [UInt8.lt_iff_toNat_lt, UInt8.toNat_ofNat_of_lt' (Nat.lt_trans h hb),
    UInt8.toNat_ofNat_of_lt' hb]

theorem exists_spelled_eq (lead more n : Nat) :
    ∃ us, spelled lead more n = .ofNat (lead + n / 64 ^ more) :: us := by
  induction more generalizing n with
  | zero => exact ⟨[], by simp [spelled]⟩
  | succ more ih =>
    obtain ⟨us, hEq⟩ := ih (n / 64)
    refine ⟨us ++ [.ofNat (128 + n % 64)], ?_⟩
    rw [spelled, hEq, Nat.div_div_eq_div_mul, ← Nat.pow_succ', List.cons_append]

theorem spelled_append_lt {lead more m n : Nat} (h : m < n) (hn : lead + n / 64 ^ more < 256)
    (us vs : List UInt8) : spelled lead more m ++ us < spelled lead more n ++ vs := by
  induction more generalizing m n us vs with
  | zero => exact cons_lt_cons_of_lt (by omega) (by simpa using hn) _ _
  | succ more ih =>
    rw [spelled, spelled, List.append_assoc, List.append_assoc]
    rw [Nat.pow_succ', ← Nat.div_div_eq_div_mul] at hn
    by_cases hLt : m / 64 < n / 64
    · exact ih hLt hn _ _
    · rw [show m / 64 = n / 64 by omega]
      exact (cons_lt_cons_of_lt (by omega) (by omega) _ _ : List.Lex _ _ _).append_left _ _

theorem spelled_append_lt_of_first {lead lead' more more' m n : Nat}
    (h : lead + m / 64 ^ more < lead' + n / 64 ^ more') (hn : lead' + n / 64 ^ more' < 256)
    (us vs : List UInt8) : spelled lead more m ++ us < spelled lead' more' n ++ vs := by
  obtain ⟨us', hm⟩ := exists_spelled_eq lead more m
  obtain ⟨vs', hn'⟩ := exists_spelled_eq lead' more' n
  rw [hm, hn']
  exact cons_lt_cons_of_lt h hn _ _

theorem utf8EncodeChar_cases (c : Char) :
    (c.toNat < 0x80 ∧ String.utf8EncodeChar c = spelled 0 0 c.toNat) ∨
    (0x80 ≤ c.toNat ∧ c.toNat < 0x800 ∧ String.utf8EncodeChar c = spelled 0xC0 1 c.toNat) ∨
    (0x800 ≤ c.toNat ∧ c.toNat < 0x10000 ∧ String.utf8EncodeChar c = spelled 0xE0 2 c.toNat) ∨
    (0x10000 ≤ c.toNat ∧ c.toNat < 0x110000 ∧ String.utf8EncodeChar c = spelled 0xF0 3 c.toNat) := by
  have hValid : c.toNat < 0x110000 := by
    have hScalar : c.toNat < 0xD800 ∨ 0xDFFF < c.toNat ∧ c.toNat < 0x110000 := c.valid
    omega
  simp only [String.utf8EncodeChar, show c.val.toNat = c.toNat from rfl, spelled, List.nil_append,
    List.cons_append, Nat.zero_add, Nat.div_div_eq_div_mul, Nat.reduceMul]
  generalize c.toNat = n at *
  by_cases h₁ : n ≤ 127
  · exact .inl ⟨by omega, if_pos h₁⟩
  by_cases h₂ : n ≤ 2047
  · refine .inr (.inl ⟨by omega, by omega, ?_⟩)
    rw [if_neg h₁, if_pos h₂, Nat.mod_eq_of_lt (by omega : n / 64 < 32), Nat.add_comm _ 192,
      Nat.add_comm _ 128]
  by_cases h₃ : n ≤ 65535
  · refine .inr (.inr (.inl ⟨by omega, by omega, ?_⟩))
    rw [if_neg h₁, if_neg h₂, if_pos h₃, Nat.mod_eq_of_lt (by omega : n / 4096 < 16),
      Nat.add_comm _ 224, Nat.add_comm _ 128, Nat.add_comm _ 128]
  · refine .inr (.inr (.inr ⟨by omega, hValid, ?_⟩))
    rw [if_neg h₁, if_neg h₂, if_neg h₃, Nat.mod_eq_of_lt (by omega : n / 262144 < 8),
      Nat.add_comm _ 240, Nat.add_comm _ 128, Nat.add_comm _ 128, Nat.add_comm _ 128]

theorem utf8EncodeChar_append_lt {c d : Char} (h : c < d) (us vs : List UInt8) :
    String.utf8EncodeChar c ++ us < String.utf8EncodeChar d ++ vs := by
  have hLt : c.toNat < d.toNat := h
  obtain ⟨hc, hEq⟩ | ⟨hc, hc', hEq⟩ | ⟨hc, hc', hEq⟩ | ⟨hc, hc', hEq⟩ := utf8EncodeChar_cases c <;>
  obtain ⟨hd, hEq'⟩ | ⟨hd, hd', hEq'⟩ | ⟨hd, hd', hEq'⟩ | ⟨hd, hd', hEq'⟩ :=
    utf8EncodeChar_cases d <;>
  rw [hEq, hEq'] <;>
  first
  | exact spelled_append_lt hLt (by omega) us vs
  | exact spelled_append_lt_of_first (by omega) (by omega) us vs

theorem flatMap_utf8EncodeChar_lt {cs ds : List Char} (h : cs < ds) :
    cs.flatMap String.utf8EncodeChar < ds.flatMap String.utf8EncodeChar := by
  induction cs generalizing ds with
  | nil =>
    cases ds with
    | nil => exact absurd h (List.lt_irrefl _)
    | cons d ds =>
      obtain ⟨b, bs, hBytes⟩ := List.exists_cons_of_ne_nil (String.utf8EncodeChar_ne_nil (c := d))
      rw [List.flatMap_cons, hBytes]
      exact List.nil_lt_cons _ _
  | cons c cs ih =>
    cases ds with
    | nil => exact absurd h (List.not_lt_nil _)
    | cons d ds =>
      rw [List.flatMap_cons, List.flatMap_cons]
      obtain hLt | ⟨rfl, hLt⟩ := List.cons_lt_cons_iff.mp h
      · exact utf8EncodeChar_append_lt hLt _ _
      · exact (ih hLt : List.Lex _ _ _).append_left _ _

theorem bytes_lt_bytes_iff {s t : String} : bytes s < bytes t ↔ s < t := by
  have hLt {s t : String} (h : s < t) : bytes s < bytes t := by
    rw [bytes_eq_flatMap, bytes_eq_flatMap]
    exact flatMap_utf8EncodeChar_lt h
  refine ⟨fun h => ?_, hLt⟩
  by_contra hNot
  by_cases hLe : s ≤ t
  · have hEq : s = t := String.le_antisymm hLe (String.not_lt.mp hNot)
    exact List.lt_irrefl _ (hEq ▸ h)
  · exact List.lt_asymm h (hLt (String.not_le.mp hLe))

end Text

namespace CaseTable

variable {es before after : List (String × String)} {text tag : String}

theorem get?_foldl_insert_of_ne (h : ∀ e ∈ es, e.1 ≠ text) (t : CaseTable) :
    (es.foldl (fun t e => t.insert e.1 e.2) t).get? text = t.get? text := by
  induction es generalizing t with
  | nil => rfl
  | cons e es ih =>
    obtain ⟨hFirst, hRest⟩ := List.forall_mem_cons.mp h
    rw [List.foldl_cons, ih hRest, get?_insert, if_neg hFirst.symm]

theorem get?_ofList_of_last (h : ∀ e ∈ after, e.1 ≠ text) :
    (ofList (before ++ (text, tag) :: after)).get? text = some tag := by
  rw [ofList, List.foldl_append, List.foldl_cons, get?_foldl_insert_of_ne h, get?_insert, if_pos rfl]

theorem get?_ofList_eq_none (h : ∀ e ∈ es, e.1 ≠ text) : (ofList es).get? text = none :=
  get?_foldl_insert_of_ne h empty

/-- A key is the greatest one of the table that has the same form as the text. -/
structure Greatest (form : String → String) (pairs : List (String × String)) (text key tag : String) :
    Prop where
  mem : (key, tag) ∈ pairs
  form_eq : form key = form text
  greatest : ∀ other ∈ pairs.map Prod.fst, form other = form text → other ≠ key →
    Text.bytes other < Text.bytes key

theorem exists_greatest {form : String → String} (hSorted : es.Pairwise fun a b => a.1 < b.1)
    (h : ∃ key ∈ es.map Prod.fst, form key = form text) :
    ∃ key tag, Greatest form es text key tag := by
  induction es with
  | nil => simp at h
  | cons e es ih =>
    obtain ⟨hFirst, hSorted⟩ := List.pairwise_cons.mp hSorted
    by_cases hLater : ∃ key ∈ es.map Prod.fst, form key = form text
    · obtain ⟨key, tag, hMem, hForm, hGreatest⟩ := ih hSorted hLater
      refine ⟨key, tag, List.mem_cons_of_mem e hMem, hForm, fun other hOther hAlike hNe => ?_⟩
      rcases List.mem_cons.mp hOther with rfl | hOther
      · exact Text.bytes_lt_bytes_iff.mpr (hFirst _ hMem)
      · exact hGreatest other hOther hAlike hNe
    · obtain ⟨key, hKey, hForm⟩ := h
      rcases List.mem_cons.mp hKey with rfl | hKey
      · refine ⟨e.1, e.2, List.mem_cons_self, hForm, fun other hOther hAlike hNe => ?_⟩
        rcases List.mem_cons.mp hOther with rfl | hOther
        · exact absurd rfl hNe
        · exact absurd ⟨other, hOther, hAlike⟩ hLater
      · exact absurd ⟨key, hKey, hForm⟩ hLater

/-- When keys are put into a form in their order, the tag of the greatest key of a form is kept. -/
theorem get?_of_greatest {t : CaseTable} {form f : String → String} {key : String}
    (h : Greatest form t.entries text key tag) :
    (ofList (t.entries.map fun e => (form e.1, f e.2))).get? (form text) = some (f tag) := by
  obtain ⟨before, after, hEntries⟩ := List.append_of_mem h.mem
  have hSorted := t.sorted
  rw [hEntries, List.pairwise_append] at hSorted
  have hAfter := (List.pairwise_cons.mp hSorted.2.1).1
  rw [hEntries, List.map_append, List.map_cons, h.form_eq]
  refine get?_ofList_of_last fun x hx hForm => ?_
  obtain ⟨e, he, rfl⟩ := List.mem_map.mp hx
  have hMem : e ∈ t.entries := hEntries ▸ List.mem_append_right _ (List.mem_cons_of_mem _ he)
  have hLt := h.greatest e.1 (List.mem_map_of_mem hMem) hForm (String.ne_of_lt (hAfter e he)).symm
  exact String.lt_asymm (Text.bytes_lt_bytes_iff.mp hLt) (hAfter e he)

end CaseTable

/-- How texts are classified by a table that is declared by some pairs and a default. -/
structure Declaration.Classifies (d : Declaration) (pairs : List (String × String))
    (default : String) (classify : String → String × Option Polarity) : Prop where
  polarity_eq : ∀ text, (classify text).2 = none
  declared : d.ignoreCase = false → ∀ text tag, (text, tag) ∈ pairs →
    (classify text).1 = d.tag tag
  undeclared : d.ignoreCase = false → ∀ text, text ∉ pairs.map Prod.fst →
    (classify text).1 = d.tag default
  greatest : d.ignoreCase = true → ∀ text key tag,
    CaseTable.Greatest lowercaseText pairs text key tag → (classify text).1 = d.tag tag
  exists_greatest : ∀ text, (∃ key ∈ pairs.map Prod.fst, lowercaseText key = lowercaseText text) →
    ∃ key tag, CaseTable.Greatest lowercaseText pairs text key tag
  unlike : d.ignoreCase = true → ∀ text,
    (∀ key ∈ pairs.map Prod.fst, lowercaseText key ≠ lowercaseText text) →
      (classify text).1 = d.tag default
  last : ∀ key tag, CaseTable.Greatest (Declaration.caseKey d.ignoreCase) pairs key key tag →
    (classify key).1 = d.tag tag

namespace Grammar

variable {engine : Engine} {g : Grammar} {d : Declaration}

theorem classify_cases (hCase : g.ignoreCase = d.ignoreCase) (table : CaseTable)
    (default text : String) :
    g.classify (d.outcome (.cases table default)) text =
      (((CaseTable.ofList (table.entries.map fun e =>
        (Declaration.caseKey d.ignoreCase e.1, d.tag e.2))).get?
          (Declaration.caseKey d.ignoreCase text)).getD (d.tag default), none) := by
  simp only [Declaration.outcome, classify, hCase]

theorem classifies_cases (hCase : g.ignoreCase = d.ignoreCase) {table : CaseTable}
    {pairs : List (String × String)} (hPairs : pairs.Perm table.entries) (default : String) :
    d.Classifies pairs default (g.classify (d.outcome (.cases table default))) := by
  have hKeys {key : String} : key ∈ pairs.map Prod.fst ↔ key ∈ table.entries.map Prod.fst :=
    (hPairs.map Prod.fst).mem_iff
  have hGreatest {form : String → String} {text key tag : String} :
      CaseTable.Greatest form pairs text key tag ↔
        CaseTable.Greatest form table.entries text key tag := by
    constructor
    · rintro ⟨hMem, hForm, hLast⟩
      exact ⟨hPairs.mem_iff.mp hMem, hForm, fun other hOther => hLast other (hKeys.mpr hOther)⟩
    · rintro ⟨hMem, hForm, hLast⟩
      exact ⟨hPairs.mem_iff.mpr hMem, hForm, fun other hOther => hLast other (hKeys.mp hOther)⟩
  have hFound {text key tag : String}
      (h : CaseTable.Greatest (Declaration.caseKey d.ignoreCase) pairs text key tag) :
      (g.classify (d.outcome (.cases table default)) text).1 = d.tag tag := by
    rw [classify_cases hCase, CaseTable.get?_of_greatest (hGreatest.mp h), Option.getD_some]
  have hNone {text : String} (h : ∀ key ∈ pairs.map Prod.fst,
      Declaration.caseKey d.ignoreCase key ≠ Declaration.caseKey d.ignoreCase text) :
      (g.classify (d.outcome (.cases table default)) text).1 = d.tag default := by
    rw [classify_cases hCase, CaseTable.get?_ofList_eq_none, Option.getD_none]
    intro x hx
    obtain ⟨e, he, rfl⟩ := List.mem_map.mp hx
    exact h e.1 (hKeys.mpr (List.mem_map_of_mem he))
  have hForm (h : d.ignoreCase = true) : Declaration.caseKey d.ignoreCase = lowercaseText := by
    rw [h]
    rfl
  refine {
    polarity_eq := fun text => rfl
    declared := fun hExact text tag hMem => ?_
    undeclared := fun hExact text hNot => ?_
    greatest := fun hIgnore text key tag hKey => ?_
    exists_greatest := fun text hKey => ?_
    unlike := fun hIgnore text hNot => ?_
    last := fun key tag hKey => hFound hKey }
  · refine hFound ⟨hMem, rfl, fun other _ hAlike hNe => absurd ?_ hNe⟩
    simpa [Declaration.caseKey, hExact] using hAlike
  · refine hNone fun key hKey hAlike => hNot ?_
    rw [hExact] at hAlike
    exact (show key = text from hAlike) ▸ hKey
  · rw [← hForm hIgnore] at hKey
    exact hFound hKey
  · obtain ⟨key, hMem, hAlike⟩ := hKey
    obtain ⟨key, tag, h⟩ := CaseTable.exists_greatest table.sorted ⟨key, hKeys.mp hMem, hAlike⟩
    exact ⟨key, tag, hGreatest.mpr h⟩
  · rw [← hForm hIgnore] at hNot
    exact hNone hNot

theorem perm_entries_ofList {pairs : List (String × String)} (h : (pairs.map Prod.fst).Nodup) :
    pairs.Perm (CaseTable.ofList pairs).entries := by
  have hEntries : (CaseTable.ofList pairs).entries.Perm (pairs ++ CaseTable.empty.entries) :=
    CaseTable.entries_foldl_insert (by rwa [CaseTable.empty, List.append_nil])
  rw [CaseTable.empty, List.append_nil] at hEntries
  exact hEntries.symm

theorem exists_declared_of_build {limit : Nat} (h : build d limit engine = .ok g) {i : RuleId}
    {rule : Rule}
    (hRule : g.rules[i]? = some rule) :
    ∃ state r, d.inlineRules[i]? = some (state, r) ∧ rule.outcome = d.outcome r.outcome := by
  obtain ⟨⟨state, r⟩, hDeclared, hOk⟩ :=
    exists_getElem?_of_forall₂ (forall₂_rules_of_build h).flip hRule
  obtain ⟨_, _, -, -, -, rfl⟩ := Declaration.rule_eq_ok_iff.mp hOk
  exact ⟨state, r, hDeclared, rfl⟩

theorem ignoreCase_of_build {limit : Nat} (h : build d limit engine = .ok g) :
    g.ignoreCase = d.ignoreCase := by
  obtain ⟨-, -, _, _, _, -, -, -, rfl⟩ := build_eq_ok_iff.mp h
  rfl

theorem exists_table_of_build {limit : Nat} (h : build d limit engine = .ok g) {i : RuleId}
    {rule : Rule}
    {table : CaseTable} {default : String} (hRule : g.rules[i]? = some rule)
    (hOutcome : rule.outcome = .cases table default) :
    ∃ state r declared other, d.inlineRules[i]? = some (state, r) ∧
      r.outcome = .cases declared other ∧
      d.Classifies declared.entries other (g.classify rule.outcome) := by
  obtain ⟨state, r, hDeclared, hEq⟩ := exists_declared_of_build h hRule
  rw [hOutcome] at hEq
  cases hCases : r.outcome with
  | cases declared other =>
    refine ⟨state, r, declared, other, hDeclared, hCases, ?_⟩
    rw [hOutcome, hEq, hCases]
    exact classifies_cases (ignoreCase_of_build h) (.refl _) other
  | emit | bracket | groups => cases hEq.trans (congrArg d.outcome hCases)

/-- Every table of a built grammar classifies texts by the pairs that declare it. These may be given
in any order, as long as no key is given twice. -/
theorem tables_classify {limit : Nat} (h : build d limit engine = .ok g) :
    (∀ (i : RuleId) rule table default, g.rules[i]? = some rule →
      rule.outcome = .cases table default →
      ∃ state r declared other, d.inlineRules[i]? = some (state, r) ∧
        r.outcome = .cases declared other ∧
        d.Classifies declared.entries other (g.classify rule.outcome)) ∧
    ∀ default pairs, (pairs.map Prod.fst).Nodup →
      d.Classifies pairs default (g.classify (d.outcome (.ofCases default pairs))) ∧
      ∀ pairs' : List (String × String), pairs.Perm pairs' → ∀ text,
        g.classify (d.outcome (.ofCases default pairs')) text =
          g.classify (d.outcome (.ofCases default pairs)) text := by
  refine ⟨fun i rule table default hRule hOutcome => exists_table_of_build h hRule hOutcome,
    fun default pairs hKeys => ⟨?_, ?_⟩⟩
  · exact classifies_cases (ignoreCase_of_build h) (perm_entries_ofList hKeys) default
  · intro pairs' hPerm text
    have hKeys' := (hPerm.map Prod.fst).nodup_iff.mp hKeys
    have hSame : CaseTable.ofList pairs' = CaseTable.ofList pairs :=
      CaseTable.ofList_eq_of_perm (hPerm.symm.trans (perm_entries_ofList hKeys))
    rw [Outcome.ofCases, Outcome.ofCases, hSame]

theorem if_table_classifies :
    let pairs := [("if", "small"), ("IF", "large"), ("É", "accent")]
    let d : Declaration := {
      name := "words", root := "root", defaultTag := "invalid", ignoreCase := true
      tagEnding := ".w"
      states := [⟨"root", [.rule ⟨"[a-zé]+", .ofCases "other" pairs, .stay⟩]⟩] }
    ∃ g rule, build d = .ok g ∧ g.rules[0]? = some rule ∧
      d.Classifies pairs "other" (g.classify (d.outcome (.ofCases "other" pairs))) ∧
      d.Classifies (CaseTable.ofList pairs).entries "other" (g.classify rule.outcome) ∧
      ["If", "IF", "é", "in"].map (g.classify rule.outcome) =
        [("small.w", none), ("small.w", none), ("accent.w", none), ("other.w", none)] := by
  intro pairs d
  have hRun : (build d).map (fun g => g.rules.map fun rule =>
      ["If", "IF", "é", "in"].map (g.classify rule.outcome)) =
        .ok [[("small.w", none), ("small.w", none), ("accent.w", none), ("other.w", none)]] := by
    decide +kernel
  obtain ⟨g, hBuild, hLookups⟩ := except_map_eq_ok_iff.mp hRun
  obtain ⟨rule, hRules, hMap⟩ := List.map_eq_singleton_iff.mp hLookups
  have hRule : g.rules[0]? = some rule := by rw [hRules]; rfl
  obtain ⟨state, r, hDeclared, hEq⟩ := exists_declared_of_build hBuild hRule
  cases hDeclared
  obtain ⟨hTables, hPairs⟩ := tables_classify hBuild
  obtain ⟨_, _, _, _, hDeclared, hOutcome, hClassifies⟩ := hTables 0 rule _ _ hRule hEq
  cases hDeclared
  cases hOutcome
  exact ⟨g, rule, hBuild, hRule, (hPairs "other" pairs (by decide)).1, hClassifies, hMap⟩

end Grammar

end Highlight
