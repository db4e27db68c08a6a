import Highlight.Proofs.CaseTables
import Highlight.Proofs.CharSets

/-! # Case in patterns and in tables

When case is ignored, patterns compare characters by their folding and tables look texts up by their
lower case. Texts that patterns take for each other may still be looked up differently: where one of
them has a form of a letter that is small already, such as the micro sign or the final sigma, and
the other one has not. In all other cases the tables agree with the patterns.
-/

namespace Highlight

open Unicode

/-- The texts differ only by case: their characters have the same foldings one by one. -/
def FoldsAlike (a b : String) : Prop :=
  List.Forall₂ (fun x y => fold x = fold y) a.toList b.toList

theorem forall₂_fold_iff {xs ys : List Char} :
    List.Forall₂ (fun x y => fold x = fold y) xs ys ↔ xs.map fold = ys.map fold := by
  rw [← List.forall₂_eq_eq_eq, List.forall₂_map_left_iff, List.forall₂_map_right_iff]

theorem foldsAlike_iff {a b : String} : FoldsAlike a b ↔
    List.Forall₂ (fun x y => (CharSet.single x).foldClosure.contains y = true)
      a.toList b.toList := by
  simp only [FoldsAlike, CharSet.contains_foldClosure_single]

namespace Unicode

def settleFrom (before : List Char) : List Char → List Char
  | [] => []
  | c :: cs =>
    let settled :=
      if c = 'Σ' then if startsCased before && !startsCased cs then 'ς' else 'σ' else c
    settled :: settleFrom (c :: before) cs

def settle (s : String) : List Char := settleFrom [] s.toList

def lowerAlone (c : Char) : List Char :=
  if c = 'İ' then ['i', Char.ofNat 0x307] else [lower c]

theorem lower_sigmas : lower 'ς' = 'ς' ∧ lower 'σ' = 'σ' := by decide

theorem fold_sigmas : fold 'ς' = fold 'Σ' ∧ fold 'σ' = fold 'Σ' := by decide

theorem lowerFrom_eq (before cs : List Char) :
    lowerFrom before cs = (settleFrom before cs).flatMap lowerAlone := by
  induction cs generalizing before with
  | nil => rfl
  | cons c cs ih =>
    rw [lowerFrom, settleFrom, List.flatMap_cons, ih]
    refine congrArg (· ++ _) ?_
    obtain ⟨hFinal, hOther⟩ := lower_sigmas
    by_cases hSigma : c = 'Σ'
    · simp only [lowerChar, if_pos hSigma]
      split
      · rw [lowerAlone, if_neg (by decide), hFinal]
      · rw [lowerAlone, if_neg (by decide), hOther]
    · simp only [lowerChar, if_neg hSigma]
      rfl

theorem map_fold_settleFrom (before cs : List Char) :
    (settleFrom before cs).map fold = cs.map fold := by
  induction cs generalizing before with
  | nil => rfl
  | cons c cs ih =>
    rw [settleFrom, List.map_cons, List.map_cons, ih]
    refine congrArg (· :: _) ?_
    split
    · rename_i hSigma
      rw [hSigma]
      split
      · exact fold_sigmas.1
      · exact fold_sigmas.2
    · rfl

theorem dotted_missed :
    (foldMap.all fun s => (⟨0x130, 0x130, 1, 0⟩ : Stretch).misses s.image s.lastImage s.step) =
      true := by
  decide

theorem fold_eq_dotted_iff {c : Char} : fold c = 'İ' ↔ c = 'İ' := by
  constructor
  · intro h
    have hCode : mapCode foldMap c.toNat = 0x130 := by rw [← toNat_fold, h]; rfl
    obtain ⟨s, hs, hCovers, hEq⟩ | ⟨-, hEq⟩ := mapCode_cases foldMap c.toNat
    · have hMissed := Stretch.not_covers_send (List.all_eq_true.mp dotted_missed s hs) hCovers
      rw [← hEq, hCode] at hMissed
      cases hMissed
    · exact Char.toNat_inj.mp (hEq.symm.trans hCode)
  · rintro rfl
    decide

section Alone

variable {x y : Char} {xs ys : List Char}

theorem dotted_iff_dotted (h : fold x = fold y) : x = 'İ' ↔ y = 'İ' := by
  rw [← fold_eq_dotted_iff, h, fold_eq_dotted_iff]

theorem lowerAlone_eq_iff (h : fold x = fold y) :
    lowerAlone x = lowerAlone y ↔ x = y ∨ isStray x = false ∧ isStray y = false := by
  rw [← lower_eq_lower_iff h]
  by_cases hDotted : x = 'İ'
  · rw [hDotted, (dotted_iff_dotted h).mp hDotted]
    exact iff_of_true rfl rfl
  · rw [lowerAlone, lowerAlone, if_neg hDotted, if_neg (mt (dotted_iff_dotted h).mpr hDotted),
      List.singleton_inj]

theorem length_lowerAlone_eq (h : fold x = fold y) :
    (lowerAlone x).length = (lowerAlone y).length := by
  simp only [lowerAlone, dotted_iff_dotted h]
  split <;> rfl

theorem flatMap_lowerAlone_eq_iff (h : List.Forall₂ (fun x y => fold x = fold y) xs ys) :
    xs.flatMap lowerAlone = ys.flatMap lowerAlone ↔
      List.Forall₂ (fun x y => x = y ∨ isStray x = false ∧ isStray y = false) xs ys := by
  induction h with
  | nil => simp
  | cons hFold _ ih =>
    rw [List.flatMap_cons, List.flatMap_cons, List.forall₂_cons, ← ih, ← lowerAlone_eq_iff hFold]
    constructor
    · exact fun hEq => List.append_inj hEq (length_lowerAlone_eq hFold)
    · rintro ⟨hFirst, hRest⟩
      rw [hFirst, hRest]

end Alone

end Unicode

/-- Wherever the texts differ, once capital sigmas have become small ones, neither has a form of a
letter that is small already. -/
def SettlesAlike (a b : String) : Prop :=
  List.Forall₂ (fun x y => x = y ∨ isStray x = false ∧ isStray y = false) (settle a) (settle b)

theorem lowercaseText_eq_iff {a b : String} (h : FoldsAlike a b) :
    lowercaseText a = lowercaseText b ↔ SettlesAlike a b := by
  have hSettled : (settle a).map fold = (settle b).map fold := by
    rw [settle, settle, map_fold_settleFrom, map_fold_settleFrom]
    exact forall₂_fold_iff.mp h
  rw [lowercaseText, lowercaseText, String.ofList_inj, lowerFrom_eq, lowerFrom_eq]
  exact flatMap_lowerAlone_eq_iff (forall₂_fold_iff.mpr hSettled)

namespace Grammar

variable {engine : Engine} {g : Grammar} {d : Declaration} {a b : String}

theorem lowercaseText_eq_of_classify_eq (hCase : g.ignoreCase = d.ignoreCase)
    (hIgnore : d.ignoreCase = true) (h : ∀ table default,
      g.classify (d.outcome (.cases table default)) a =
        g.classify (d.outcome (.cases table default)) b) :
    lowercaseText a = lowercaseText b := by
  by_contra hNe
  have hKeys : ([(a, "x")].map Prod.fst).Nodup := List.nodup_singleton a
  have hTable := classifies_cases hCase (perm_entries_ofList hKeys) ""
  have hFound : (g.classify (d.outcome (.cases (.ofList [(a, "x")]) "")) a).1 = d.tag "x" :=
    hTable.greatest hIgnore a a "x" ⟨by simp, rfl, by simp⟩
  have hOther : (g.classify (d.outcome (.cases (.ofList [(a, "x")]) "")) b).1 = d.tag "" :=
    hTable.unlike hIgnore b (by simpa using hNe)
  rw [h, hOther] at hFound
  simp [Declaration.tag] at hFound

/-- Texts that patterns do not tell apart when case is ignored are classified alike by all tables
exactly if, where they differ, neither has a form of a letter that is small already. A text is then
never given the default when a key differs from it only by case. -/
theorem tables_follow_patterns {limit : Nat} (h : build d limit engine = .ok g)
    (hIgnore : d.ignoreCase = true) (hAlike : FoldsAlike a b) :
    List.Forall₂ (fun x y => (CharSet.single x).foldClosure.contains y = true)
      a.toList b.toList ∧
    ((∀ table default, g.classify (d.outcome (.cases table default)) a =
        g.classify (d.outcome (.cases table default)) b) ↔ SettlesAlike a b) ∧
    (SettlesAlike a b → ∀ (i : RuleId) rule table default, g.rules[i]? = some rule →
      rule.outcome = .cases table default →
      g.classify rule.outcome a = g.classify rule.outcome b ∧
        ∃ state r declared other, d.inlineRules[i]? = some (state, r) ∧
          r.outcome = .cases declared other ∧
          (b ∈ declared.entries.map Prod.fst → ∃ key tag, (key, tag) ∈ declared.entries ∧
            lowercaseText key = lowercaseText a ∧ (g.classify rule.outcome a).1 = d.tag tag)) := by
  have hCase := ignoreCase_of_build h
  have hSame (hLower : lowercaseText a = lowercaseText b) (table : CaseTable) (default : String) :
      g.classify (.cases table default) a = g.classify (.cases table default) b := by
    simp only [classify, Declaration.caseKey, hLower, hCase, hIgnore, if_true]
  rw [← lowercaseText_eq_iff hAlike]
  refine ⟨foldsAlike_iff.mp hAlike, ⟨lowercaseText_eq_of_classify_eq hCase hIgnore, ?_⟩, ?_⟩
  · exact fun hLower table default => hSame hLower _ _
  · intro hLower i rule table default hRule hOutcome
    refine ⟨hOutcome ▸ hSame hLower table default, ?_⟩
    obtain ⟨state, r, declared, other, hDeclared, hCases, hTable⟩ :=
      exists_table_of_build h hRule hOutcome
    refine ⟨state, r, declared, other, hDeclared, hCases, fun hKey => ?_⟩
    obtain ⟨key, tag, hGreatest⟩ := hTable.exists_greatest a ⟨b, hKey, hLower.symm⟩
    exact ⟨key, tag, hGreatest.mem, hGreatest.form_eq, hTable.greatest hIgnore a key tag hGreatest⟩

theorem greek_word_follows_pattern :
    let d : Declaration := {
      name := "words", root := "root", defaultTag := "invalid", ignoreCase := true
      states := [⟨"root", [.rule ⟨".+", .ofCases "other" [("λόγος", "word")], .stay⟩]⟩] }
    ∃ g rule, build d = .ok g ∧ g.rules[0]? = some rule ∧ FoldsAlike "ΛΌΓΟΣ" "λόγος" ∧
      SettlesAlike "ΛΌΓΟΣ" "λόγος" ∧
      g.classify rule.outcome "ΛΌΓΟΣ" = g.classify rule.outcome "λόγος" ∧
      g.classify rule.outcome "ΛΌΓΟΣ" = ("word", none) := by
  intro d
  have hRun : (build d).map (fun g => g.rules.map fun rule =>
      (rule.outcome, g.classify rule.outcome "λόγος")) =
        .ok [(.ofCases "other" [("λόγος", "word")], ("word", none))] := by
    decide +kernel
  have hAlike : FoldsAlike "ΛΌΓΟΣ" "λόγος" := forall₂_fold_iff.mpr (by decide)
  have hSettles : SettlesAlike "ΛΌΓΟΣ" "λόγος" :=
    (lowercaseText_eq_iff hAlike).mp (by decide +kernel)
  obtain ⟨g, hBuild, hLookup⟩ := except_map_eq_ok_iff.mp hRun
  obtain ⟨rule, hRules, hEq⟩ := List.map_eq_singleton_iff.mp hLookup
  obtain ⟨hOutcome, hTag⟩ := Prod.mk.inj hEq
  have hRule : g.rules[0]? = some rule := by rw [hRules]; rfl
  obtain ⟨-, -, hTables⟩ := tables_follow_patterns hBuild rfl hAlike
  have hSame := (hTables hSettles 0 _ _ _ hRule hOutcome).1
  exact ⟨g, rule, hBuild, hRule, hAlike, hSettles, hSame, hSame.trans hTag⟩

/-- The micro sign and the Greek letter have the same folding, so that a pattern with one of them
matches the other. A table with one of them gives the other its default. -/
theorem micro_sign_told_apart :
    let d : Declaration := {
      name := "units", root := "root", defaultTag := "invalid", ignoreCase := true
      states := [⟨"root", [.rule ⟨"µ", .ofCases "other" [("µ", "unit")], .stay⟩]⟩] }
    ∃ g rule, build d = .ok g ∧ g.rules[0]? = some rule ∧ FoldsAlike "µ" "μ" ∧
      (rule.pattern.match? (.ofLine "μ")).isSome = true ∧
      g.classify rule.outcome "µ" = ("unit", none) ∧
      g.classify rule.outcome "μ" = ("other", none) ∧
      (g.run "µ\nμ").lines.map (·.spans) = [[⟨0, "unit", none⟩], [⟨0, "other", none⟩]] := by
  intro d
  have hRun : (build d).map (fun g => (g.run "µ\nμ").lines.map (·.spans)) =
      .ok [[⟨0, "unit", none⟩], [⟨0, "other", none⟩]] := by
    decide +kernel
  have hLookups : (build d).map (fun g => g.rules.map fun rule =>
      ((rule.pattern.match? (.ofLine "μ")).isSome,
        g.classify rule.outcome "µ", g.classify rule.outcome "μ")) =
        .ok [(true, ("unit", none), ("other", none))] := by
    decide +kernel
  obtain ⟨g, hBuild, hSpans⟩ := except_map_eq_ok_iff.mp hRun
  rw [hBuild] at hLookups
  obtain ⟨rule, hRules, hEq⟩ := List.map_eq_singleton_iff.mp (Except.ok.inj hLookups)
  obtain ⟨hMatch, hTags⟩ := Prod.mk.inj hEq
  obtain ⟨hMicro, hGreek⟩ := Prod.mk.inj hTags
  have hRule : g.rules[0]? = some rule := by rw [hRules]; rfl
  exact ⟨g, rule, hBuild, hRule, forall₂_fold_iff.mpr (by decide), hMatch, hMicro, hGreek, hSpans⟩

end Grammar

end Highlight
