import Highlight.Unicode.Recent
import Mathlib.Data.List.Chain

/-! # Folding and lower case

Patterns compare characters by their folding, and texts are looked up by their lower case. The two
maps nearly agree: what folding moves and lower case leaves as it is are the forms of letters that
are small already, such as the final sigma or the long s. Two characters with the same folding have
the same lower case unless one of them is such a form.
-/

namespace Highlight.Unicode

namespace Stretch

variable {s t : Stretch} {n : Nat}

def send (s : Stretch) (n : Nat) : Nat := s.image + (n - s.first)

def lastImage (s : Stretch) : Nat := s.send s.last

theorem covers_iff :
    s.covers n = true ↔ s.first ≤ n ∧ n ≤ s.last ∧ (n - s.first) % s.step = 0 := by
  simp [covers, and_assoc]

def misses (t : Stretch) (first last step : Nat) : Bool :=
  Nat.blt last t.first || Nat.blt t.last first ||
    Nat.beq t.step 2 && (Nat.beq step 2 || Nat.beq first last) &&
      Nat.beq ((first + t.first) % 2) 1

theorem not_covers_of_misses {first last step : Nat} (h : t.misses first last step = true)
    (hFirst : first ≤ n) (hLast : n ≤ last) (hStep : (n - first) % step = 0) :
    t.covers n = false := by
  rw [Bool.eq_false_iff, Ne, covers_iff]
  simp only [misses, Bool.or_eq_true, Bool.and_eq_true, Nat.blt_eq, Nat.beq_eq] at h
  rintro ⟨hStart, hEnd, hPlace⟩
  obtain (hAfter | hBefore) | ⟨⟨hTwo, hOdd⟩, hParity⟩ := h
  · omega
  · omega
  · rw [hTwo] at hPlace
    obtain rfl | rfl := hOdd <;> omega

/-- None of some ordered stretches covers one of `first`, `first + step`, …, `last`. -/
def clear (first last step : Nat) : List Stretch → Bool
  | [] => true
  | t :: ts =>
    Nat.blt t.last first && clear first last step ts || Nat.blt last t.first ||
      t.misses first last step && clear first last step ts

theorem send_image (h : s.covers n = true) :
    s.image ≤ s.send n ∧ s.send n ≤ s.lastImage ∧ (s.send n - s.image) % s.step = 0 := by
  obtain ⟨hFirst, hLast, hStep⟩ := covers_iff.mp h
  refine ⟨Nat.le_add_right _ _, ?_, ?_⟩
  · simp only [send, lastImage]
    omega
  · rwa [send, Nat.add_sub_cancel_left]

theorem not_covers_send (hMisses : t.misses s.image s.lastImage s.step = true)
    (h : s.covers n = true) : t.covers (s.send n) = false := by
  obtain ⟨hFirst, hLast, hStep⟩ := send_image h
  exact not_covers_of_misses hMisses hFirst hLast hStep

def Apart (s t : Stretch) : Prop := s.last < t.first ∨ t.last < s.first

instance (s t : Stretch) : Decidable (s.Apart t) :=
  inferInstanceAs (Decidable (_ ∨ _))

instance : Std.Symm Apart where
  symm _ _ h := Or.symm h

def Precedes (s t : Stretch) : Prop := s.first ≤ s.last ∧ s.last < t.first

instance (s t : Stretch) : Decidable (s.Precedes t) :=
  inferInstanceAs (Decidable (_ ∧ _))

instance : Trans Precedes Precedes Precedes where
  trans h h' := ⟨h.1, by unfold Precedes at h h'; omega⟩

theorem pairwise_apart_of_isChain {map : List Stretch} (h : map.IsChain Precedes) :
    map.Pairwise Apart :=
  (List.isChain_iff_pairwise.mp h).imp fun h => .inl h.2

theorem misses_of_clear {map : List Stretch} {first last step : Nat} (hMap : map.IsChain Precedes)
    (h : clear first last step map = true) : ∀ t ∈ map, t.misses first last step = true := by
  rw [List.isChain_iff_pairwise] at hMap
  induction map with
  | nil => exact fun _ ht => absurd ht List.not_mem_nil
  | cons t ts ih =>
    obtain ⟨hFirst, hRest⟩ := List.pairwise_cons.mp hMap
    simp only [clear, Bool.or_eq_true, Bool.and_eq_true, Nat.blt_eq] at h
    obtain (⟨hBefore, hLater⟩ | hAfter) | ⟨hMisses, hLater⟩ := h
    · refine List.forall_mem_cons.mpr ⟨?_, ih hRest hLater⟩
      simp [misses, hBefore]
    · -- Behind a stretch that begins too late there are only such stretches.
      intro u hu
      have hStart : last < u.first := by
        rcases List.mem_cons.mp hu with rfl | hu
        · exact hAfter
        · obtain ⟨hSolid, hBehind⟩ := hFirst u hu
          omega
      simp [misses, hStart]
    · exact List.forall_mem_cons.mpr ⟨hMisses, ih hRest hLater⟩

end Stretch

open Stretch

section MapCode

variable {map : List Stretch} {s : Stretch} {n : Nat}

theorem mapCode_cases (map : List Stretch) (n : Nat) :
    (∃ s ∈ map, s.covers n = true ∧ mapCode map n = s.send n) ∨
      (∀ s ∈ map, s.covers n = false) ∧ mapCode map n = n := by
  unfold mapCode
  split
  · rename_i s hFind
    have hCovers := List.find?_some hFind
    exact .inl ⟨s, List.mem_of_find?_eq_some hFind, hCovers, rfl⟩
  · rename_i hFind
    exact .inr ⟨by simpa using hFind, rfl⟩

theorem mapCode_of_covers (hApart : map.Pairwise Apart) (hs : s ∈ map) (h : s.covers n = true) :
    mapCode map n = s.send n := by
  obtain ⟨t, ht, hCovers, hEq⟩ | ⟨hNone, -⟩ := mapCode_cases map n
  · by_cases hSame : s = t
    · rw [hEq, hSame]
    · obtain ⟨hFirst, hLast, -⟩ := covers_iff.mp h
      obtain ⟨hFirst', hLast', -⟩ := covers_iff.mp hCovers
      obtain hBefore | hBefore := hApart.forall hs ht hSame <;> omega
  · rw [hNone s hs] at h
    cases h

theorem mapCode_eq_self (h : ∀ s ∈ map, s.covers n = false) : mapCode map n = n := by
  obtain ⟨s, hs, hCovers, -⟩ | ⟨-, hEq⟩ := mapCode_cases map n
  · rw [h s hs] at hCovers
    cases hCovers
  · exact hEq

end MapCode

deriving instance DecidableEq for Stretch

/-- What folding moves and lower case leaves as it is. -/
def strayMap : List Stretch :=
  [⟨0xB5, 0xB5, 1, 0x3BC⟩, ⟨0x17F, 0x17F, 1, 0x73⟩, ⟨0x345, 0x345, 1, 0x3B9⟩,
   ⟨0x3C2, 0x3C2, 1, 0x3C3⟩, ⟨0x3D0, 0x3D0, 1, 0x3B2⟩, ⟨0x3D1, 0x3D1, 1, 0x3B8⟩,
   ⟨0x3D5, 0x3D5, 1, 0x3C6⟩, ⟨0x3D6, 0x3D6, 1, 0x3C0⟩, ⟨0x3F0, 0x3F0, 1, 0x3BA⟩,
   ⟨0x3F1, 0x3F1, 1, 0x3C1⟩, ⟨0x3F5, 0x3F5, 1, 0x3B5⟩, ⟨0x1C80, 0x1C80, 1, 0x432⟩,
   ⟨0x1C81, 0x1C81, 1, 0x434⟩, ⟨0x1C82, 0x1C82, 1, 0x43E⟩, ⟨0x1C83, 0x1C84, 1, 0x441⟩,
   ⟨0x1C85, 0x1C85, 1, 0x442⟩, ⟨0x1C86, 0x1C86, 1, 0x44A⟩, ⟨0x1C87, 0x1C87, 1, 0x463⟩,
   ⟨0x1C88, 0x1C88, 1, 0xA64B⟩, ⟨0x1E9B, 0x1E9B, 1, 0x1E61⟩, ⟨0x1FBE, 0x1FBE, 1, 0x3B9⟩,
   ⟨0x1FD3, 0x1FD3, 1, 0x390⟩, ⟨0x1FE3, 0x1FE3, 1, 0x3B0⟩, ⟨0xFB05, 0xFB05, 1, 0xFB06⟩]

def cherokeeFoldMap : List Stretch :=
  [⟨0x13F8, 0x13FD, 1, 0x13F0⟩, ⟨0xAB70, 0xABBF, 1, 0x13A0⟩]

def cherokeeLowerMap : List Stretch :=
  [⟨0x13A0, 0x13EF, 1, 0xAB70⟩, ⟨0x13F0, 0x13F5, 1, 0x13F8⟩]

set_option maxRecDepth 10000

theorem isChain_foldMap : foldMap.IsChain Precedes := by decide

theorem foldMap_first_le : ∀ s ∈ foldMap, s.first ≤ s.last := by decide

theorem isChain_lowerMap : lowerMap.IsChain Precedes := by decide

theorem lowerMap_apart_added : ∀ t ∈ Recent.addedLowerMap, ∀ s ∈ lowerMap, s.Apart t := by
  decide

theorem folded_sublist : (foldMap.filter fun s =>
    !(strayMap ++ cherokeeFoldMap).contains s).isSublist lowerMap = true := by
  decide +kernel

theorem lowered_sublist :
    (lowerMap.filter fun s => !cherokeeLowerMap.contains s).isSublist foldMap = true := by
  decide

theorem strayMap_sublist : strayMap.isSublist foldMap = true := by decide

theorem images_clear :
    (foldMap.all fun s => clear s.image s.lastImage s.step foldMap) = true := by
  decide +kernel

theorem images_missed_by_others : (foldMap.all fun s => cherokeeFoldMap.contains s ||
    (cherokeeLowerMap ++ Recent.addedLowerMap).all fun t =>
      t.misses s.image s.lastImage s.step) = true := by
  decide

theorem strays_missed_by_lowerMap :
    (strayMap.all fun s => Recent.lowerMap.all fun t => t.misses s.first s.last s.step) = true := by
  decide

theorem strays_moved : ∀ s ∈ strayMap, s.image ≠ s.first := by decide

theorem cherokee_turned : ∀ s ∈ cherokeeFoldMap,
    (⟨s.image, s.lastImage, 1, s.first⟩ : Stretch) ∈ cherokeeLowerMap ∧ s.step = 1 ∧
      Recent.lowerMap.all (fun t => t.misses s.first s.last s.step) = true := by
  decide

def Stretch.Valid (s : Stretch) : Prop :=
  s.lastImage < 0xD800 ∨ 0xDFFF < s.image ∧ s.lastImage < 0x110000

instance (s : Stretch) : Decidable s.Valid :=
  inferInstanceAs (Decidable (_ ∨ _))

theorem valid_foldMap : ∀ s ∈ foldMap, s.Valid := by decide

theorem valid_lowerMap : ∀ s ∈ Recent.lowerMap, s.Valid := by decide

section Codes

variable {s t : Stretch} {n : Nat}

theorem apart_foldMap : foldMap.Pairwise Apart := pairwise_apart_of_isChain isChain_foldMap

theorem apart_lowerMap : Recent.lowerMap.Pairwise Apart :=
  List.pairwise_append.mpr ⟨pairwise_apart_of_isChain isChain_lowerMap, by decide,
    fun s hs t ht => lowerMap_apart_added t ht s hs⟩

theorem foldMap_cases (hs : s ∈ foldMap) :
    s ∈ strayMap ∨ s ∈ cherokeeFoldMap ∨ s ∈ Recent.lowerMap := by
  by_cases hOther : s ∈ strayMap ++ cherokeeFoldMap
  · exact (List.mem_append.mp hOther).imp_right .inl
  · have hSub := (List.isSublist_iff_sublist.mp folded_sublist).subset
    have hMem : s ∈ lowerMap := hSub (List.mem_filter.mpr ⟨hs, by simpa using hOther⟩)
    exact .inr (.inr (List.mem_append_left _ hMem))

theorem lowerMap_cases (ht : t ∈ Recent.lowerMap) :
    t ∈ foldMap ∨ t ∈ cherokeeLowerMap ++ Recent.addedLowerMap := by
  rcases List.mem_append.mp ht with ht | ht
  · by_cases hOther : t ∈ cherokeeLowerMap
    · exact .inr (List.mem_append_left _ hOther)
    · have hSub := (List.isSublist_iff_sublist.mp lowered_sublist).subset
      exact .inl (hSub (List.mem_filter.mpr ⟨ht, by simpa using hOther⟩))
  · exact .inr (List.mem_append_right _ ht)

theorem foldCode_send (hs : s ∈ foldMap) (h : s.covers n = true) :
    mapCode foldMap (s.send n) = s.send n := by
  have hMisses := misses_of_clear isChain_foldMap (List.all_eq_true.mp images_clear s hs)
  exact mapCode_eq_self fun t ht => not_covers_send (hMisses t ht) h

/-- Images of folding are lower case, except for Cherokee. -/
theorem lowerCode_send (hs : s ∈ foldMap) (hOther : s ∉ cherokeeFoldMap) (h : s.covers n = true) :
    mapCode Recent.lowerMap (s.send n) = s.send n := by
  refine mapCode_eq_self fun t ht => not_covers_send ?_ h
  obtain ht | ht := lowerMap_cases ht
  · exact misses_of_clear isChain_foldMap (List.all_eq_true.mp images_clear s hs) t ht
  · have hMisses := List.all_eq_true.mp images_missed_by_others s hs
    rw [Bool.or_eq_true, List.contains_iff_mem] at hMisses
    exact List.all_eq_true.mp (hMisses.resolve_left hOther) t ht

theorem lowerCode_foldCode_of_cherokee (hs : s ∈ cherokeeFoldMap) (h : s.covers n = true) :
    mapCode Recent.lowerMap (s.send n) = n ∧ mapCode Recent.lowerMap n = n := by
  obtain ⟨hFirst, hLast, hStep⟩ := covers_iff.mp h
  obtain ⟨hTurned, -, hMisses⟩ := cherokee_turned s hs
  have hMem : (⟨s.image, s.lastImage, 1, s.first⟩ : Stretch) ∈ Recent.lowerMap := by
    revert hTurned
    generalize (⟨s.image, s.lastImage, 1, s.first⟩ : Stretch) = t
    revert t
    decide
  obtain ⟨hImage, hLastImage, -⟩ := send_image h
  constructor
  · rw [mapCode_of_covers apart_lowerMap hMem (covers_iff.mpr ⟨hImage, hLastImage, Nat.mod_one _⟩)]
    simp only [send] at *
    omega
  · exact mapCode_eq_self fun t ht =>
      not_covers_of_misses (List.all_eq_true.mp hMisses t ht) hFirst hLast hStep

theorem lowerCode_foldCode (h : ∀ s ∈ strayMap, s.covers n = false) :
    mapCode Recent.lowerMap (mapCode foldMap n) = mapCode Recent.lowerMap n := by
  obtain ⟨s, hs, hCovers, hEq⟩ | ⟨-, hEq⟩ := mapCode_cases foldMap n <;> rw [hEq]
  by_cases hCherokee : s ∈ cherokeeFoldMap
  · obtain ⟨hTurned, hSelf⟩ := lowerCode_foldCode_of_cherokee hCherokee hCovers
    rw [hTurned, hSelf]
  · rcases foldMap_cases hs with hStray | hOther | hLower
    · rw [h s hStray] at hCovers
      cases hCovers
    · exact absurd hOther hCherokee
    · rw [lowerCode_send hs hCherokee hCovers, mapCode_of_covers apart_lowerMap hLower hCovers]

theorem lowerCode_of_stray (hs : s ∈ strayMap) (h : s.covers n = true) :
    mapCode Recent.lowerMap n = n ∧ mapCode Recent.lowerMap (mapCode foldMap n) ≠ n := by
  obtain ⟨hFirst, hLast, hStep⟩ := covers_iff.mp h
  have hFold : s ∈ foldMap := (List.isSublist_iff_sublist.mp strayMap_sublist).subset hs
  have hCherokee : ∀ s ∈ strayMap, s ∉ cherokeeFoldMap := by decide
  have hMisses := List.all_eq_true.mp strays_missed_by_lowerMap s hs
  have hMoved := strays_moved s hs
  constructor
  · exact mapCode_eq_self fun t ht =>
      not_covers_of_misses (List.all_eq_true.mp hMisses t ht) hFirst hLast hStep
  · rw [mapCode_of_covers apart_foldMap hFold h, lowerCode_send hFold (hCherokee s hs) h, send]
    omega

theorem isValidChar_mapCode {map : List Stretch} (hMap : ∀ s ∈ map, s.Valid)
    (h : n.isValidChar) : (mapCode map n).isValidChar := by
  obtain ⟨s, hs, hCovers, hEq⟩ | ⟨-, hEq⟩ := mapCode_cases map n <;> rw [hEq]
  · obtain ⟨hImage, hLastImage, -⟩ := send_image hCovers
    have hValid := hMap s hs
    simp only [Stretch.Valid] at hValid
    simp only [Nat.isValidChar]
    omega
  · exact h

end Codes

def lower (c : Char) : Char := Char.ofNat (mapCode Recent.lowerMap c.toNat)

def isStray (c : Char) : Bool := strayMap.any (·.covers c.toNat)

section Characters

variable {x y : Char}

theorem toNat_ofNat {n : Nat} (h : n.isValidChar) : (Char.ofNat n).toNat = n := by
  rw [Char.ofNat, dif_pos h]
  rfl

theorem toNat_fold (c : Char) : (fold c).toNat = mapCode foldMap c.toNat :=
  toNat_ofNat (isValidChar_mapCode valid_foldMap c.valid)

theorem toNat_lower (c : Char) : (lower c).toNat = mapCode Recent.lowerMap c.toNat :=
  toNat_ofNat (isValidChar_mapCode valid_lowerMap c.valid)

theorem lower_fold (h : isStray x = false) : lower (fold x) = lower x :=
  Char.toNat_inj.mp (by
    rw [toNat_lower, toNat_lower, toNat_fold, lowerCode_foldCode (by simpa [isStray] using h)])

theorem lower_of_isStray (h : isStray x = true) : lower x = x ∧ lower (fold x) ≠ x := by
  obtain ⟨s, hs, hCovers⟩ := List.any_eq_true.mp h
  obtain ⟨hSelf, hMoved⟩ := lowerCode_of_stray hs hCovers
  constructor
  · exact Char.toNat_inj.mp (by rw [toNat_lower, hSelf])
  · intro hEq
    refine hMoved ?_
    rw [← toNat_fold, ← toNat_lower, hEq]

/-- Characters with the same folding have the same lower case, unless they differ and one of them is
a stray. -/
theorem lower_eq_lower_iff (h : fold x = fold y) :
    lower x = lower y ↔ x = y ∨ isStray x = false ∧ isStray y = false := by
  constructor
  · intro hLower
    cases hx : isStray x with
    | true =>
      obtain ⟨hSelf, hMoved⟩ := lower_of_isStray hx
      cases hy : isStray y with
      | true => exact .inl (by rw [← hSelf, hLower, (lower_of_isStray hy).1])
      | false => exact absurd (by rw [h, lower_fold hy, ← hLower, hSelf]) hMoved
    | false =>
      cases hy : isStray y with
      | true =>
        obtain ⟨hSelf, hMoved⟩ := lower_of_isStray hy
        exact absurd (by rw [← h, lower_fold hx, hLower, hSelf]) hMoved
      | false => exact .inr ⟨rfl, rfl⟩
  · rintro (rfl | ⟨hx, hy⟩)
    · rfl
    · rw [← lower_fold hx, h, lower_fold hy]

end Characters

end Highlight.Unicode
