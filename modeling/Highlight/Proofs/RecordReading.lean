import Highlight.Declaration.Reader
import Highlight.Proofs.JsonSkipping
import Highlight.Proofs.WrittenForms
import Mathlib.Data.List.TakeWhile

/-! # Records are read in any order

A reader reads a value however it is spelled. Lists and records are read if their parts are: a list
of fields one field after the other, and the members of an object in the order in which they stand,
where it is enough to know what one member adds to the fields that have been read.
-/

namespace Highlight.Declaration

open Json

section Readers

variable {α σ : Type} {read : Read α} {j : Json} {x : α}

/-- However `j` is spelled, `read` gives `x` and leaves what follows. -/
def Reads (read : Read α) (j : Json) (x : α) : Prop :=
  ∀ ⦃w t : List Char⦄ ⦃s : Rest⦄, Blank w → Spells j t → Stops s →
    read (w ++ (t ++ s)) = .ok (x, s)

theorem lift_eq_ok {x : Except Fault α} {a : α} (h : x = .ok a) :
    (liftM x : Except ReadError α) = .ok a := by
  rw [h]
  rfl

theorem reads_text (x : String) : Reads readText (.str x) x := by
  intro w t s hw ht _
  cases ht with
  | string h =>
    obtain ⟨u, rfl, hString⟩ := h.string_append
    rw [List.cons_append, readText, hw.dropBlanks_append rfl]
    exact lift_eq_ok (hString s)

theorem reads_flag (b : Bool) : Reads readFlag (.bool b) b := by
  intro w t s hw ht _
  cases ht
  cases b with
  | true =>
    change readFlag (w ++ 't' :: ("rue".toList ++ s)) = _
    rw [readFlag, hw.dropBlanks_append rfl]
    exact except_bind_ok (lift_eq_ok (ident_append _ s)) rfl
  | false =>
    change readFlag (w ++ 'f' :: ("alse".toList ++ s)) = _
    rw [readFlag, hw.dropBlanks_append rfl]
    exact except_bind_ok (lift_eq_ok (ident_append _ s)) rfl

theorem readVersion_digit {w : List Char} (hw : Blank w) {c : Char} (hc : isDigit c = true)
    {s t : Rest} {n : Number} (h : number false (c :: s) = .ok (n, t)) :
    readVersion (w ++ c :: s) = checkVersion n t := by
  rw [readVersion, hw.dropBlanks_append (not_isBlank_of_isDigit hc)]
  split
  case h_2 hEq =>
    cases hEq
    rw [if_pos hc, h]
    rfl
  case h_1 hEq =>
    cases hEq
    cases hc
  case h_3 hEq => cases hEq

theorem reads_version (v : UInt32) : Reads readVersion (.ofNat v.toNat) v := by
  intro w t s hw ht hs
  cases ht
  have hLt : v.toNat < UInt32.size := v.toNat_lt
  have hNumber := number_append (Nat.lt_trans hLt (by decide)) false hs
  obtain ⟨c, cs, hEq, hc⟩ := exists_toDigits_eq_cons v.toNat
  rw [hEq, List.cons_append] at hNumber
  rw [Number.render, hEq, List.cons_append, readVersion_digit hw hc hNumber]
  change (if v.toNat < UInt32.size then _ else _) = _
  rw [if_pos hLt, UInt32.ofNat_toNat]

theorem elements_append {js : List Json} {xs : List α} (h : List.Forall₂ (Reads read) js xs)
    {first : Bool} {t : List Char} (ht : SpellsItems first js t) {bound : Nat}
    (hBound : t.length < bound) (s : Rest) :
    ∃ w, Blank w ∧ elements read bound first (t ++ s) = .ok (xs, w ++ ']' :: s) := by
  induction h generalizing first t bound with
  | nil =>
    cases ht with
    | close hw =>
      obtain ⟨bound, rfl⟩ := Nat.exists_eq_add_of_le' (Nat.one_le_of_lt hBound)
      rw [List.append_assoc]
      exact ⟨_, hw, except_bind_ok (lift_eq_ok (hw.nextElement_append first s)) rfl⟩
  | cons hRead _ ih =>
    cases ht with
    | item hSep hx hxs =>
      have hPos := hx.length_pos
      rw [List.length_append, List.length_append] at hBound
      obtain ⟨bound, rfl⟩ := Nat.exists_eq_add_of_le' (Nat.one_le_of_lt hBound)
      obtain ⟨w, hw, hRest⟩ := ih hxs (show _ < bound by omega)
      have hValue := hRead .nil hx (hxs.stops_append s)
      obtain ⟨c, u, rfl, hBlank, hc⟩ := hx.exists_eq_cons
      rw [List.append_assoc, List.append_assoc]
      refine ⟨w, hw, except_bind_ok (lift_eq_ok (hSep.nextElement_append hBlank hc _)) ?_⟩
      refine except_bind_ok hValue ?_
      exact except_bind_ok hRest rfl

theorem reads_list {js : List Json} {xs : List α} (h : List.Forall₂ (Reads read) js xs) :
    Reads (readList read) (.arr js) xs := by
  intro w t s hw ht _
  cases ht with
  | @list _ u ht =>
    have hBound : u.length < (u ++ s).length + 1 := by
      rw [List.length_append]
      omega
    obtain ⟨v, hv, hElements⟩ := elements_append h ht hBound s
    rw [List.cons_append, readList, hw.dropBlanks_append rfl]
    refine except_bind_ok hElements ?_
    exact except_bind_ok (lift_eq_ok (hv.closeList_append s)) rfl

theorem reads_writesList {writes : α → Json → Prop} (h : ∀ x j, writes x j → Reads read j x)
    {xs : List α} (hj : WritesList writes xs j) : Reads (readList read) j xs := by
  obtain ⟨hj⟩ := hj
  exact reads_list (hj.imp h).flip

/-- The reader takes elements from the front of a list and leaves `rest` of them. -/
def Consumes (read : Read α) (first : Bool) (js rest : List Json) (x : α) : Prop :=
  ∀ ⦃t : List Char⦄, SpellsItems first js t →
    ∃ v, SpellsItems false rest v ∧ ∀ s, read (t ++ s) = .ok (x, v ++ s)

theorem Consumes.pure {js : List Json} : Consumes (fun s => .ok (x, s)) false js js x :=
  fun t ht => ⟨t, ht, fun _ => rfl⟩

theorem Consumes.bind {β : Type} {next : α × Rest → Except ReadError (β × Rest)} {first : Bool}
    {js mid rest : List Json} {y : β} (h : Consumes read first js mid x)
    (hNext : Consumes (fun s => next (x, s)) false mid rest y) :
    Consumes (fun s => read s >>= next) first js rest y := by
  intro t ht
  obtain ⟨u, hu, hRead⟩ := h ht
  obtain ⟨v, hv, hRest⟩ := hNext hu
  exact ⟨v, hv, fun s => except_bind_ok (hRead s) (hRest s)⟩

theorem consumes_element (h : Reads read j x) {first : Bool} {js : List Json} :
    Consumes (element read first) first (j :: js) js (some x) := by
  intro t ht
  cases ht with
  | @item _ _ _ _ u v hSep hx hxs =>
    refine ⟨v, hxs, fun s => ?_⟩
    have hValue := h .nil hx (hxs.stops_append s)
    obtain ⟨c, u, rfl, hBlank, hc⟩ := hx.exists_eq_cons
    rw [List.append_assoc, List.append_assoc]
    refine except_bind_ok (lift_eq_ok (hSep.nextElement_append hBlank hc _)) ?_
    exact except_bind_ok hValue rfl

theorem consumes_requiredElement (h : Reads read j x) {expected : Expected} {index : Nat}
    {js : List Json} :
    Consumes (requiredElement read expected index) (index == 0) (j :: js) js x := by
  intro t ht
  obtain ⟨v, hv, hElement⟩ := consumes_element h ht
  exact ⟨v, hv, fun s => except_bind_ok (hElement s) rfl⟩

theorem reads_record_list {expected : Expected} {ofList ofObject : Read α} {js : List Json}
    (h : Consumes ofList true js [] x) : Reads (readRecord expected ofList ofObject) (.arr js) x := by
  intro w t s hw ht _
  cases ht with
  | list ht =>
    obtain ⟨_, ⟨hv⟩, hList⟩ := h ht
    rw [List.cons_append, readRecord, hw.dropBlanks_append rfl]
    refine except_bind_ok (hList s) ?_
    rw [List.append_assoc]
    exact except_bind_ok (lift_eq_ok (hv.closeList_append s)) rfl

def Takes (member : String → σ → Read σ) (m : String × Json) (x y : σ) : Prop :=
  ∀ ⦃mid t : List Char⦄ ⦃s : Rest⦄, SpellsColon mid → Spells m.2 t → Stops s →
    member m.1 x (mid ++ (t ++ s)) = .ok (y, s)

inductive Collects (member : String → σ → Read σ) : σ → List (String × Json) → σ → Prop
  | nil {x : σ} : Collects member x [] x
  | cons {x y z : σ} {m : String × Json} {ms : List (String × Json)} (h : Takes member m x y)
    (hs : Collects member y ms z) : Collects member x (m :: ms) z

theorem Collects.members_append {member : String → σ → Read σ} {x y : σ}
    {ms : List (String × Json)} (h : Collects member x ms y) {first : Bool} {t : List Char}
    (ht : SpellsMembers first ms t) {bound : Nat} (hBound : t.length < bound) (s : Rest) :
    ∃ w, Blank w ∧ members member bound first x (t ++ s) = .ok (y, w ++ '\x7d' :: s) := by
  induction h generalizing first t bound with
  | nil =>
    cases ht with
    | close hw =>
      obtain ⟨bound, rfl⟩ := Nat.exists_eq_add_of_le' (Nat.one_le_of_lt hBound)
      rw [List.append_assoc]
      exact ⟨_, hw, except_bind_ok (lift_eq_ok (hw.nextKey_append first s)) rfl⟩
  | cons hTakes _ ih =>
    cases ht with
    | member hSep hKey hMid hx hms =>
      have hPos := hx.length_pos
      simp only [List.length_append] at hBound
      obtain ⟨bound, rfl⟩ := Nat.exists_eq_add_of_le' (Nat.one_le_of_lt hBound)
      obtain ⟨w, hw, hRest⟩ := ih hms (show _ < bound by omega)
      have hMember := hTakes hMid hx (hms.stops_append s)
      obtain ⟨u, rfl, hString⟩ := hKey.string_append
      simp only [List.append_assoc]
      refine ⟨w, hw, except_bind_ok (lift_eq_ok (hSep.nextKey_append _)) ?_⟩
      refine except_bind_ok (lift_eq_ok (hString _)) ?_
      exact except_bind_ok hMember hRest

theorem field_append {name : String} (h : Reads read j x) {mid t : List Char} {s : Rest}
    (hMid : SpellsColon mid) (ht : Spells j t) (hs : Stops s) :
    field name none read (mid ++ (t ++ s)) = .ok (x, s) := by
  obtain ⟨v, hv, hColon⟩ := hMid.colon_append
  exact except_bind_ok (lift_eq_ok (hColon _)) (h hv ht hs)

theorem takes_field {member : String → σ → Read σ} {key : String} {p q : σ}
    {put : α × Rest → Except ReadError (σ × Rest)} (h : Reads read j x)
    (hMember : ∀ s, member key p s = field key none read s >>= put)
    (hPut : ∀ s, put (x, s) = .ok (q, s)) : Takes member (key, j) p q := by
  intro mid t s hMid ht hs
  rw [hMember]
  exact except_bind_ok (field_append h hMid ht hs) (hPut s)

theorem takes_unknown {member : String → σ → Read σ} {key : String} {p : σ}
    (hMember : member key p = unknownField p) {depth : Nat} (hFits : Fits depth j) :
    Takes member (key, j) p p := by
  intro mid t s hMid ht hs
  obtain ⟨v, hv, hColon⟩ := hMid.colon_append
  rw [hMember]
  refine except_bind_ok (lift_eq_ok (hColon _)) ?_
  exact except_bind_ok (lift_eq_ok (ht.skip_append hFits hv hs)) rfl

theorem reads_record {expected : Expected} {ofList ofObject : Read α}
    {member : String → σ → Read σ} {start fields : σ} {ms : List (String × Json)}
    (hFields : Collects member start ms fields)
    (hObject : ∀ ⦃s r : Rest⦄, members member (s.length + 1) true start s = .ok (fields, r) →
      ofObject s = .ok (x, r)) :
    Reads (readRecord expected ofList ofObject) (.obj ms) x := by
  intro w t s hw ht _
  cases ht with
  | @object _ u ht =>
    have hBound : u.length < (u ++ s).length + 1 := by
      rw [List.length_append]
      omega
    obtain ⟨v, hv, hMembers⟩ := hFields.members_append ht hBound s
    rw [List.cons_append, readRecord, hw.dropBlanks_append rfl]
    refine except_bind_ok (hObject hMembers) ?_
    exact except_bind_ok (lift_eq_ok (hv.closeObject_append s)) rfl

def known (keys : List String) (name : String) (x : α) : Option α :=
  if name ∈ keys then some x else none

@[simp] theorem known_append (keys : List String) (key name : String) (x : α) :
    known (keys ++ [key]) name x = if name = key then some x else known keys name x := by
  by_cases h : name = key <;> simp [known, h]

theorem require_known {keys : List String} {name : String} (h : name ∈ keys) (x : α) :
    require name (known keys name x) = .ok x := by
  rw [known, if_pos h, require]

theorem getD_known {keys : List String} {name : String} {x default : α}
    (h : name ∈ keys ∨ x = default) : (known keys name x).getD default = x := by
  by_cases hKey : name ∈ keys
  · rw [known, if_pos hKey, Option.getD_some]
  · rw [known, if_neg hKey, Option.getD_none, h.resolve_left hKey]

/-- `only keys` is the record as far as the members with these keys tell, and `member` goes on from
there with a field that is new, or with a member that is none. -/
structure Gathers (member : String → σ → Read σ) (fs : List Field) (only : List String → σ) :
    Prop where
  field : ∀ f ∈ fs, ∀ keys, f.name ∉ keys → ∀ j, f.holds j →
    Takes member (f.name, j) (only keys) (only (keys ++ [f.name]))
  unknown : ∀ key, (∀ f ∈ fs, key ≠ f.name) →
    (∀ keys, only (keys ++ [key]) = only keys) ∧ ∀ p, member key p = unknownField p

theorem takes_new {member : String → σ → Read σ} {key : String} {p q : σ} {keys : List String}
    {y : α} {put : α × Rest → Except ReadError (σ × Rest)} (h : Reads read j x) (hNew : key ∉ keys)
    (hMember : ∀ s, member key p s = Declaration.field key (known keys key y) read s >>= put)
    (hPut : ∀ s, put (x, s) = .ok (q, s)) : Takes member (key, j) p q :=
  takes_field h (fun s => by rw [hMember, known, if_neg hNew]) hPut

section Members

variable {member : String → σ → Read σ} {only : List String → σ} {reserved : List String}
  {fs : List Field} {ms : List (String × Json)}

theorem mem_keys_or (h : Record reserved fs ms) :
    ∀ f ∈ fs, f.name ∈ ms.map Prod.fst ∨ f.omissible := by
  intro f hf
  obtain ⟨j, -, hFilter⟩ | ⟨hOmits, -⟩ := h.fields f hf
  · have hMem : (f.name, j) ∈ ms.filter (·.1 == f.name) := by
      rw [hFilter]
      exact List.mem_singleton_self _
    exact .inl (List.mem_map.mpr ⟨_, (List.mem_filter.mp hMem).1, rfl⟩)
  · exact .inr hOmits

theorem field_or_unknown {pre post : List (String × Json)} {m : String × Json}
    (h : Record reserved fs (pre ++ m :: post)) :
    (∃ f ∈ fs, m.1 = f.name ∧ f.holds m.2 ∧ f.name ∉ pre.map Prod.fst) ∨
      (∀ f ∈ fs, m.1 ≠ f.name) ∧ Fits 100 m.2 := by
  have hMem : m ∈ pre ++ m :: post := List.mem_append_right pre List.mem_cons_self
  by_cases hKey : ∃ f ∈ fs, m.1 = f.name
  · obtain ⟨f, hf, hKey⟩ := hKey
    refine .inl ⟨f, hf, hKey, h.holds_of_mem hf hMem hKey, fun hOld => ?_⟩
    obtain ⟨n, hn, hName⟩ := List.mem_map.mp hOld
    obtain ⟨j, -, hFilter⟩ | ⟨-, hNone⟩ := h.fields f hf
    · -- both `n` and `m` would have that key
      have hLength := congrArg List.length hFilter
      have hPos : 0 < (pre.filter (·.1 == f.name)).length :=
        List.length_pos_of_mem (List.mem_filter.mpr ⟨hn, beq_iff_eq.mpr hName⟩)
      simp only [List.filter_append, List.filter_cons, hKey, beq_self_eq_true, if_true,
        List.length_append, List.length_cons, List.length_nil] at hLength
      omega
    · exact hNone m hMem hKey
  · have hOther (f : Field) (hf : f ∈ fs) (hEq : m.1 = f.name) : False := hKey ⟨f, hf, hEq⟩
    exact .inr ⟨hOther, (h.others m hMem hOther).2⟩

theorem Gathers.takes (h : Gathers member fs only) {pre post : List (String × Json)}
    {m : String × Json} (hRecord : Record reserved fs (pre ++ m :: post)) :
    Takes member m (only (pre.map Prod.fst)) (only ((pre ++ [m]).map Prod.fst)) := by
  obtain ⟨key, j⟩ := m
  rw [List.map_append, List.map_singleton]
  obtain ⟨f, hf, rfl, hHolds, hNew⟩ | ⟨hOther, hFits⟩ := field_or_unknown hRecord
  · exact h.field f hf _ hNew j hHolds
  · obtain ⟨hOnly, hMember⟩ := h.unknown key hOther
    rw [hOnly]
    exact takes_unknown (hMember _) hFits

theorem Gathers.collects (h : Gathers member fs only) (hRecord : Record reserved fs ms) :
    Collects member (only []) ms (only (ms.map Prod.fst)) := by
  -- by induction on the members that are left, with those in front of them known
  have hFrom (post pre : List (String × Json)) (hRecord : Record reserved fs (pre ++ post)) :
      Collects member (only (pre.map Prod.fst)) post (only ((pre ++ post).map Prod.fst)) := by
    induction post generalizing pre with
    | nil =>
      rw [List.append_nil]
      exact .nil
    | cons m post ih =>
      refine .cons (h.takes hRecord) ?_
      rw [List.append_cons pre m post] at hRecord ⊢
      exact ih _ hRecord
  exact hFrom ms [] hRecord

end Members

end Readers

end Highlight.Declaration
