import Highlight.Proofs.Fsd.Layout
import Highlight.Proofs.Fsd.QuotedText
import Highlight.Proofs.Fsd.Words

/-! # Reading tokens

`Leads` follows the stack along a sequence of tokens, each of which the top state can read. Such a
sequence is crossed without a fallback however it is laid out.
-/

namespace Highlight.Fsd

open Text Unicode Grammar

variable {stack stack' final : StateStack} {t : Token} {ts us : List Token} {text : List Char}

/-- Between tokens the stack belongs to the grammar, there may be layout, and there is room for the
state `string`. -/
structure Ready (stack : StateStack) : Prop where
  accepted : ∀ id ∈ stack.ids, id < 10
  top_mem : stack.top ∈ spaced
  depth_le : stack.depth ≤ 5

theorem Ready.enter_eq (h : Ready stack) : grammar.enter stack = stack :=
  if_pos (accepts_iff.mpr h.accepted)

theorem Ready.push {id : StateId} (h : Ready stack) (hDepth : stack.depth ≤ 4) (hId : id ∈ spaced) :
    Ready (stack.push id) where
  accepted := by
    have hLess : ∀ id ∈ spaced, id < 10 := by decide
    rw [StateStack.ids_push]
    intro i hi
    rcases List.mem_append.mp hi with hi | hi
    · exact h.accepted i hi
    · rw [List.mem_singleton.mp hi]
      exact hLess id hId
  top_mem := hId
  depth_le := Nat.succ_le_succ hDepth

def Reads (s : StateId) (t : Token) (e : Effect) : Prop :=
  ∀ (stack : StateStack) (after : List Char), stack.top = s → Ready stack →
    (t.isWord = true → Stops after) → grammar.Crosses stack t.text after (stack.apply 100 e)

theorem reads_name {s : StateId} (i : Identifier) (hs : s ∈ naming) : Reads s (.name i) .stay :=
  fun _ _ hTop _ hStops => crosses_name i (hTop ▸ hs) (hStops rfl)

theorem reads_attributeWord {s : StateId} (w : AttributeWord) (hs : s ∈ attributing) :
    Reads s (.attributeWord w) .stay :=
  fun _ _ hTop _ hStops => crosses_attributeWord w (hTop ▸ hs) (hStops rfl)

theorem reads_quoted (items : List StringItem) : Reads At.attrValue (.quoted items) .stay := by
  intro stack after hTop hReady _
  have hRoom := hReady.depth_le
  exact crosses_quoted items hTop (by omega)

theorem reads_mark {s : StateId} {m : Mark} {e : Effect} (h : markEffect? s m = some e) :
    Reads s (.mark m) e := by
  intro stack after hTop hReady _
  rw [← hTop] at h
  exact crosses_mark (mem_formal_of_mem_spaced hReady.top_mem) h

inductive Leads : StateStack → List Token → StateStack → Prop
  | nil (stack : StateStack) : Leads stack [] stack
  | cons {stack final : StateStack} {t : Token} {ts : List Token} {e : Effect}
      (hReady : Ready stack) (hReads : Reads stack.top t e) (h : Leads (stack.apply 100 e) ts final) :
      Leads stack (t :: ts) final

namespace Leads

theorem append (h : Leads stack ts stack') (h' : Leads stack' us final) :
    Leads stack (ts ++ us) final := by
  induction h with
  | nil => exact h'
  | cons hReady hReads _ ih => exact .cons hReady hReads (ih h')

theorem stay {s : StateId} (hTop : stack.top = s) (hReady : Ready stack) (hReads : Reads s t .stay)
    (h : Leads stack ts final) : Leads stack (t :: ts) final := by
  subst hTop
  exact .cons hReady hReads h

theorem push {m : Mark} {s id : StateId} (hTop : stack.top = s) (hReady : Ready stack)
    (hMark : markEffect? s m = some (.push id)) (h : Leads (stack.push id) ts final) :
    Leads stack (.mark m :: ts) final := by
  have hPush : stack.apply 100 (.push id) = stack.push id := by
    have hRoom := hReady.depth_le
    rw [StateStack.apply, if_neg (by omega)]
  subst hTop
  refine .cons hReady (reads_mark hMark) ?_
  rwa [hPush]

theorem pop {m : Mark} {id : StateId} (hReady : Ready (stack.push id))
    (hMark : markEffect? id m = some .pop) (h : Leads stack ts final) :
    Leads (stack.push id) (.mark m :: ts) final :=
  .cons hReady (reads_mark hMark) h

theorem flatMap {α : Type} {f : α → List Token} (h : ∀ x, Leads stack (f x) stack) (xs : List α) :
    Leads stack (xs.flatMap f) stack := by
  induction xs with
  | nil => exact .nil stack
  | cons x xs ih => exact (h x).append ih

theorem commaSeparated {α : Type} {f : α → List Token} (h : ∀ x, Leads stack (f x) stack')
    (hComma : ∀ {us}, Leads stack us stack' → Leads stack' (.mark .comma :: us) stack') (x : α)
    (xs : List α) : Leads stack (commaSeparated ((x :: xs).map f)) stack' := by
  induction xs generalizing x with
  | nil => exact h x
  | cons y xs ih => exact (h x).append (hComma (ih y))

end Leads

theorem ne_lineBreak_of_isAttributeChar {x : Char} (h : isAttributeChar x = true) :
    x ≠ '\r' ∧ x ≠ '\n' := by
  constructor
  · rintro rfl
    cases h
  · rintro rfl
    cases h

theorem StringItem.ne_lineBreak (item : StringItem) : ∀ x ∈ item.text, x ≠ '\r' ∧ x ≠ '\n' := by
  cases item with
  | plain x hx =>
    simp only [List.mem_cons, List.not_mem_nil, or_false, not_or] at hx
    rw [StringItem.text, List.forall_mem_singleton]
    exact ⟨hx.2.2.1, hx.2.2.2⟩
  | escaped x hx =>
    simp only [List.mem_cons, List.not_mem_nil, or_false, not_or] at hx
    rw [StringItem.text, List.forall_mem_cons, List.forall_mem_singleton]
    exact ⟨by decide, hx⟩

theorem Token.ne_lineBreak (t : Token) : ∀ x ∈ t.text, x ≠ '\r' ∧ x ≠ '\n' := by
  cases t with
  | name i =>
    refine List.forall_mem_cons.mpr ⟨?_, fun x hx => ?_⟩
    · exact ne_lineBreak_of_isAttributeChar (by simp [isAttributeChar, Char.isAlphanum, i.first_isAlpha])
    · exact ne_lineBreak_of_isAttributeChar (by simp [isAttributeChar, i.isAlphanum_of_mem x hx])
  | attributeWord w => exact fun x hx => ne_lineBreak_of_isAttributeChar (w.isAttributeChar_of_mem x hx)
  | quoted items =>
    intro x hx
    simp only [Token.text, List.mem_append, List.mem_cons, List.mem_flatMap, List.not_mem_nil,
      or_false] at hx
    rcases hx with (rfl | ⟨item, _, hItem⟩) | rfl
    · decide
    · exact item.ne_lineBreak x hItem
    · decide
  | mark m =>
    rw [Token.text, List.forall_mem_singleton]
    cases m <;> decide

theorem Stops.lineRest (h : Stops text) : Stops (Text.lineRest text) := by
  fun_cases Text.lineRest text with
  | case1 => exact h
  | case2 => exact fun _ hx => absurd hx (Option.not_mem_none _)
  | case3 => exact fun _ hx => absurd hx (Option.not_mem_none _)
  | case4 x text _ _ => exact h

theorem stops_cons {x : Char} (hx : x ∈ breaks) (text : List Char) : Stops (x :: text) := by
  intro y hy
  cases hy
  exact hx

theorem LineBreak.stops (b : LineBreak) (text : List Char) : Stops (b.text ++ text) := by
  cases b with
  | lineFeed => exact stops_cons (by decide) _
  | returnAndFeed => exact stops_cons (by decide) _

theorem stops_of_layout {layout : Layout} (h : layout ≠ []) (text : List Char) :
    Stops (layout.text ++ text) := by
  obtain ⟨gap, layout, rfl⟩ := List.exists_cons_of_ne_nil h
  rw [Layout.text, List.flatMap_cons, List.append_assoc]
  cases gap with
  | space => exact stops_cons (by decide) _
  | tab => exact stops_cons (by decide) _
  | lineBreak b => exact b.stops _
  | comment body b => exact stops_cons (by decide) _

theorem Token.stops (hWord : t.isWord = false) (text : List Char) : Stops (t.text ++ text) := by
  cases t with
  | name i => cases hWord
  | attributeWord w => cases hWord
  | quoted items => exact stops_cons (by decide) _
  | mark m => exact stops_cons (by cases m <;> decide) _

theorem LaidOut.stops {body : List Char} (h : LaidOut (t :: ts) body) (hWord : t.isWord = false)
    (text : List Char) : Stops (body ++ text) := by
  cases h with
  | last => exact Token.stops hWord text
  | more layout _ h =>
    rw [List.append_assoc, List.append_assoc]
    exact Token.stops hWord _

theorem cleanOn_token (hReady : Ready stack) {e : Effect} (hReads : Reads stack.top t e)
    (hStops : t.isWord = true → Stops text) (h : grammar.CleanOn (stack.apply 100 e) text final) :
    grammar.CleanOn stack (t.text ++ text) final :=
  h.append t.ne_lineBreak (hReads stack _ rfl hReady fun hWord => (hStops hWord).lineRest)

theorem cleanOn_laidOut {body : List Char} (hBody : LaidOut ts body) (hLeads : Leads stack ts stack')
    (hStops : Stops text) (h : grammar.CleanOn stack' text final) :
    grammar.CleanOn stack (body ++ text) final := by
  induction hBody generalizing stack with
  | last t =>
    cases hLeads with
    | cons hReady hReads hNil =>
      cases hNil
      exact cleanOn_token hReady hReads (fun _ => hStops) h
  | @more u ts body t layout hWords hBody ih =>
    cases hLeads with
    | cons hReady hReads hLater =>
      rw [List.append_assoc, List.append_assoc]
      have hClean := ih hLater
      cases hLater with
      | cons hReady' _ _ =>
        refine cleanOn_token hReady hReads (fun hWord => ?_)
          (cleanOn_layout layout hReady'.top_mem hReady'.enter_eq hClean)
        -- only layout or a token that is no word can stand behind a word
        by_cases hLayout : layout = []
        · have hNext : u.isWord = false := by
            rw [Bool.eq_false_iff]
            exact fun hNext => hWords hWord hNext hLayout
          rw [hLayout]
          exact hBody.stops hNext text
        · exact stops_of_layout hLayout _

end Highlight.Fsd
