import Highlight.Json.Reader

/-! # Spellings of JSON values

A value can be spelled in many ways: blanks may stand around every mark, and a character of a string
may be escaped. The indented text of a value is one of its spellings, and whatever way a value is
spelled, reading gives that value and leaves what follows.
-/

namespace Highlight.Json

def Blank (w : List Char) : Prop := ∀ c ∈ w, isBlank c = true

theorem Blank.nil : Blank [] := fun _ h => absurd h List.not_mem_nil

theorem Blank.space : Blank [' '] := List.forall_mem_singleton.mpr rfl

theorem blank_lineBreak (depth : Nat) : Blank (lineBreak depth) := by
  intro c hc
  rcases List.mem_cons.mp hc with rfl | hc
  · rfl
  · rw [List.eq_of_mem_replicate hc]
    rfl

def shortEscapes : List (Char × Char) :=
  [('"', '"'), ('\\', '\\'), ('/', '/'), ('b', Char.ofNat 8), ('f', Char.ofNat 12), ('n', '\n'),
    ('r', '\r'), ('t', '\t')]

inductive SpellsHex : Nat → List Char → Prop
  | digits {a b c d : Char} {i j k l : Nat} (ha : hexValue a = some i) (hb : hexValue b = some j)
    (hc : hexValue c = some k) (hd : hexValue d = some l) :
    SpellsHex (((i * 16 + j) * 16 + k) * 16 + l) [a, b, c, d]

inductive SpellsChar : Char → List Char → Prop
  | plain {c : Char} (hQuote : c ≠ '"') (hSlash : c ≠ '\\') (hControl : 32 ≤ c.toNat) :
    SpellsChar c [c]
  | short {mark c : Char} (h : (mark, c) ∈ shortEscapes) : SpellsChar c ['\\', mark]
  | hex {c : Char} {ds : List Char} (h : SpellsHex c.toNat ds) : SpellsChar c ('\\' :: 'u' :: ds)
  | pair {c : Char} {lead trail : Nat} {ds es : List Char} (hLead : isLeading lead = true)
    (hTrail : isTrailing trail = true)
    (hc : c.toNat = (lead - 0xD800) * 0x400 + (trail - 0xDC00) + 0x10000)
    (hds : SpellsHex lead ds) (hes : SpellsHex trail es) :
    SpellsChar c ('\\' :: 'u' :: (ds ++ '\\' :: 'u' :: es))

inductive SpellsChars : List Char → List Char → Prop
  | nil : SpellsChars [] []
  | cons {c : Char} {cs u v : List Char} (h : SpellsChar c u) (hs : SpellsChars cs v) :
    SpellsChars (c :: cs) (u ++ v)

inductive SpellsString (x : String) : List Char → Prop
  | quoted {body : List Char} (h : SpellsChars x.toList body) :
    SpellsString x ('"' :: (body ++ ['"']))

theorem hexValue_hexDigit {n : Nat} (h : n < 16) : hexValue (hexDigit n) = some n := by
  revert n
  decide

theorem spellsChar_escape (c : Char) : SpellsChar c (escape c) := by
  fun_cases escape c
  case case8 hControl =>
    have hHex := SpellsHex.digits (hexValue_hexDigit (n := 0) (by decide))
      (hexValue_hexDigit (n := 0) (by decide)) (hexValue_hexDigit (n := c.toNat / 16) (by omega))
      (hexValue_hexDigit (n := c.toNat % 16) (by omega))
    refine .hex ?_
    rwa [show ((0 * 16 + 0) * 16 + c.toNat / 16) * 16 + c.toNat % 16 = c.toNat by omega] at hHex
  case case9 hQuote hSlash _ _ _ _ _ hControl =>
    exact .plain hQuote hSlash (Nat.not_lt.mp hControl)
  -- the characters of the short escapes
  all_goals
    subst c
    exact .short (by decide)

theorem spellsString_quote (x : String) : SpellsString x (quote x) := by
  refine .quoted ?_
  induction x.toList with
  | nil => exact .nil
  | cons c cs ih => exact .cons (spellsChar_escape c) ih

inductive Separates : Bool → List Char → Prop
  | first {w : List Char} (hw : Blank w) : Separates true w
  | comma {w v : List Char} (hw : Blank w) (hv : Blank v) : Separates false (w ++ ',' :: v)

inductive SpellsColon : List Char → Prop
  | mark {w v : List Char} (hw : Blank w) (hv : Blank v) : SpellsColon (w ++ ':' :: v)

mutual

inductive Spells : Json → List Char → Prop
  | null : Spells .null "null".toList
  | bool (b : Bool) : Spells (.bool b) (toString b).toList
  | number (n : Number) : Spells (.num n) n.render
  | string {x : String} {t : List Char} (h : SpellsString x t) : Spells (.str x) t
  | list {xs : List Json} {t : List Char} (h : SpellsItems true xs t) : Spells (.arr xs) ('[' :: t)
  | object {ms : List (String × Json)} {t : List Char} (h : SpellsMembers true ms t) :
    Spells (.obj ms) ('\x7b' :: t)

inductive SpellsItems : Bool → List Json → List Char → Prop
  | close {first : Bool} {w : List Char} (hw : Blank w) : SpellsItems first [] (w ++ [']'])
  | item {first : Bool} {x : Json} {xs : List Json} {sep u v : List Char}
    (hSep : Separates first sep) (hx : Spells x u) (hxs : SpellsItems false xs v) :
    SpellsItems first (x :: xs) (sep ++ (u ++ v))

inductive SpellsMembers : Bool → List (String × Json) → List Char → Prop
  | close {first : Bool} {w : List Char} (hw : Blank w) : SpellsMembers first [] (w ++ ['\x7d'])
  | member {first : Bool} {key : String} {x : Json} {ms : List (String × Json)}
    {sep k mid u v : List Char} (hSep : Separates first sep) (hKey : SpellsString key k)
    (hMid : SpellsColon mid) (hx : Spells x u) (hms : SpellsMembers false ms v) :
    SpellsMembers first ((key, x) :: ms) (sep ++ (k ++ (mid ++ (u ++ v))))

end

theorem separates_lineBreak (depth : Nat) : Separates false (',' :: lineBreak depth) :=
  .comma .nil (blank_lineBreak depth)

theorem spellsColon_blank : SpellsColon [':', ' '] :=
  .mark .nil .space

mutual

theorem spells_render (depth : Nat) : (j : Json) → Spells j (render depth j)
  | .null => .null
  | .bool true => .bool true
  | .bool false => .bool false
  | .num n => .number n
  | .str x => .string (spellsString_quote x)
  | .arr [] => .list (.close .nil)
  | .arr (x :: xs) => by
    have hItems := SpellsItems.item (.first (blank_lineBreak (depth + 1)))
      (spells_render (depth + 1) x) (spellsItems_render (depth + 1) depth xs)
    change Spells _ ('[' :: (lineBreak (depth + 1) ++ render (depth + 1) x ++
      renderItems (depth + 1) xs ++ lineBreak depth ++ [']']))
    simp only [List.append_assoc]
    exact .list hItems
  | .obj [] => .object (.close .nil)
  | .obj ((key, x) :: ms) => by
    have hMembers := SpellsMembers.member (.first (blank_lineBreak (depth + 1)))
      (spellsString_quote key) spellsColon_blank (spells_render (depth + 1) x)
      (spellsMembers_render (depth + 1) depth ms)
    change Spells _ ('\x7b' :: (lineBreak (depth + 1) ++ quote key ++ ':' :: ' ' ::
      render (depth + 1) x ++ renderMembers (depth + 1) ms ++ lineBreak depth ++ ['\x7d']))
    simp only [List.append_assoc, List.cons_append]
    exact .object hMembers

theorem spellsItems_render (depth outer : Nat) :
    (xs : List Json) → SpellsItems false xs (renderItems depth xs ++ (lineBreak outer ++ [']']))
  | [] => .close (blank_lineBreak outer)
  | x :: xs => by
    have hItems := SpellsItems.item (separates_lineBreak depth) (spells_render depth x)
      (spellsItems_render depth outer xs)
    change SpellsItems _ _ (',' :: (lineBreak depth ++ render depth x ++ renderItems depth xs) ++ _)
    rw [List.cons_append, List.append_assoc, List.append_assoc]
    exact hItems

theorem spellsMembers_render (depth outer : Nat) : (ms : List (String × Json)) →
    SpellsMembers false ms (renderMembers depth ms ++ (lineBreak outer ++ ['\x7d']))
  | [] => .close (blank_lineBreak outer)
  | (key, x) :: ms => by
    have hMembers := SpellsMembers.member (separates_lineBreak depth) (spellsString_quote key)
      spellsColon_blank (spells_render depth x) (spellsMembers_render depth outer ms)
    change SpellsMembers _ _ (',' :: (lineBreak depth ++ quote key ++ ':' :: ' ' ::
      render depth x ++ renderMembers depth ms) ++ _)
    simp only [List.append_assoc, List.cons_append]
    exact hMembers

end

end Highlight.Json
