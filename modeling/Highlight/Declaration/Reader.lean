import Highlight.Declaration.Decoder
import Highlight.Declaration.ReadError
import Highlight.Json.Reader

/-! # Reading declarations

`Declaration.read` reads a declaration from JSON text and reports the first fault from the left.
Entries are read as whole values before they are decoded; everything around them is checked as it
is read. What belongs to unknown fields is passed over.
-/

namespace Highlight

open Json

namespace Declaration

abbrev Read (α : Type) := Rest → Except ReadError (α × Rest)

instance : MonadLift (Except Fault) (Except ReadError) := ⟨fun x => x.mapError .fault⟩

/-- The fault of a value that is not what is expected. The value itself is looked at first. -/
def mismatch (expected : Expected) (s : Rest) : ReadError :=
  let wrong (found : Except Fault Found) : ReadError :=
    match found with
    | .ok found => .wrongType found expected
    | .error f => .fault f
  match s with
  | 'n' :: s => wrong ((ident "ull".toList s).map fun _ => .null)
  | 't' :: s => wrong ((ident "rue".toList s).map fun _ => .bool true)
  | 'f' :: s => wrong ((ident "alse".toList s).map fun _ => .bool false)
  | '"' :: s => wrong ((string s).map fun (x, _) => .text x)
  | '-' :: s => wrong ((number true s).map fun (n, _) => .number n)
  | '[' :: _ => wrong (.ok .list)
  | '\x7b' :: _ => wrong (.ok .object)
  | c :: s =>
    if isDigit c then wrong ((number false (c :: s)).map fun (n, _) => .number n)
    else .fault .noValue
  | [] => .fault .endInValue

def readText : Read String := fun s => do
  match dropBlanks s with
  | '"' :: s => string s
  | s => .error (mismatch .text s)

def readFlag : Read Bool := fun s => do
  match dropBlanks s with
  | 't' :: s => .ok (true, ← ident "rue".toList s)
  | 'f' :: s => .ok (false, ← ident "alse".toList s)
  | s => .error (mismatch .flag s)

def checkVersion (n : Number) (s : Rest) : Except ReadError (UInt32 × Rest) :=
  match n with
  | .natural k => if k < UInt32.size then .ok (UInt32.ofNat k, s) else .error (.outOfRange n)
  | .negative _ => .error (.outOfRange n)
  | .real .. => .error (.wrongType (.number n) .version)

def readVersion : Read UInt32 := fun s => do
  match dropBlanks s with
  | '-' :: s =>
    let (n, s) ← number true s
    checkVersion n s
  | c :: s =>
    if isDigit c then
      let (n, s) ← number false (c :: s)
      checkVersion n s
    else .error (mismatch .version (c :: s))
  | [] => .error (.fault .endInValue)

/-- The elements of a list. `bound` exceeds the length of the text. -/
def elements {α : Type} (read : Read α) : Nat → Bool → Read (List α)
  | 0, _, _ => .error (.fault .endInList)
  | bound + 1, first, s => do
    match ← nextElement first s with
    | none => .ok ([], s)
    | some s =>
      let (x, s) ← read s
      let (xs, s) ← elements read bound false s
      .ok (x :: xs, s)

def readList {α : Type} (read : Read α) : Read (List α) := fun s => do
  match dropBlanks s with
  | '[' :: s =>
    let (xs, s) ← elements read (s.length + 1) true s
    .ok (xs, ← closeList s)
  | s => .error (mismatch .list s)

/-- The next element of a list that stands for an object, or nothing at its end. -/
def element {α : Type} (read : Read α) (first : Bool) : Read (Option α) := fun s => do
  match ← nextElement first s with
  | none => .ok (none, s)
  | some s =>
    let (x, s) ← read s
    .ok (some x, s)

def requiredElement {α : Type} (read : Read α) (expected : Expected) (index : Nat) : Read α :=
  fun s => do
    match ← element read (index == 0) s with
    | (some x, s) => .ok (x, s)
    | (none, _) => .error (.tooShort index expected)

def members {σ : Type} (member : String → σ → Read σ) : Nat → Bool → σ → Read σ
  | 0, _, _, _ => .error (.fault .endInObject)
  | bound + 1, first, x, s => do
    match ← nextKey first s with
    | none => .ok (x, s)
    | some s =>
      let (key, s) ← string s
      let (x, s) ← member key x s
      members member bound false x s

def field {α : Type} (name : String) (old : Option α) (read : Read α) : Read α := fun s => do
  if old.isSome then .error (.repeatedField name)
  else read (← colon s)

def unknownField {σ : Type} (x : σ) : Read σ := fun s => do
  .ok (x, ← skip (← colon s))

def require {α : Type} (name : String) : Option α → Except ReadError α
  | some x => .ok x
  | none => .error (.missingField name)

def readRecord {α : Type} (expected : Expected) (ofList ofObject : Read α) : Read α := fun s => do
  match dropBlanks s with
  | '[' :: s =>
    let (x, s) ← ofList s
    .ok (x, ← closeList s)
  | '\x7b' :: s =>
    let (x, s) ← ofObject s
    .ok (x, ← closeObject s)
  | s => .error (mismatch expected s)

structure PairFields where
  opening : Option String := none
  closing : Option String := none
  tag : Option String := none

def pairMember (key : String) (p : PairFields) : Read PairFields := fun s => do
  match key with
  | "open" =>
    let (x, s) ← field key p.opening readText s
    .ok ({ p with opening := some x }, s)
  | "close" =>
    let (x, s) ← field key p.closing readText s
    .ok ({ p with closing := some x }, s)
  | "token" =>
    let (x, s) ← field key p.tag readText s
    .ok ({ p with tag := some x }, s)
  | _ => unknownField p s

def readPair : Read BracketPair :=
  readRecord .bracketPair
    (fun s => do
      let (opening, s) ← requiredElement readText .bracketPair 0 s
      let (closing, s) ← requiredElement readText .bracketPair 1 s
      let (tag, s) ← requiredElement readText .bracketPair 2 s
      .ok (⟨opening, closing, tag⟩, s))
    (fun s => do
      let (p, s) ← members pairMember (s.length + 1) true {} s
      .ok (⟨← require "open" p.opening, ← require "close" p.closing, ← require "token" p.tag⟩, s))

/-- How deep an entry may nest: 127 levels, of which four enclose it. -/
def entryDepth : Nat := 124

def readEntry : Read Entry := fun s => do
  let (j, s) ← value entryDepth s
  match Entry.ofJson? j with
  | some entry => .ok (entry, s)
  | none => .error .noEntry

structure StateFields where
  name : Option String := none
  entries : Option (List Entry) := none

def stateMember (key : String) (p : StateFields) : Read StateFields := fun s => do
  match key with
  | "name" =>
    let (x, s) ← field key p.name readText s
    .ok ({ p with name := some x }, s)
  | "rules" =>
    let (x, s) ← field key p.entries (readList readEntry) s
    .ok ({ p with entries := some x }, s)
  | _ => unknownField p s

def readState : Read StateDeclaration :=
  readRecord .state
    (fun s => do
      let (name, s) ← requiredElement readText .state 0 s
      let (entries, s) ← requiredElement (readList readEntry) .state 1 s
      .ok (⟨name, entries⟩, s))
    (fun s => do
      let (p, s) ← members stateMember (s.length + 1) true {} s
      .ok (⟨← require "name" p.name, ← require "rules" p.entries⟩, s))

structure Fields where
  version : Option UInt32 := none
  name : Option String := none
  root : Option String := none
  defaultTag : Option String := none
  ignoreCase : Option Bool := none
  tagEnding : Option String := none
  brackets : Option (List BracketPair) := none
  states : Option (List StateDeclaration) := none

def declarationMember (key : String) (p : Fields) : Read Fields := fun s => do
  match key with
  | "version" =>
    let (x, s) ← field key p.version readVersion s
    .ok ({ p with version := some x }, s)
  | "name" =>
    let (x, s) ← field key p.name readText s
    .ok ({ p with name := some x }, s)
  | "root" =>
    let (x, s) ← field key p.root readText s
    .ok ({ p with root := some x }, s)
  | "defaultToken" =>
    let (x, s) ← field key p.defaultTag readText s
    .ok ({ p with defaultTag := some x }, s)
  | "ignoreCase" =>
    let (x, s) ← field key p.ignoreCase readFlag s
    .ok ({ p with ignoreCase := some x }, s)
  | "tokenPostfix" =>
    let (x, s) ← field key p.tagEnding readText s
    .ok ({ p with tagEnding := some x }, s)
  | "brackets" =>
    let (x, s) ← field key p.brackets (readList readPair) s
    .ok ({ p with brackets := some x }, s)
  | "states" =>
    let (x, s) ← field key p.states (readList readState) s
    .ok ({ p with states := some x }, s)
  | _ => unknownField p s

def readDeclaration : Read Declaration :=
  readRecord .declaration
    (fun s => do
      let (version, s) ← element readVersion true s
      let (name, s) ← requiredElement readText .declaration 1 s
      let (root, s) ← requiredElement readText .declaration 2 s
      let (defaultTag, s) ← requiredElement readText .declaration 3 s
      let (ignoreCase, s) ← element readFlag false s
      let (tagEnding, s) ← element readText false s
      let (brackets, s) ← element (readList readPair) false s
      let (states, s) ← requiredElement (readList readState) .declaration 7 s
      .ok (⟨version.getD currentVersion, name, root, defaultTag, ignoreCase.getD false,
        tagEnding.getD "", brackets.getD [], states⟩, s))
    (fun s => do
      let (p, s) ← members declarationMember (s.length + 1) true {} s
      let name ← require "name" p.name
      let root ← require "root" p.root
      let defaultTag ← require "defaultToken" p.defaultTag
      let states ← require "states" p.states
      .ok (⟨p.version.getD currentVersion, name, root, defaultTag, p.ignoreCase.getD false,
        p.tagEnding.getD "", p.brackets.getD [], states⟩, s))

def read (text : String) : Except ReadError Declaration := do
  let (d, s) ← readDeclaration text.toList
  match dropBlanks s with
  | [] => .ok d
  | _ :: _ => .error (.fault .trailingCharacters)

end Declaration

end Highlight
