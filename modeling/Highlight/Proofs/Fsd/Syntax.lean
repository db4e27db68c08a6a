import Highlight.Fsd

/-! # Service definitions and their texts

The syntax of FSD without its layout: a service is written as a sequence of tokens. A document lays
these tokens out with blanks, line breaks and comments between them, at least one between two words,
and may end with remarks from a line on that starts with a hash.
-/

namespace Highlight.Fsd

structure Identifier where
  first : Char
  others : List Char
  first_isAlpha : first.isAlpha = true := by decide
  all_isAlphanum : others.all Char.isAlphanum = true := by decide

theorem Identifier.isAlphanum_of_mem (i : Identifier) : ∀ x ∈ i.others, x.isAlphanum = true :=
  List.all_eq_true.mp i.all_isAlphanum

def Identifier.chars (i : Identifier) : List Char := i.first :: i.others

def isAttributeChar (x : Char) : Bool :=
  x.isAlphanum || x == '.' || x == '+' || x == '_' || x == '-'

structure AttributeWord where
  chars : List Char
  ne_nil : chars ≠ [] := by decide
  all_isAttributeChar : chars.all isAttributeChar = true := by decide

theorem AttributeWord.isAttributeChar_of_mem (w : AttributeWord) :
    ∀ x ∈ w.chars, isAttributeChar x = true :=
  List.all_eq_true.mp w.all_isAttributeChar

inductive StringItem where
  | plain (x : Char) (h : x ∉ ['"', '\\', '\r', '\n'] := by decide)
  | escaped (x : Char) (h : x ∉ ['\r', '\n'] := by decide)

def StringItem.text : StringItem → List Char
  | plain x _ => [x]
  | escaped x _ => ['\\', x]

inductive Mark where
  | openCurly
  | closeCurly
  | openSquare
  | closeSquare
  | openRound
  | closeRound
  | openAngle
  | closeAngle
  | colon
  | comma
  | semicolon

def Mark.char : Mark → Char
  | openCurly => '\x7b'
  | closeCurly => '\x7d'
  | openSquare => '['
  | closeSquare => ']'
  | openRound => '('
  | closeRound => ')'
  | openAngle => '<'
  | closeAngle => '>'
  | colon => ':'
  | comma => ','
  | semicolon => ';'

inductive Token where
  | name (i : Identifier)
  | attributeWord (w : AttributeWord)
  | quoted (items : List StringItem)
  | mark (m : Mark)

namespace Token

def text : Token → List Char
  | name i => i.chars
  | attributeWord w => w.chars
  | quoted items => '"' :: items.flatMap StringItem.text ++ ['"']
  | mark m => [m.char]

/-- Words would become one if nothing stood between them. -/
def isWord : Token → Bool
  | name _ => true
  | attributeWord _ => true
  | quoted _ => false
  | mark _ => false

end Token

inductive Value where
  | word (w : AttributeWord)
  | quoted (items : List StringItem)

def Value.tokens : Value → List Token
  | word w => [.attributeWord w]
  | quoted items => [.quoted items]

structure Parameter where
  name : AttributeWord
  value : Value

def Parameter.tokens (p : Parameter) : List Token :=
  .attributeWord p.name :: .mark .colon :: p.value.tokens

def commaSeparated : List (List Token) → List Token
  | [] => []
  | [ts] => ts
  | ts :: us :: more => ts ++ .mark .comma :: commaSeparated (us :: more)

structure Attribute where
  name : AttributeWord
  parameters : List Parameter

/-- Parameters stand in parentheses; an attribute without any has none. -/
def Attribute.parameterTokens : List Parameter → List Token
  | [] => []
  | ps => .mark .openRound :: commaSeparated (ps.map Parameter.tokens) ++ [.mark .closeRound]

def Attribute.tokens (a : Attribute) : List Token :=
  .mark .openSquare :: .attributeWord a.name :: parameterTokens a.parameters ++ [.mark .closeSquare]

inductive TypeExpr where
  | name (i : Identifier)
  | generic (i : Identifier) (argument : TypeExpr)
  | array (element : TypeExpr)

def TypeExpr.tokens : TypeExpr → List Token
  | name i => [.name i]
  | generic i argument => .name i :: .mark .openAngle :: argument.tokens ++ [.mark .closeAngle]
  | array element => element.tokens ++ [.mark .openSquare, .mark .closeSquare]

structure Field where
  attributes : List Attribute
  name : Identifier
  type : TypeExpr

def Field.tokens (f : Field) : List Token :=
  f.attributes.flatMap Attribute.tokens ++
    .name f.name :: .mark .colon :: f.type.tokens ++ [.mark .semicolon]

structure EnumValue where
  attributes : List Attribute
  name : Identifier

def EnumValue.tokens (v : EnumValue) : List Token :=
  v.attributes.flatMap Attribute.tokens ++ [.name v.name]

structure EnumValues where
  values : List EnumValue
  finalComma : Bool

def EnumValues.tokens (vs : EnumValues) : List Token :=
  commaSeparated (vs.values.map EnumValue.tokens) ++ if vs.finalComma then [.mark .comma] else []

def inBraces (ts : List Token) : List Token :=
  .mark .openCurly :: ts ++ [.mark .closeCurly]

def fieldTokens (fields : List Field) : List Token :=
  fields.flatMap Field.tokens

inductive MemberBody where
  | data (fields : List Field)
  | method (request response : List Field)
  | enum (values : EnumValues)
  | errors (values : EnumValues)

namespace MemberBody

def keyword : MemberBody → Identifier
  | data _ => { first := 'd', others := "ata".toList }
  | method _ _ => { first := 'm', others := "ethod".toList }
  | enum _ => { first := 'e', others := "num".toList }
  | errors _ => { first := 'e', others := "rrors".toList }

def tokens : MemberBody → List Token
  | data fields => inBraces (fieldTokens fields)
  | method request response =>
    inBraces (fieldTokens request) ++ .mark .colon :: inBraces (fieldTokens response)
  | enum values => inBraces values.tokens
  | errors values => inBraces values.tokens

end MemberBody

structure Member where
  attributes : List Attribute
  name : Identifier
  body : MemberBody

def Member.tokens (m : Member) : List Token :=
  m.attributes.flatMap Attribute.tokens ++ .name m.body.keyword :: .name m.name :: m.body.tokens

structure Service where
  attributes : List Attribute
  name : Identifier
  members : List Member

def Service.keyword : Identifier := { first := 's', others := "ervice".toList }

def Service.tokens (s : Service) : List Token :=
  s.attributes.flatMap Attribute.tokens ++
    .name keyword :: .name s.name :: inBraces (s.members.flatMap Member.tokens)

inductive LineBreak where
  | lineFeed
  | returnAndFeed

def LineBreak.text : LineBreak → List Char
  | lineFeed => ['\n']
  | returnAndFeed => ['\r', '\n']

inductive Gap where
  | space
  | tab
  | lineBreak (b : LineBreak)
  | comment (body : List Char) (b : LineBreak) (h : '\n' ∉ body := by decide)

def Gap.text : Gap → List Char
  | space => [' ']
  | tab => ['\t']
  | lineBreak b => b.text
  | comment body b _ => '/' :: '/' :: body ++ b.text

abbrev Layout := List Gap

def Layout.text (layout : Layout) : List Char := layout.flatMap Gap.text

inductive LaidOut : List Token → List Char → Prop
  | last (t : Token) : LaidOut [t] t.text
  | more {u : Token} {ts : List Token} {text : List Char} (t : Token) (layout : Layout)
      (hWords : t.isWord = true → u.isWord = true → layout ≠ []) (h : LaidOut (u :: ts) text) :
      LaidOut (t :: u :: ts) (t.text ++ layout.text ++ text)

/-- Remarks from the next line on, behind its hash. -/
structure Remarks where
  lineBreak : LineBreak
  text : List Char

structure Document where
  service : Service
  before : Layout
  body : List Char
  laidOut : LaidOut service.tokens body
  after : Layout
  remarks : Option Remarks

namespace Document

def remarksText : Option Remarks → List Char
  | none => []
  | some r => r.lineBreak.text ++ '#' :: r.text

def text (d : Document) : String :=
  String.ofList (d.before.text ++ d.body ++ d.after.text ++ remarksText d.remarks)

/-- The states, from bottom to top, with which the document should end. -/
def finalStates (d : Document) : List String :=
  if d.remarks.isSome then ["root", "markdown"] else ["root"]

end Document

end Highlight.Fsd
