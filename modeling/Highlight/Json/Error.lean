/-! # Faults of a JSON text

What can be wrong with a text as JSON. A fault is of the end kind when the text stops too early,
and of the form kind when a character stands where it may not.
-/

namespace Highlight.Json

inductive Fault where
  | endInValue
  | endInString
  | endInList
  | endInObject
  | noValue
  | noIdent
  | noColon
  | noListEnd
  | noObjectEnd
  | keyNotString
  | trailingComma
  | trailingCharacters
  | badEscape
  | badNumber
  | numberRange
  | hexEscapeEnd
  | loneSurrogate
  | controlCharacter
  | tooDeep
deriving DecidableEq, Repr

def Fault.isEnd : Fault → Bool
  | .endInValue | .endInString | .endInList | .endInObject => true
  | _ => false

def Fault.message : Fault → String
  | .endInValue => "EOF while parsing a value"
  | .endInString => "EOF while parsing a string"
  | .endInList => "EOF while parsing a list"
  | .endInObject => "EOF while parsing an object"
  | .noValue => "expected value"
  | .noIdent => "expected ident"
  | .noColon => "expected `:`"
  | .noListEnd => "expected `,` or `]`"
  | .noObjectEnd => "expected `,` or `\x7d`"
  | .keyNotString => "key must be a string"
  | .trailingComma => "trailing comma"
  | .trailingCharacters => "trailing characters"
  | .badEscape => "invalid escape"
  | .badNumber => "invalid number"
  | .numberRange => "number out of range"
  | .hexEscapeEnd => "unexpected end of hex escape"
  | .loneSurrogate => "lone leading surrogate in hex escape"
  | .controlCharacter => "control character (\\u0000-\\u001F) found while parsing a string"
  | .tooDeep => "recursion limit exceeded"

end Highlight.Json
