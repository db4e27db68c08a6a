import Highlight.Grammar.Build

/-! # The grammar of FSD service definitions

A service definition has a header, members in braces, and remarks in Markdown after a line that
starts with a hash. Stacks lead from `root` over `service` and `member` to `typeName`, from each of
the first three over `attrName` and `attrValue` to `string`, and from `root` to `markdown`, which
nothing leaves. The states `whitespace` and `attribute` only serve to be included.
-/

namespace Highlight.Fsd

def rootKeywords : List String := ["service"]

def serviceKeywords : List String := ["method", "data", "errors", "enum"]

def primitiveTypes : List String :=
  ["string", "boolean", "double", "int32", "int64", "bytes", "object", "error", "result", "map"]

def keywordOr (default : String) (words : List String) : Outcome :=
  .ofCases default (words.map (·, "keyword"))

def identifier : String := "[a-zA-Z][a-zA-Z0-9]*"

/-- An identifier up to a word boundary, where alone it can be a keyword. -/
def wholeWord : String := "[a-zA-Z][a-zA-Z0-9]*\\b"

def attributeWord : String := "[a-zA-Z0-9.+_-]+"

private def rule (pattern tag : String) (action : StackAction := .stay) : Entry :=
  .rule ⟨pattern, .emit tag, action⟩

private def ruleWith (pattern : String) (outcome : Outcome) (action : StackAction := .stay) :
    Entry :=
  .rule ⟨pattern, outcome, action⟩

def rootState : StateDeclaration := ⟨"root", [
  rule "^##+.*" "strong" (.push "markdown"),
  rule "^#.*" "strong type.identifier" (.push "markdown"),
  .include "whitespace",
  .include "attribute",
  ruleWith wholeWord (keywordOr "type.identifier" rootKeywords),
  rule identifier "type.identifier",
  rule "\\\x7b" "delimiter.curly" (.push "service")]⟩

def serviceState : StateDeclaration := ⟨"service", [
  .include "whitespace",
  .include "attribute",
  rule ":" "delimiter",
  ruleWith wholeWord (keywordOr "type.identifier" serviceKeywords),
  rule identifier "type.identifier",
  rule "\\\x7b" "delimiter.curly" (.push "member"),
  rule "\\\x7d" "delimiter.curly" .pop]⟩

def memberState : StateDeclaration := ⟨"member", [
  .include "whitespace",
  .include "attribute",
  rule "," "delimiter",
  rule identifier "",
  rule ":" "delimiter" (.push "typeName"),
  rule "\\\x7d" "delimiter.curly" .pop]⟩

def typeNameState : StateDeclaration := ⟨"typeName", [
  .include "whitespace",
  ruleWith identifier (keywordOr "type.identifier" primitiveTypes),
  ruleWith "[\\[\\]<>]" .brackets,
  rule ";" "delimiter" .pop]⟩

def whitespaceState : StateDeclaration := ⟨"whitespace", [
  rule "[ \\t\\r\\n]+" "white",
  rule "//.*$" "comment"]⟩

def attributeState : StateDeclaration := ⟨"attribute", [
  rule "\\[" "delimiter" (.push "attrName")]⟩

def attrNameState : StateDeclaration := ⟨"attrName", [
  .include "whitespace",
  rule attributeWord "annotation",
  rule "[(),]" "delimiter",
  rule ":" "delimiter" (.push "attrValue"),
  rule "\\]" "delimiter" .pop]⟩

/-- The value of a parameter up to a comma or parenthesis. A quote that is still open at the end of
the line comes before a quote that opens a string. -/
def attrValueState : StateDeclaration := ⟨"attrValue", [
  .include "whitespace",
  rule attributeWord "string",
  rule "\"([^\"\\\\]|\\\\.)*$" "string.invalid",
  ruleWith "\"" (.ofBracket "string.quote" .opening) (.push "string"),
  rule "[,)]" "delimiter" .pop]⟩

def stringState : StateDeclaration := ⟨"string", [
  rule "[^\\\\\"]+" "string",
  rule "\\\\(?:[bfnrt\\\\\"']|u[0-9A-Fa-f]\x7b4\x7d)" "string.escape",
  rule "\\\\." "string.escape.invalid",
  ruleWith "\"" (.ofBracket "string.quote" .closing) .pop]⟩

/-- Remarks. Marks of blocks count only at the start of a line; emphasis and links come before
plain text, and single special characters last. -/
def markdownState : StateDeclaration := ⟨"markdown", [
  rule "^\\s*##+.*" "strong",
  rule "^\\s*#.*" "strong type.identifier",
  rule "^\\s*(?:[*+:-]|\\d\\.)" "string.list",
  rule "^\\s*>+" "string.quote",
  rule "\\b__(?:[^\\\\_]|_[^\\\\_])+__\\b" "strong",
  rule "\\*\\*(?:[^\\\\*]|\\*[^\\\\*])+\\*\\*" "strong",
  rule "\\b_[^_]+_\\b" "emphasis",
  rule "\\*[^\\\\*]+\\*" "emphasis",
  ruleWith "(!?\\[)([^\\]\\\\]+)(\\]\\([^)]+\\))" (.groups ["string.link", "", "string.link"]),
  rule "!?\\[[^\\]\\\\]+\\]" "string.link",
  rule "[^*_`(\\[!]+" "",
  rule "[*_`(\\[!]" ""]⟩

def declaration : Declaration := {
  name := "fsd"
  root := "root"
  defaultTag := "invalid"
  states := [rootState, serviceState, memberState, typeNameState, whitespaceState, attributeState,
    attrNameState, attrValueState, stringState, markdownState] }

theorem build_declaration_isOk : (Grammar.build declaration).isOk = true := by
  decide +kernel

def grammar : Grammar :=
  match h : Grammar.build declaration with
  | .ok g => g
  | .error _ => absurd build_declaration_isOk (by simp [h, Except.isOk, Except.toBool])

theorem build_declaration : Grammar.build declaration = .ok grammar := by
  unfold grammar
  split
  · assumption
  · rename_i h
    exact absurd build_declaration_isOk (by simp [h, Except.isOk, Except.toBool])

end Highlight.Fsd
