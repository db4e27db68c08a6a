import Highlight.Unicode.Punctuation

/-! # Colours on a terminal

A style is put around a text by escape sequences, if colours are wanted at all. Tags have styles by
the first part of their first word.
-/

namespace Highlight.Report

inductive Style where
  | bold
  | dim
  | red
  | green
  | yellow
  | blue
  | magenta
  | cyan
  | gray
deriving DecidableEq, Repr

def Style.code : Style → String
  | .bold => "1"
  | .dim => "2"
  | .red => "31"
  | .green => "32"
  | .yellow => "33"
  | .blue => "34"
  | .magenta => "35"
  | .cyan => "36"
  | .gray => "90"

def escapeSequence (code : String) : String :=
  "\x1b[" ++ code ++ "m"

def paint (colored : Bool) (style : Style) (s : String) : String :=
  if colored then escapeSequence style.code ++ s ++ escapeSequence "0" else s

def tagClass (tag : String) : String :=
  let word := (tag.toList.dropWhile Unicode.isWhiteSpace).takeWhile (!Unicode.isWhiteSpace ·)
  String.ofList (word.takeWhile (· != '.'))

/-- The styles of a tag, innermost first. -/
def tagStyles (tag : String) : List Style :=
  match tagClass tag with
  | "keyword" => [.blue, .bold]
  | "type" => [.cyan]
  | "string" => [.green]
  | "annotation" => [.yellow]
  | "comment" => [.gray]
  | "delimiter" => [.dim]
  | "strong" => [.magenta]
  | "emphasis" => [.magenta]
  | "invalid" => [.red]
  | _ => []

def paintTag (colored : Bool) (tag text : String) : String :=
  (tagStyles tag).foldl (fun s style => paint colored style s) text

end Highlight.Report
