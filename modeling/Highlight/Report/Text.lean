import Highlight.Document
import Highlight.Report.Palette
import Highlight.Text.Line

/-! # The report as text

A run is shown line by line: the line itself with its spans in colour, and below it the starts and
tags of the spans and the stack at the end of the line. Unmatched characters and statistics follow,
among them how long the run took: in the greatest unit of which there is at least one, with as many
decimal places as are needed.
-/

namespace Highlight

/-- Whole seconds, the nanoseconds beyond them, and how to show both. -/
structure Elapsed where
  secs : Nat
  nanos : Nat
  shown : String
deriving Repr

namespace Elapsed

/-- `n` divided by `10 ^ places`, without zeros at the end of the fraction. -/
def decimal (n places : Nat) : String :=
  let digits := Nat.toDigits 10 (n % Nat.pow 10 places)
  let fraction := List.replicate (places - digits.length) '0' ++ digits
  let fraction := (fraction.reverse.dropWhile (· == '0')).reverse
  toString (n / Nat.pow 10 places) ++ if fraction.isEmpty then "" else "." ++ String.ofList fraction

def ofNanos (n : Nat) : Elapsed :=
  let shown :=
    if 1000000000 ≤ n then decimal n 9 ++ "s"
    else if 1000000 ≤ n then decimal n 6 ++ "ms"
    else if 1000 ≤ n then decimal n 3 ++ "µs"
    else toString n ++ "ns"
  ⟨n / 1000000000, n % 1000000000, shown⟩

end Elapsed

namespace Report

/-- The texts of the spans of a line with their tags. A span reaches to the next one. -/
def pieces (line : String) : List Span → List (String × String)
  | [] => []
  | [s] => [(Text.slice line s.start line.utf8ByteSize, s.tag)]
  | s :: t :: spans => (Text.slice line s.start t.start, s.tag) :: pieces line (t :: spans)

def renderLine (colored : Bool) (line : String) (spans : List Span) : String :=
  String.join ((pieces line spans).map fun (text, tag) => paintTag colored tag text)

/-- Starts and tags; a point stands for the empty tag. -/
def spanList (spans : List Span) : String :=
  String.intercalate " " (spans.map fun s =>
    toString s.start ++ ":" ++ if s.tag.isEmpty then "·" else s.tag)

def lineNumber (n : Nat) : String :=
  let digits := toString n
  String.ofList (List.replicate (4 - digits.length) ' ') ++ digits

def lineReport (g : Grammar) (colored : Bool) (number : Nat) (line : String) (t : TokenizedLine) :
    List String :=
  let stack := String.intercalate ", " (g.stackNames t.stack)
  [ "  " ++ paint colored .gray (lineNumber number) ++ " " ++ paint colored .dim "│" ++ " " ++
      renderLine colored line t.spans,
    "       " ++ paint colored .dim "└" ++ " " ++
      paint colored .dim (spanList t.spans ++ "  ⇒ [" ++ stack ++ "]") ]

def lineReports (g : Grammar) (colored : Bool) (number : Nat) :
    List String → List TokenizedLine → List String
  | line :: lines, t :: ts =>
    lineReport g colored number line t ++ lineReports g colored (number + 1) lines ts
  | _, _ => []

def fallbackReport (g : Grammar) (colored : Bool) (n : Nat) : List String :=
  if n = 0 then []
  else
    [ "",
      paint colored .yellow "Unmatched:" ++ " " ++
        paint colored .red (toString n ++ " character(s) tagged '" ++ g.defaultTag ++ "'"),
      "",
      paint colored .dim "  Tip: RUST_LOG=fsdlex=trace shows which state each one was seen in" ]

def statistics (colored : Bool) (n : Counters) (elapsed : Elapsed) : List String :=
  let part (name : String) (style : Style) (value : String) : String :=
    name ++ ": " ++ paint colored style value
  [ "",
    paint colored .gray "━━━ Stats ━━━",
    "  " ++ String.intercalate "  │  " [
      part "Total" .green elapsed.shown,
      part "Lines" .blue (toString n.lines),
      part "Spans" .blue (toString n.spans),
      part "Fallbacks" .yellow (toString n.fallbacks),
      part "Max depth" .cyan (toString n.maxDepth)] ]

def textLines (source text : String) (g : Grammar) (run : Run) (colored stats : Bool)
    (elapsed : Elapsed) : List String :=
  let title := "⚙  Tokenizing: " ++ source ++ " (grammar " ++ g.name ++ ")"
  [ "",
    paint colored .bold (paint colored .cyan title),
    "",
    paint colored .gray "━━━ Lines ━━━" ] ++
  (if run.lines.isEmpty then [paint colored .dim "  No lines"] else []) ++
  lineReports g colored 1 (Text.lines text) run.lines ++
  fallbackReport g colored run.counters.fallbacks ++
  (if stats then statistics colored run.counters elapsed else []) ++
  [""]

def unlines (lines : List String) : String :=
  String.join (lines.map (· ++ "\n"))

def text (source text : String) (g : Grammar) (run : Run) (colored stats : Bool)
    (elapsed : Elapsed) : String :=
  unlines (textLines source text g run colored stats elapsed)

end Report

end Highlight
