import Highlight.Declaration.Printer
import Highlight.Report.Text

/-! # The report as JSON

One object holds the name of the grammar, every line with its text, spans and final stack, and on
request the counters of the run.
-/

namespace Highlight

def Span.toJson (s : Span) : Json :=
  .ofMembers [("start", some (.ofNat s.start)), ("tag", some (.str s.tag)),
    ("bracket", s.polarity.map (.str ·.name))]

def Elapsed.toJson (e : Elapsed) : Json :=
  .obj [("secs", .ofNat e.secs), ("nanos", .ofNat e.nanos)]

def Counters.toJson (n : Counters) (elapsed : Elapsed) : Json :=
  .obj [("total", elapsed.toJson), ("lines", .ofNat n.lines), ("spans", .ofNat n.spans),
    ("fallbacks", .ofNat n.fallbacks), ("max_depth", .ofNat n.maxDepth)]

namespace Report

def lineJson (g : Grammar) (line : String) (t : TokenizedLine) : Json :=
  .obj [("text", .str line), ("spans", .arr (t.spans.map Span.toJson)),
    ("state", .arr ((g.stackNames t.stack).map .str))]

def json (text : String) (g : Grammar) (run : Run) (stats : Bool) (elapsed : Elapsed) : Json :=
  .ofMembers [
    ("grammar", some (.str g.name)),
    ("lines", some (.arr (List.zipWith (lineJson g) (Text.lines text) run.lines))),
    ("metrics", if stats then some (run.counters.toJson elapsed) else none)]

/-- All objects of a report are records. -/
def datum (text : String) (g : Grammar) (run : Run) (stats : Bool) (elapsed : Elapsed) :
    Json.Datum :=
  .ofJson (json text g run stats elapsed)

end Report

end Highlight
