import Highlight.Report.Json
import Highlight.Proofs.Decoding
import Highlight.Proofs.LineByLine
import Highlight.Proofs.RunBounds
import Highlight.Proofs.StateRules

/-! # The JSON report shows the run

The text of a report is read back as a JSON value which holds every line of the text with its spans
and the names of its last stack. No name is missing, since the states of all stacks of a run are
states of the grammar, and their names are different. So the lines of the run can be recovered from
the report.
-/

namespace Highlight

namespace Json

/-- The value of a whole text, which nests less than 128 deep. -/
def ofText (text : String) : Except Fault Json := do
  let (j, s) ← value 128 text.toList
  match dropBlanks s with
  | [] => .ok j
  | _ :: _ => .error .trailingCharacters

theorem ofText_pretty {j : Json} (h : Fits 128 j) : ofText j.pretty = .ok j := by
  have hStops : Stops [] := fun _ h => by cases h
  have hRead := (spells_render 0 j).value_append h .nil hStops
  rw [List.nil_append, List.append_nil] at hRead
  refine except_bind_ok (a := (j, [])) ?_ rfl
  rw [pretty, String.toList_ofList, hRead]

def get? (j : Json) (key : String) : Option Json :=
  match j with
  | .obj ms => ms.lookup key
  | _ => none

def nat? : Json → Option Nat
  | .num (.natural n) => some n
  | _ => none

def items? : Json → Option (List Json)
  | .arr items => some items
  | _ => none

theorem fits_ofMembers {depth : Nat} {ms : List (String × Option Json)}
    (h : ∀ m ∈ ms, ∀ j ∈ m.2, Fits (depth + 1) j) : Fits (depth + 2) (.ofMembers ms) := by
  refine .object fun m hm => ?_
  obtain ⟨⟨key, x⟩, hx, hEq⟩ := List.mem_filterMap.mp hm
  obtain ⟨j, hj, rfl⟩ := Option.map_eq_some_iff.mp hEq
  exact h _ hx j hj

theorem texts?_map (xs : List String) : texts? (.arr (xs.map .str)) = some xs := by
  refine mapM_map_eq_some ?_ xs
  exact fun _ => rfl

end Json

open Json

namespace Grammar

variable {g : Grammar} {stack : StateStack}

def stackOfNames? (g : Grammar) (names : List String) : Option StateStack := do
  match ← names.mapM g.stateId? with
  | [] => none
  | bottom :: above => return ⟨bottom, above.reverse⟩

def Indexed (g : Grammar) : Prop :=
  ∀ id name, g.stateName? id = some name → g.stateId? name = some id

theorem indexed_of_build {d : Declaration} {depthLimit : Nat} {engine : Engine}
    (h : build d depthLimit engine = .ok g) : g.Indexed := by
  intro id name hName
  rw [stateName?_eq] at hName
  rw [stateId?_of_build h]
  refine Declaration.idxOf?_of_nodup ?_ hName
  rw [stateNames_of_build h]
  exact nodup_stateNames_of_build h

theorem stackOfNames?_eq (hIndexed : g.Indexed) {names : List String}
    (h : stack.ids.map g.stateName? = names.map some) : g.stackOfNames? names = some stack := by
  have hIds : names.mapM g.stateId? = some stack.ids := by
    refine mapM_eq_some_of_forall₂ ?_
    have hSame : List.Forall₂ (fun id name => g.stateName? id = some name) stack.ids names := by
      rw [← List.forall₂_eq_eq_eq, List.forall₂_map_left_iff, List.forall₂_map_right_iff] at h
      exact h
    exact (hSame.imp hIndexed).flip
  rw [stackOfNames?, hIds]
  change some (StateStack.mk stack.bottom stack.above.reverse.reverse) = some stack
  rw [List.reverse_reverse]

end Grammar

structure Span.ShownBy (s : Span) (j : Json) : Prop where
  start : j.get? "start" = some (.ofNat s.start)
  tag : j.get? "tag" = some (.str s.tag)
  bracket : j.get? "bracket" = s.polarity.map fun p => .str p.name

/-- The names are those of the last stack, from bottom to top, and none of them is missing. -/
structure TokenizedLine.ShownBy (g : Grammar) (line : String) (t : TokenizedLine) (j : Json) :
    Prop where
  text : j.get? "text" = some (.str line)
  spans : ∃ js, j.get? "spans" = some (.arr js) ∧ List.Forall₂ Span.ShownBy t.spans js
  state : ∃ names : List String, j.get? "state" = some (.arr (names.map .str)) ∧
    t.stack.ids.map g.stateName? = names.map some

/-- There is one entry for each line of the text, and the counters are there on request. -/
structure Run.ShownBy (g : Grammar) (text : String) (run : Run) (stats : Bool) (j : Json) :
    Prop where
  isObject : ∃ ms, j = .obj ms
  grammar : j.get? "grammar" = some (.str g.name)
  lines : ∃ js, j.get? "lines" = some (.arr js) ∧ js.length = (Text.lines text).length ∧
    List.Forall₂ (fun (x : String × TokenizedLine) j => x.2.ShownBy g x.1 j)
      ((Text.lines text).zip run.lines) js
  length_eq : run.lines.length = (Text.lines text).length
  metrics : (j.get? "metrics").isSome = stats

def Span.ofJson? (j : Json) : Option Span := do
  let start ← (← j.get? "start").nat?
  let tag ← (← j.get? "tag").text?
  return ⟨start, tag, ← optional? Polarity.ofJson? (j.get? "bracket")⟩

namespace Report

def lineOfJson? (g : Grammar) (j : Json) : Option (String × TokenizedLine) := do
  let line ← (← j.get? "text").text?
  let spans ← (← (← j.get? "spans").items?).mapM Span.ofJson?
  let names ← (← j.get? "state").texts?
  return (line, ⟨spans, ← g.stackOfNames? names⟩)

def linesOfJson? (g : Grammar) (j : Json) : Option (List (String × TokenizedLine)) := do
  (← (← j.get? "lines").items?).mapM (lineOfJson? g)

end Report

theorem Span.ofJson?_of_shownBy {s : Span} {j : Json} (h : s.ShownBy j) : ofJson? j = some s := by
  obtain ⟨hStart, hTag, hBracket⟩ := h
  have hPolarity : optional? Polarity.ofJson? (j.get? "bracket") = some s.polarity := by
    rw [hBracket]
    cases s.polarity with
    | none => rfl
    | some p => cases p <;> rfl
  rw [ofJson?, hStart, hTag, hPolarity]
  rfl

section Recovery

variable {g : Grammar} (hIndexed : g.Indexed) {j : Json}

include hIndexed

theorem TokenizedLine.lineOfJson?_of_shownBy {line : String} {t : TokenizedLine}
    (h : t.ShownBy g line j) : Report.lineOfJson? g j = some (line, t) := by
  obtain ⟨hText, ⟨js, hSpans, hShown⟩, names, hState, hNames⟩ := h
  have hSpan : js.mapM Span.ofJson? = some t.spans :=
    mapM_eq_some_of_forall₂ (hShown.imp fun _ _ => Span.ofJson?_of_shownBy).flip
  have hStack := Grammar.stackOfNames?_eq hIndexed hNames
  simp [Report.lineOfJson?, hText, hSpans, hState, text?, items?, texts?_map, hSpan, hStack]

theorem Run.linesOfJson?_of_shownBy {text : String} {run : Run} {stats : Bool}
    (h : run.ShownBy g text stats j) :
    Report.linesOfJson? g j = some ((Text.lines text).zip run.lines) := by
  obtain ⟨js, hLines, -, hShown⟩ := h.lines
  have hEach : js.mapM (Report.lineOfJson? g) = some ((Text.lines text).zip run.lines) :=
    mapM_eq_some_of_forall₂
      (hShown.imp fun _ _ => TokenizedLine.lineOfJson?_of_shownBy hIndexed).flip
  simp [Report.linesOfJson?, hLines, items?, hEach]

end Recovery

theorem Span.shownBy_toJson (s : Span) : s.ShownBy s.toJson := by
  obtain ⟨start, tag, polarity⟩ := s
  cases polarity <;> exact ⟨rfl, rfl, rfl⟩

theorem Span.fits_toJson {s : Span} (h : s.start < UInt64.size) {depth : Nat} :
    Fits (depth + 2) s.toJson := by
  refine fits_ofMembers (List.forall_mem_cons.mpr ⟨?_, List.forall_mem_cons.mpr ⟨?_,
    List.forall_mem_singleton.mpr ?_⟩⟩)
  · rintro _ ⟨⟩
    exact .natural h
  · rintro _ ⟨⟩
    exact .string
  · intro j hj
    obtain ⟨p, -, rfl⟩ := Option.map_eq_some_iff.mp hj
    exact .string

/-- Whole seconds of 64 bits, and less than a second beyond them. -/
structure Elapsed.InRange (e : Elapsed) : Prop where
  secs_lt : e.secs < 0x10000000000000000
  nanos_lt : e.nanos < 1000000000

/-- No text in memory has more bytes than a signed number of 64 bits counts. -/
def Text.InMemory (text : String) : Prop := text.utf8ByteSize < 0x8000000000000000

namespace Report

variable {g : Grammar}

theorem shownBy_lineJson {t : TokenizedLine} (h : g.accepts t.stack = true) (line : String) :
    t.ShownBy g line (lineJson g line t) where
  text := rfl
  spans := ⟨_, rfl, List.forall₂_map_right_iff.mpr
    (List.forall₂_same.mpr fun s _ => s.shownBy_toJson)⟩
  state := ⟨_, rfl, Grammar.map_stateName?_of_accepts h⟩

theorem fits_lineJson {t : TokenizedLine} (h : ∀ s ∈ t.spans, s.start < UInt64.size)
    (line : String) {depth : Nat} : Fits (depth + 4) (lineJson g line t) := by
  refine .object (List.forall_mem_cons.mpr ⟨.string, List.forall_mem_cons.mpr
    ⟨.list fun j hj => ?_, List.forall_mem_singleton.mpr (fits_texts _)⟩⟩)
  obtain ⟨s, hs, rfl⟩ := List.mem_map.mp hj
  exact Span.fits_toJson (h s hs)

theorem fits_counters {n : Counters} {bound : Nat} (hn : n.Within bound)
    (hBound : bound < UInt64.size) {elapsed : Elapsed} (hElapsed : elapsed.InRange) {depth : Nat} :
    Fits (depth + 3) (n.toJson elapsed) := by
  obtain ⟨hLines, hSpans, hFallbacks, hMaxDepth⟩ := hn
  obtain ⟨hSecs, hNanos⟩ := hElapsed
  have hNat {k : Nat} (h : k ≤ bound) : Fits (depth + 2) (.ofNat k) :=
    .natural (Nat.lt_of_le_of_lt h hBound)
  have hTotal : Fits (depth + 2) elapsed.toJson :=
    .object (List.forall_mem_cons.mpr ⟨.natural hSecs, List.forall_mem_singleton.mpr
      (.natural (Nat.lt_trans hNanos (by decide)))⟩)
  refine .object ?_
  simp only [List.forall_mem_cons]
  exact ⟨hTotal, hNat hLines, hNat hSpans, hNat hFallbacks, hNat hMaxDepth,
    fun _ h => absurd h List.not_mem_nil⟩

theorem fits_json {text : String} (hText : Text.InMemory text) (stats : Bool) {elapsed : Elapsed}
    (hElapsed : elapsed.InRange) : Fits 128 (json text g (g.run text) stats elapsed) := by
  have hSize : text.utf8ByteSize + 2 < UInt64.size := by
    have hBytes : text.utf8ByteSize < 0x8000000000000000 := hText
    change _ < 0x10000000000000000
    omega
  refine fits_ofMembers (List.forall_mem_cons.mpr ⟨?_, List.forall_mem_cons.mpr ⟨?_,
    List.forall_mem_singleton.mpr ?_⟩⟩)
  · rintro _ ⟨⟩
    exact .string
  · rintro _ ⟨⟩
    refine .list fun j hj => ?_
    rw [← List.map_uncurry_zip_eq_zipWith] at hj
    obtain ⟨⟨line, t⟩, hMem, rfl⟩ := List.mem_map.mp hj
    refine fits_lineJson (fun s hs => ?_) line
    have ht : t ∈ g.tokenizeLines g.initial (Text.lines text) := by
      rw [← g.lines_runLines]
      exact (List.of_mem_zip hMem).2
    have hStart := g.start_le_of_mem_tokenizeLines ht hs
    have hBytes := Text.lineBytes_lines_le text
    omega
  · cases stats with
    | false => rintro _ ⟨⟩
    | true =>
      rintro _ ⟨⟩
      exact fits_counters (g.within_run text) hSize hElapsed

theorem shownBy_json (hg : g.WellFormed) (text : String) (stats : Bool) (elapsed : Elapsed) :
    (g.run text).ShownBy g text stats (json text g (g.run text) stats elapsed) := by
  have hLines : (g.run text).lines = g.tokenizeLines g.initial (Text.lines text) :=
    g.lines_runLines _ _ _
  have hLength : (g.run text).lines.length = (Text.lines text).length := by
    rw [hLines, g.length_tokenizeLines]
  have hShown (x : String × TokenizedLine) (hx : x ∈ (Text.lines text).zip (g.run text).lines) :
      x.2.ShownBy g x.1 (lineJson g x.1 x.2) := by
    have hMem := (List.of_mem_zip hx).2
    rw [hLines] at hMem
    exact shownBy_lineJson (hg.keeps_initial.of_mem_tokenizeLines hg _ hMem).accepted x.1
  refine ⟨⟨_, rfl⟩, rfl, ⟨_, rfl, ?_, ?_⟩, hLength, ?_⟩
  · rw [List.length_zipWith, hLength, Nat.min_self]
  · rw [← List.map_uncurry_zip_eq_zipWith, List.forall₂_map_right_iff]
    exact List.forall₂_same.mpr hShown
  · cases stats <;> rfl

theorem exists_report_shownBy (hg : g.WellFormed) (hIndexed : g.Indexed) {text : String}
    (hText : Text.InMemory text) (stats : Bool) {elapsed : Elapsed} (hElapsed : elapsed.InRange) :
    ∃ report, ofText (json text g (g.run text) stats elapsed).pretty = .ok report ∧
      (g.run text).ShownBy g text stats report ∧
      linesOfJson? g report = some ((Text.lines text).zip (g.run text).lines) := by
  have hShown := shownBy_json hg text stats elapsed
  refine ⟨_, ofText_pretty (fits_json hText stats hElapsed), hShown, ?_⟩
  exact Run.linesOfJson?_of_shownBy hIndexed hShown

/-- Whatever was tokenized, the report is JSON, it shows the run, and the lines of the run can be
recovered from it. -/
theorem json_shows_run {d : Declaration} {depthLimit : Nat} {engine : Engine}
    (h : Grammar.build d depthLimit engine = .ok g)
    {text : String} (hText : Text.InMemory text) (stats : Bool) {elapsed : Elapsed}
    (hElapsed : elapsed.InRange) :
    ∃ report, ofText (json text g (g.run text) stats elapsed).pretty = .ok report ∧
      (g.run text).ShownBy g text stats report ∧
      linesOfJson? g report = some ((Text.lines text).zip (g.run text).lines) := by
  exact exists_report_shownBy (Grammar.wellFormed_of_build h) (Grammar.indexed_of_build h) hText stats
    hElapsed

theorem fsd_json_shows_run :
    Grammar.build Fsd.declaration = .ok Fsd.grammar ∧
      ∃ report,
        ofText (json "service A \x7b\n\"\x7d" Fsd.grammar
          (Fsd.grammar.run "service A \x7b\n\"\x7d") true (.ofNanos 1500)).pretty = .ok report ∧
        (Fsd.grammar.run "service A \x7b\n\"\x7d").ShownBy Fsd.grammar "service A \x7b\n\"\x7d"
          true report ∧
        linesOfJson? Fsd.grammar report = some ((Text.lines "service A \x7b\n\"\x7d").zip
          (Fsd.grammar.run "service A \x7b\n\"\x7d").lines) :=
  have hText : Text.InMemory "service A \x7b\n\"\x7d" := by
    unfold Text.InMemory
    decide
  have hElapsed : (Elapsed.ofNanos 1500).InRange := ⟨by decide, by decide⟩
  ⟨Fsd.build_declaration, json_shows_run Fsd.build_declaration hText true hElapsed⟩

end Report

end Highlight
