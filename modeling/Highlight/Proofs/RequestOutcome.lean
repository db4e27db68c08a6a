import Highlight.Command.Run
import Highlight.Proofs.DeclarationReading
import Highlight.Proofs.JsonReport
import Highlight.Proofs.JsonWriting
import Highlight.Proofs.ReportRows

/-! # How a request ends

A request needs a declaration and, unless it asks for that declaration itself, a grammar and a text.
If it has all of them the program exits with 0 and leaves its whole output, which is read back as
the declaration or shows the run. Otherwise it exits with 2, leaves no output, and reports the fault
of the earliest stage at which something is wrong. That a value cannot be written is never the
reason.
-/

namespace Highlight.Command

variable {w : Surroundings} {r : Request}

inductive Declares (w : Surroundings) (r : Request) : Declaration → Prop
  | builtIn : r.grammar = none → Declares w r Fsd.declaration
  | custom {path text : String} {d : Declaration} : r.grammar = some path →
    w.file path = .ok text → Declaration.read text = .ok d → Declares w r d

/-- The name of the text of a request, and the text. A file may be empty, the standard input not. -/
inductive Supplies (w : Surroundings) (r : Request) : String → String → Prop
  | file {path text : String} : r.file = some path → w.file path = .ok text →
    Supplies w r path text
  | stdin {text : String} : r.file = none → w.stdin = .ok text → text ≠ "" →
    Supplies w r stdinName text

/-- The text is JSON that shows the run, and the lines of the run can be recovered from it. -/
def JsonShows (g : Grammar) (text : String) (run : Run) (stats : Bool) (written : String) : Prop :=
  ∃ report, Json.ofText written = .ok report ∧ run.ShownBy g text stats report ∧
    Report.linesOfJson? g report = some ((Text.lines text).zip run.lines)

/-- The text consists of rows that show the run. With colors it is these rows, painted. -/
def TextShows (source : String) (g : Grammar) (text : String) (run : Run) (colored stats : Bool)
    (elapsed : Elapsed) (written : String) : Prop :=
  ∃ rows, Report.Shows source g (Text.lines text) run stats elapsed rows ∧
    if colored then Report.Painted written (Report.unlines rows) else written = Report.unlines rows

/-- The output of a request that has all it needs, and what it says to its reader. -/
inductive Yields (w : Surroundings) (r : Request) : String → Prop
  | dump {d : Declaration} : Declares w r d → r.has .dumpGrammar = true →
    Declaration.read d.print = .ok d → Yields w r (d.print ++ "\n")
  | json {d : Declaration} {g : Grammar} {source text written : String} : Declares w r d →
    r.has .dumpGrammar = false → w.build d = .ok g → Supplies w r source text →
    r.has .json = true →
    written = (Report.json text g (g.run text) (r.has .stats) w.elapsed).pretty →
    (Text.InMemory text → w.elapsed.InRange →
      JsonShows g text (g.run text) (r.has .stats) written) →
    Yields w r (written ++ "\n")
  | text {d : Declaration} {g : Grammar} {source text written : String} {colored : Bool} :
    Declares w r d → r.has .dumpGrammar = false → w.build d = .ok g → Supplies w r source text →
    r.has .json = false →
    (colored = true ↔ r.has .color = true ∨ r.has .noColor = false ∧ w.terminal = true) →
    written = Report.text source text g (g.run text) colored (r.has .stats) w.elapsed →
    TextShows source g text (g.run text) colored (r.has .stats) w.elapsed written →
    Yields w r written

inductive Stage where
  | grammarFile
  | declaration
  | grammar
  | input
deriving DecidableEq, Repr

def Stage.before : Stage → List Stage
  | .grammarFile => []
  | .declaration => [.grammarFile]
  | .grammar => [.grammarFile, .declaration]
  | .input => [.grammarFile, .declaration, .grammar]

/-- What is wrong at a stage, whatever is wrong elsewhere. A declaration that is only printed need
not make a grammar, and no text is needed for it. -/
inductive Fault (w : Surroundings) (r : Request) : Stage → Failure → Prop
  | grammarFile {path : String} {why : Unreadable} : r.grammar = some path →
    w.file path = .error why → Fault w r .grammarFile (.unreadable path why)
  | declaration {path text : String} {e : ReadError} : r.grammar = some path →
    w.file path = .ok text → Declaration.read text = .error e →
    Fault w r .declaration (.badGrammar path (.unreadable e))
  | grammar {path text : String} {d : Declaration} {e : GrammarError} : r.grammar = some path →
    w.file path = .ok text → Declaration.read text = .ok d → r.has .dumpGrammar = false →
    w.build d = .error e → Fault w r .grammar (.badGrammar path e)
  | file {path : String} {why : Unreadable} : r.has .dumpGrammar = false → r.file = some path →
    w.file path = .error why → Fault w r .input (.unreadable path why)
  | stdin {why : Unreadable} : r.has .dumpGrammar = false → r.file = none →
    w.stdin = .error why → Fault w r .input (.unreadable stdinName why)
  | noInput : r.has .dumpGrammar = false → r.file = none → w.stdin = .ok "" →
    Fault w r .input .noInput

def FirstFault (w : Surroundings) (r : Request) (f : Failure) : Prop :=
  ∃ stage, Fault w r stage f ∧ ∀ earlier ∈ stage.before, ∀ f', ¬ Fault w r earlier f'

def Served (w : Surroundings) (r : Request) : Prop :=
  ∃ d, Declares w r d ∧
    (r.has .dumpGrammar = true ∨
      (∃ g, w.build d = .ok g) ∧ ∃ source text, Supplies w r source text)

theorem Declares.not_fault {d : Declaration} (h : Declares w r d) {stage : Stage}
    (hStage : stage ∈ Stage.grammar.before) (f : Failure) : ¬ Fault w r stage f := by
  intro hFault
  cases hFault with
  | grammarFile hPath hFile =>
    cases h with
    | builtIn hNone => cases hNone.symm.trans hPath
    | custom hPath' hFile' _ =>
      cases hPath.symm.trans hPath'
      cases hFile.symm.trans hFile'
  | declaration hPath hFile hRead =>
    cases h with
    | builtIn hNone => cases hNone.symm.trans hPath
    | custom hPath' hFile' hRead' =>
      cases hPath.symm.trans hPath'
      cases hFile.symm.trans hFile'
      cases hRead.symm.trans hRead'
  | _ => simp [Stage.before] at hStage

theorem Declares.unique {d d' : Declaration} (h : Declares w r d) (h' : Declares w r d') : d = d' := by
  cases h with
  | builtIn hNone =>
    cases h' with
    | builtIn _ => rfl
    | custom hPath _ _ => cases hNone.symm.trans hPath
  | custom hPath hFile hRead =>
    cases h' with
    | builtIn hNone => cases hNone.symm.trans hPath
    | custom hPath' hFile' hRead' =>
      cases hPath.symm.trans hPath'
      cases hFile.symm.trans hFile'
      cases hRead.symm.trans hRead'
      rfl

theorem Declares.not_fault_grammar {d : Declaration} {g : Grammar} (h : Declares w r d)
    (hBuild : w.build d = .ok g) (f : Failure) : ¬ Fault w r .grammar f := by
  intro hFault
  cases hFault with
  | grammar hPath hFile hRead _ hError =>
    cases h.unique (.custom hPath hFile hRead)
    cases hBuild.symm.trans hError

theorem Declares.exists_custom {d : Declaration} (h : Declares w r d) :
    ∃ c path, w.custom r = .ok c ∧ (c.map (·.2)).getD Fsd.declaration = d ∧
      w.grammar c = (w.build d).mapError (.badGrammar path) ∧
      ∀ e, r.has .dumpGrammar = false → w.build d = .error e →
        Fault w r .grammar (.badGrammar path e) := by
  cases h with
  | builtIn hNone =>
    have hBuild : w.build Fsd.declaration = .ok Fsd.grammar := w.builtIn
    refine ⟨none, "", by rw [Surroundings.custom, hNone]; rfl, rfl, ?_, ?_⟩
    · rw [hBuild]
      rfl
    · intro e _ hError
      cases hBuild.symm.trans hError
  | @custom path text d hPath hFile hRead =>
    have hDeclaration : w.declaration path = .ok d := by
      simp [Surroundings.declaration, Surroundings.read, Grammar.readDeclaration, hFile, hRead,
        Except.mapError, bind, Except.bind]
    refine ⟨some (path, d), path, ?_, rfl, rfl, ?_⟩
    · rw [Surroundings.custom, hPath, Option.mapM_some, hDeclaration]
      rfl
    · exact fun e hDump hBuild => .grammar hPath hFile hRead hDump hBuild

theorem declares_or_fault (w : Surroundings) (r : Request) :
    (∃ d, Declares w r d) ∨ ∃ f, w.custom r = .error f ∧ FirstFault w r f := by
  cases hPath : r.grammar with
  | none => exact .inl ⟨_, .builtIn hPath⟩
  | some path =>
    have hCustom : ∀ f, w.declaration path = .error f → w.custom r = .error f := by
      intro f hError
      rw [Surroundings.custom, hPath, Option.mapM_some, hError]
      rfl
    cases hFile : w.file path with
    | error why =>
      refine .inr ⟨.unreadable path why, hCustom _ ?_, .grammarFile, .grammarFile hPath hFile, nofun⟩
      simp [Surroundings.declaration, Surroundings.read, hFile, Except.mapError, bind, Except.bind]
    | ok text =>
      cases hRead : Declaration.read text with
      | ok d => exact .inl ⟨d, .custom hPath hFile hRead⟩
      | error e =>
        refine .inr ⟨.badGrammar path (.unreadable e), hCustom _ ?_, .declaration,
          .declaration hPath hFile hRead, ?_⟩
        · simp [Surroundings.declaration, Surroundings.read, Grammar.readDeclaration, hFile, hRead,
            Except.mapError, bind, Except.bind]
        · rintro earlier hEarlier f hFault
          rw [List.mem_singleton.mp hEarlier] at hFault
          cases hFault with
          | grammarFile hPath' hFile' =>
            cases hPath.symm.trans hPath'
            cases hFile.symm.trans hFile'

theorem supplies_or_fault (w : Surroundings) (hDump : r.has .dumpGrammar = false) :
    (∃ source text, w.input r.file = .ok (source, text) ∧ Supplies w r source text) ∨
    ∃ f, w.input r.file = .error f ∧ Fault w r .input f := by
  cases hFile : r.file with
  | some path =>
    cases hRead : w.file path with
    | ok text => exact .inl ⟨path, text, by simp [Surroundings.input, Surroundings.read, hRead,
        Except.mapError, bind, Except.bind, pure, Except.pure], .file hFile hRead⟩
    | error why => exact .inr ⟨_, by simp [Surroundings.input, Surroundings.read, hRead,
        Except.mapError, bind, Except.bind], .file hDump hFile hRead⟩
  | none =>
    cases hRead : w.stdin with
    | error why => exact .inr ⟨_, by simp [Surroundings.input, hRead, Except.mapError, bind,
        Except.bind], .stdin hDump hFile hRead⟩
    | ok text =>
      by_cases hEmpty : text = ""
      · subst hEmpty
        exact .inr ⟨_, by simp [Surroundings.input, hRead, Except.mapError, bind, Except.bind],
          .noInput hDump hFile hRead⟩
      · exact .inl ⟨stdinName, text, by simp [Surroundings.input, hRead, hEmpty, Except.mapError,
          bind, Except.bind, pure, Except.pure], .stdin hFile hRead hEmpty⟩

theorem Supplies.not_fault {source text : String} (h : Supplies w r source text) (f : Failure) :
    ¬ Fault w r .input f := by
  intro hFault
  cases h with
  | file hFile hText =>
    cases hFault with
    | file _ hFile' hError =>
      cases hFile.symm.trans hFile'
      cases hText.symm.trans hError
    | stdin _ hNone _ => cases hFile.symm.trans hNone
    | noInput _ hNone _ => cases hFile.symm.trans hNone
  | stdin hNone hText hNe =>
    cases hFault with
    | file _ hFile _ => cases hNone.symm.trans hFile
    | stdin _ _ hError => cases hText.symm.trans hError
    | noInput _ _ hEmpty =>
      cases hText.symm.trans hEmpty
      exact hNe rfl

theorem Served.not_fault (h : Served w r) (stage : Stage) (f : Failure) : ¬ Fault w r stage f := by
  obtain ⟨d, hDeclares, hRest⟩ := h
  intro hFault
  cases stage with
  | grammarFile => exact hDeclares.not_fault (by decide) f hFault
  | declaration => exact hDeclares.not_fault (by decide) f hFault
  | grammar =>
    rcases hRest with hDump | ⟨⟨g, hBuild⟩, -⟩
    · cases hFault with
      | grammar _ _ _ hDump' _ => cases hDump.symm.trans hDump'
    · exact hDeclares.not_fault_grammar hBuild f hFault
  | input =>
    rcases hRest with hDump | ⟨-, source, text, hSupplies⟩
    · cases hFault with
      | file hDump' => cases hDump.symm.trans hDump'
      | stdin hDump' => cases hDump.symm.trans hDump'
      | noInput hDump' => cases hDump.symm.trans hDump'
    · exact hSupplies.not_fault f hFault

theorem textShows_report {d : Declaration} {g : Grammar} (hBuild : w.build d = .ok g)
    (source text : String) (colored stats : Bool) (elapsed : Elapsed) :
    TextShows source g text (g.run text) colored stats elapsed
      (Report.text source text g (g.run text) colored stats elapsed) := by
  refine ⟨_, Report.shows_textLines (Grammar.wellFormed_of_build hBuild) source text stats elapsed, ?_⟩
  cases colored with
  | false => rfl
  | true => exact Report.painted_text source text g (g.run text) stats elapsed

open Job

theorem exists_gives_report {d : Declaration} {g : Grammar} {source text : String}
    (hDeclares : Declares w r d) (hDump : r.has .dumpGrammar = false) (hBuild : w.build d = .ok g)
    (hSupplies : Supplies w r source text) :
    ∃ output, (report w r source text g).Gives output () ∧ Yields w r output := by
  rw [report]
  cases hJson : r.has .json with
  | true =>
    refine ⟨_, gives_printJson (Json.Datum.write_ofJson _),
      .json hDeclares hDump hBuild hSupplies hJson rfl fun hText hElapsed => ?_⟩
    exact Report.exists_report_shownBy (Grammar.wellFormed_of_build hBuild)
      (Grammar.indexed_of_build hBuild) hText _ hElapsed
  | false =>
    have hColored : (r.has .color || (!r.has .noColor && w.terminal)) = true ↔
        r.has .color = true ∨ r.has .noColor = false ∧ w.terminal = true := by
      simp
    exact ⟨_, gives_print _, .text hDeclares hDump hBuild hSupplies hJson hColored rfl
      (textShows_report hBuild source text _ _ _)⟩

theorem gives_tokenize {g : Grammar} {source text output : String}
    (hInput : w.input r.file = .ok (source, text))
    (hReport : (report w r source text g).Gives output ()) : (tokenize w r g).Gives output () :=
  (gives_log _).bind ((gives_attempt hInput).bind ((gives_log _).bind hReport))

theorem fails_tokenize {f : Failure} (hInput : w.input r.file = .error f) (g : Grammar) :
    (tokenize w r g).Fails f :=
  (gives_log _).bind_fails ((fails_attempt hInput).bind _)

theorem perform_tokenize_cases {d : Declaration} (hDeclares : Declares w r d)
    (hDump : r.has .dumpGrammar = false) :
    (∃ output, (perform w r).Gives output () ∧ Served w r ∧ Yields w r output) ∨
    ∃ f, (perform w r).Fails f ∧ FirstFault w r f := by
  obtain ⟨c, path, hCustom, -, hGrammar, hFaulty⟩ := hDeclares.exists_custom
  rw [perform, hDump]
  cases hBuild : w.build d with
  | error e =>
    rw [hBuild] at hGrammar
    refine .inr ⟨_, (gives_attempt hCustom).bind_fails ((fails_attempt hGrammar).bind _), .grammar,
      hFaulty e hDump hBuild, fun earlier hEarlier f => ?_⟩
    exact hDeclares.not_fault hEarlier f
  | ok g =>
    rw [hBuild] at hGrammar
    obtain ⟨source, text, hInput, hSupplies⟩ | ⟨f, hInput, hFault⟩ := supplies_or_fault w hDump
    · obtain ⟨output, hReport, hYields⟩ := exists_gives_report hDeclares hDump hBuild hSupplies
      exact .inl ⟨output, (gives_attempt hCustom).bind
        ((gives_attempt hGrammar).bind (gives_tokenize hInput hReport)),
        ⟨d, hDeclares, .inr ⟨⟨g, hBuild⟩, source, text, hSupplies⟩⟩, hYields⟩
    · refine .inr ⟨f, (gives_attempt hCustom).bind_fails
        ((gives_attempt hGrammar).bind_fails (fails_tokenize hInput g)), .input, hFault,
        fun earlier hEarlier f' hEarly => ?_⟩
      cases earlier with
      | grammar => exact hDeclares.not_fault_grammar hBuild f' hEarly
      | input => simp [Stage.before] at hEarlier
      | _ => exact hDeclares.not_fault (by decide) f' hEarly

theorem perform_cases (w : Surroundings) (r : Request) :
    (∃ output, (perform w r).Gives output () ∧ Served w r ∧ Yields w r output) ∨
    ∃ f, (perform w r).Fails f ∧ FirstFault w r f := by
  obtain ⟨d, hDeclares⟩ | ⟨f, hCustom, hFirst⟩ := declares_or_fault w r
  · cases hDump : r.has .dumpGrammar with
    | false => exact perform_tokenize_cases hDeclares hDump
    | true =>
      obtain ⟨c, path, hCustom, rfl, -⟩ := hDeclares.exists_custom
      rw [perform, hDump]
      exact .inl ⟨_, (gives_attempt hCustom).bind (gives_printJson (Declaration.write_datum _)),
        ⟨_, hDeclares, .inl hDump⟩,
        .dump hDeclares hDump (Declaration.read_spelled (Declaration.spelledBy_print _))⟩
  · exact .inr ⟨f, (fails_attempt hCustom).bind _, hFirst⟩

theorem Fault.unique {stage : Stage} {f f' : Failure} (h : Fault w r stage f)
    (h' : Fault w r stage f') : f = f' := by
  cases h with
  | grammarFile hPath hFile =>
    cases h' with
    | grammarFile hPath' hFile' =>
      cases hPath.symm.trans hPath'
      cases hFile.symm.trans hFile'
      rfl
  | declaration hPath hFile hRead =>
    cases h' with
    | declaration hPath' hFile' hRead' =>
      cases hPath.symm.trans hPath'
      cases hFile.symm.trans hFile'
      cases hRead.symm.trans hRead'
      rfl
  | grammar hPath hFile hRead _ hBuild =>
    cases h' with
    | grammar hPath' hFile' hRead' _ hBuild' =>
      cases hPath.symm.trans hPath'
      cases hFile.symm.trans hFile'
      cases hRead.symm.trans hRead'
      cases hBuild.symm.trans hBuild'
      rfl
  | file _ hFile hText =>
    cases h' with
    | file _ hFile' hText' =>
      cases hFile.symm.trans hFile'
      cases hText.symm.trans hText'
      rfl
    | stdin _ hNone _ => cases hFile.symm.trans hNone
    | noInput _ hNone _ => cases hFile.symm.trans hNone
  | stdin _ hNone hText =>
    cases h' with
    | file _ hFile _ => cases hNone.symm.trans hFile
    | stdin _ _ hText' =>
      cases hText.symm.trans hText'
      rfl
    | noInput _ _ hText' => cases hText.symm.trans hText'
  | noInput _ hNone hText =>
    cases h' with
    | file _ hFile _ => cases hNone.symm.trans hFile
    | stdin _ _ hText' => cases hText.symm.trans hText'
    | noInput => rfl

theorem FirstFault.unique {f f' : Failure} (h : FirstFault w r f) (h' : FirstFault w r f') :
    f = f' := by
  have hOrder : ∀ s t : Stage, s = t ∨ s ∈ t.before ∨ t ∈ s.before := by
    intro s t
    cases s <;> cases t <;> decide
  obtain ⟨s, hs, hFirst⟩ := h
  obtain ⟨t, ht, hFirst'⟩ := h'
  obtain rfl | hBefore | hBefore := hOrder s t
  · exact hs.unique ht
  · exact absurd hs (hFirst' s hBefore f)
  · exact absurd ht (hFirst t hBefore f')

theorem run_request {args : List String} (hArgs : parse args = .ok (.request r)) (w : Surroundings) :
    run w args = finish (Log.Filter.choose w.logFilter (r.has .verbose)) (perform w r) := by
  rw [run, hArgs]

theorem finish_of_gives {job : Job Unit} {output : String} (h : job.Gives output ())
    (filter : Log.Filter) :
    (finish filter job).exitCode = 0 ∧ (finish filter job).output = output := by
  rw [finish, h.result_eq]
  exact ⟨rfl, h.output_eq⟩

theorem finish_of_fails {job : Job Unit} {f : Failure} (h : job.Fails f) (filter : Log.Filter) :
    (finish filter job).exitCode = f.exitCode ∧ (finish filter job).output = "" ∧
      (finish filter job).errors.getLast? = some (errorLine f.message) := by
  rw [finish, h.result_eq]
  exact ⟨rfl, h.output_eq, List.getLast?_concat⟩

theorem Fault.exitCode_eq {stage : Stage} {f : Failure} (h : Fault w r stage f) :
    f.exitCode = 2 := by
  cases h <;> rfl

theorem Fault.ne_unwritable {stage : Stage} {f : Failure} (h : Fault w r stage f)
    (e : Json.WriteError) : f ≠ .unwritable e := by
  cases h <;> nofun

theorem events_printJson (d : Json.Datum) : (printJson d).events = [] := by
  rw [printJson]
  cases hWrite : d.write.mapError Failure.unwritable with
  | error f => rw [bind_of_error (f := f) rfl]; rfl
  | ok j => rw [bind_of_ok (a := j) rfl]; rfl

theorem perform_dump {w' : Surroundings} (hDump : r.has .dumpGrammar = true)
    (hFile : ∀ path, r.grammar = some path → w'.file path = w.file path) :
    perform w' r = perform w r ∧ (perform w r).events = [] := by
  have hCustom : w'.custom r = w.custom r := by
    rw [Surroundings.custom, Surroundings.custom]
    cases hPath : r.grammar with
    | none => rfl
    | some path =>
      rw [Option.mapM_some, Option.mapM_some, Surroundings.declaration, Surroundings.declaration,
        Surroundings.read, Surroundings.read, hFile path hPath]
  rw [perform, perform, hCustom, hDump]
  refine ⟨rfl, ?_⟩
  cases hResult : w.custom r with
  | error f =>
    rw [bind_of_error (f := f) rfl]
    rfl
  | ok c =>
    rw [bind_of_ok (a := c) rfl, if_pos rfl, events_printJson]
    rfl

/-- A request ends with 0 and its whole output if and only if it is served. Otherwise it ends with 2
and without output, and reports its first fault. It never fails because a value cannot be written,
so it never ends with 1. A declaration is printed whatever becomes of the rest. -/
theorem request_settled (w : Surroundings) {args : List String} {r : Request}
    (hArgs : parse args = .ok (.request r)) :
    ((run w args).exitCode = 0 ↔ Served w r) ∧
    ((run w args).exitCode = 0 ∧ Yields w r (run w args).output ∨
      (run w args).exitCode = 2 ∧ (run w args).output = "" ∧ (∃ f, FirstFault w r f) ∧
        ∀ f, FirstFault w r f → (run w args).errors.getLast? = some (errorLine f.message)) ∧
    (∀ e, (perform w r).result ≠ .error (.unwritable e)) ∧
    (r.has .dumpGrammar = true →
      ∀ w', (∀ path, r.grammar = some path → w'.file path = w.file path) →
        run w' args = run w args) := by
  refine ⟨?_, ?_, fun e hUnwritable => ?_, fun hDump w' hFile => ?_⟩
  · rw [run_request hArgs]
    obtain ⟨output, hGives, hServed, -⟩ | ⟨f, hFails, stage, hFault, -⟩ := perform_cases w r
    · exact iff_of_true (finish_of_gives hGives _).1 hServed
    · rw [(finish_of_fails hFails _).1, hFault.exitCode_eq]
      exact iff_of_false (by decide) fun hServed => hServed.not_fault stage f hFault
  · rw [run_request hArgs]
    obtain ⟨output, hGives, -, hYields⟩ | ⟨f, hFails, hFirst⟩ := perform_cases w r
    · obtain ⟨hCode, hWritten⟩ := finish_of_gives hGives _
      rw [hWritten]
      exact .inl ⟨hCode, hYields⟩
    · obtain ⟨hCode, hWritten, hReport⟩ := finish_of_fails hFails _
      obtain ⟨stage, hFault, -⟩ := id hFirst
      rw [hFault.exitCode_eq] at hCode
      refine .inr ⟨hCode, hWritten, ⟨f, hFirst⟩, fun f' hFirst' => ?_⟩
      rw [hReport, hFirst.unique hFirst']
  · obtain ⟨output, hGives, -⟩ | ⟨f, hFails, stage, hFault, -⟩ := perform_cases w r
    · cases hGives.result_eq.symm.trans hUnwritable
    · exact hFault.ne_unwritable e (Except.error.inj (hFails.result_eq.symm.trans hUnwritable))
  · obtain ⟨hPerform, hEvents⟩ := perform_dump hDump hFile
    rw [run_request hArgs, run_request hArgs, hPerform, finish, finish, hEvents]
    rfl

theorem missing_grammar_settled :
    let w : Surroundings := {
      file := fun _ => .error .missing
      stdin := .ok ""
      logFilter := none
      terminal := false
      elapsed := .ofNanos 0 }
    let args := ["--json", "-g", "g.json", "--stats"]
    let r : Request := { grammar := some "g.json", switches := [.json, .stats] }
    parse args = .ok (.request r) ∧ Fault w r .input .noInput ∧ (run w args).exitCode = 2 ∧
      (run w args).output = "" ∧ (run w args).errors.getLast? =
        some "error: failed to read g.json: No such file or directory (os error 2)" := by
  intro w args r
  have hArgs : parse args = .ok (.request r) := by decide
  have hFault : Fault w r .grammarFile (.unreadable "g.json" .missing) := .grammarFile rfl rfl
  obtain ⟨hZero, hEnd, -⟩ := request_settled w hArgs
  refine ⟨hArgs, .noInput rfl rfl rfl, ?_⟩
  obtain ⟨hCode, -⟩ | ⟨hCode, hOutput, -, hReport⟩ := hEnd
  · exact absurd hFault ((hZero.mp hCode).not_fault _ _)
  · exact ⟨hCode, hOutput, hReport _ ⟨.grammarFile, hFault, nofun⟩⟩

end Highlight.Command
