import Mathlib.Data.List.Induction
import Highlight.Fsd
import Highlight.Proofs.LineByLine

/-! # What a session remembers

An editor tokenizes lines with a session, resets it, makes it go on from a saved stack, and hands it
whole texts, in any order. What the session then holds is decided by the action that set it up last
and by the lines it has tokenized since: their number, the stack they lead to, and the phase.
-/

namespace Highlight

def Grammar.carry (g : Grammar) (stack : StateStack) (lines : List String) : StateStack :=
  lines.foldl (fun stack line => (g.tokenizeLine stack line).stack) stack

namespace Session

inductive Action where
  | tokenizeLine (line : String)
  | reset
  | resume (stack : StateStack)
  | replaceText (text : String)

def act (s : Session) : Action → Session
  | .tokenizeLine line => (s.tokenizeLine line).2
  | .reset => s.reset
  | .resume stack => s.resume stack
  | .replaceText text => (s.replaceText text).2

def after (g : Grammar) (actions : List Action) : Session := actions.foldl act (ofGrammar g)

inductive Setup where
  | created
  | reset
  | resumed (stack : StateStack)
  | replaced

/-- The last thing that set a session up, and the lines tokenized since then. A text that replaces
another one brings its own lines. -/
inductive Since : List Action → Setup → List String → Prop where
  | created (lines : List String) : Since (lines.map .tokenizeLine) .created lines
  | reset (before : List Action) (lines : List String) :
      Since (before ++ .reset :: lines.map .tokenizeLine) .reset lines
  | resumed (before : List Action) (stack : StateStack) (lines : List String) :
      Since (before ++ .resume stack :: lines.map .tokenizeLine) (.resumed stack) lines
  | replaced (before : List Action) (text : String) (lines : List String) :
      Since (before ++ .replaceText text :: lines.map .tokenizeLine) .replaced
        (Text.lines text ++ lines)

namespace Setup

def stack (g : Grammar) : Setup → StateStack
  | .resumed stack => if g.accepts stack then stack else g.initial
  | _ => g.initial

def Restarts (g : Grammar) : Setup → Prop
  | .created => False
  | .reset => True
  | .resumed stack => g.accepts stack = false
  | .replaced => True

def phase (g : Grammar) : Setup → Phase
  | .created => .fresh
  | .reset => .reset
  | .resumed stack => if g.accepts stack then .active else .reset
  | .replaced => .reset

end Setup

structure Tracks (g : Grammar) (actions : List Action) (setup : Setup) (lines : List String)
    (s : Session) : Prop where
  grammar_eq : s.grammar = g
  lines_eq : s.lines = lines.length
  stack_eq : s.stack = g.carry (setup.stack g) lines
  fresh_iff : s.phase = .fresh ↔ actions = []
  reset_iff : s.phase = .reset ↔ setup.Restarts g ∧ lines = []
  active_iff : s.phase = .active ↔ actions ≠ [] ∧ ¬ (setup.Restarts g ∧ lines = [])
  idle : s.phase = .fresh ∨ s.phase = .reset → s.stack = g.initial ∧ s.lines = 0

variable {g : Grammar}

theorem foldl_act_tokenizeLine (s : Session) (lines : List String) :
    (lines.map Action.tokenizeLine).foldl act s =
      { grammar := s.grammar
        phase := if lines = [] then s.phase else .active
        stack := s.grammar.carry s.stack lines
        lines := s.lines + lines.length } := by
  induction lines generalizing s with
  | nil => rfl
  | cons line lines ih =>
    rw [List.map_cons, List.foldl_cons, ih]
    simp only [act, tokenizeLine, Grammar.carry, List.foldl_cons, List.length_cons, reduceCtorEq,
      if_false, ite_self, Nat.add_assoc, Nat.add_comm 1]

theorem tokenizeLines_snd (s : Session) (lines : List String) :
    (s.tokenizeLines lines).2 = (lines.map Action.tokenizeLine).foldl act s := by
  induction lines generalizing s with
  | nil => rfl
  | cons line lines ih => exact ih (s.tokenizeLine line).2

theorem grammar_act (s : Session) (a : Action) : (s.act a).grammar = s.grammar := by
  cases a with
  | tokenizeLine line => rfl
  | reset => rfl
  | resume stack => exact s.grammar_resume stack
  | replaceText text => rw [act, replaceText, tokenizeLines_snd, foldl_act_tokenizeLine]; rfl

theorem grammar_after (g : Grammar) (actions : List Action) : (after g actions).grammar = g := by
  induction actions using List.reverseRecOn with
  | nil => rfl
  | append_singleton actions a ih =>
    rw [after, List.foldl_append, List.foldl_cons, List.foldl_nil, grammar_act]
    exact ih

theorem after_append_cons (before : List Action) (a : Action) (lines : List String) :
    after g (before ++ a :: lines.map .tokenizeLine) =
      (lines.map Action.tokenizeLine).foldl act ((after g before).act a) := by
  rw [after, List.foldl_append, List.foldl_cons, after]

variable {actions : List Action} {setup : Setup} {lines : List String}

theorem Since.after_eq (h : Since actions setup lines) :
    after g actions =
      { grammar := g
        phase := if lines = [] then setup.phase g else .active
        stack := g.carry (setup.stack g) lines
        lines := lines.length } := by
  cases h with
  | created lines =>
    rw [after, foldl_act_tokenizeLine]
    simp only [ofGrammar, Setup.phase, Setup.stack, Nat.zero_add]
  | reset before lines =>
    rw [after_append_cons, foldl_act_tokenizeLine]
    simp only [act, Session.reset, grammar_after, Setup.phase, Setup.stack, Nat.zero_add]
  | resumed before stack lines =>
    rw [after_append_cons, foldl_act_tokenizeLine, act, resume]
    cases hAccepts : g.accepts stack <;>
      simp [Session.reset, grammar_after, Setup.phase, Setup.stack, hAccepts]
  | replaced before text lines =>
    rw [after_append_cons, act, replaceText, tokenizeLines_snd, ← List.foldl_append,
      ← List.map_append, foldl_act_tokenizeLine]
    simp only [Session.reset, grammar_after, Setup.phase, Setup.stack, Nat.zero_add]

theorem Since.append_tokenizeLine (h : Since actions setup lines) (line : String) :
    Since (actions ++ [.tokenizeLine line]) setup (lines ++ [line]) := by
  cases h with
  | created lines => simpa using Since.created (lines ++ [line])
  | reset before lines => simpa using Since.reset before (lines ++ [line])
  | resumed before stack lines => simpa using Since.resumed before stack (lines ++ [line])
  | replaced before text lines => simpa using Since.replaced before text (lines ++ [line])

theorem exists_since (actions : List Action) : ∃ setup lines, Since actions setup lines := by
  induction actions using List.reverseRecOn with
  | nil => exact ⟨.created, [], .created []⟩
  | append_singleton actions a ih =>
    cases a with
    | tokenizeLine line =>
      obtain ⟨setup, lines, hSince⟩ := ih
      exact ⟨setup, lines ++ [line], hSince.append_tokenizeLine line⟩
    | reset => exact ⟨.reset, [], .reset actions []⟩
    | resume stack => exact ⟨.resumed stack, [], .resumed actions stack []⟩
    | replaceText text => exact ⟨.replaced, Text.lines text ++ [], .replaced actions text []⟩

theorem Since.eq_nil_iff (h : Since actions setup lines) :
    actions = [] ↔ setup = .created ∧ lines = [] := by
  cases h <;> simp

theorem Setup.phase_eq_fresh_iff (setup : Setup) : setup.phase g = .fresh ↔ setup = .created := by
  cases setup with
  | resumed stack => cases hAccepts : g.accepts stack <;> simp [phase, hAccepts]
  | _ => simp [phase]

theorem Setup.phase_eq_reset_iff (setup : Setup) : setup.phase g = .reset ↔ setup.Restarts g := by
  cases setup with
  | resumed stack => cases hAccepts : g.accepts stack <;> simp [phase, Restarts, hAccepts]
  | _ => simp [phase, Restarts]

theorem Setup.stack_of_phase_ne_active (setup : Setup) (h : setup.phase g ≠ .active) :
    setup.stack g = g.initial := by
  cases setup with
  | resumed saved =>
    cases hAccepts : g.accepts saved with
    | true => simp [phase, hAccepts] at h
    | false => simp [stack, hAccepts]
  | _ => rfl

theorem Since.phase_eq_fresh_iff (h : Since actions setup lines) :
    (after g actions).phase = .fresh ↔ actions = [] := by
  rw [h.after_eq, h.eq_nil_iff, ← setup.phase_eq_fresh_iff (g := g)]
  by_cases hLines : lines = [] <;> simp [hLines]

theorem Since.phase_eq_reset_iff (h : Since actions setup lines) :
    (after g actions).phase = .reset ↔ setup.Restarts g ∧ lines = [] := by
  rw [h.after_eq, ← setup.phase_eq_reset_iff]
  by_cases hLines : lines = [] <;> simp [hLines]

theorem Since.idle (h : Since actions setup lines) (hPhase : (after g actions).phase ≠ .active) :
    (after g actions).stack = g.initial ∧ (after g actions).lines = 0 := by
  rw [h.after_eq] at hPhase ⊢
  by_cases hLines : lines = []
  · have hSetup : setup.phase g ≠ .active := by simpa [hLines] using hPhase
    subst hLines
    exact ⟨setup.stack_of_phase_ne_active hSetup, rfl⟩
  · simp [hLines] at hPhase

/-- Whatever is done with a new session, something set it up last, and the session agrees with that
and with the lines since then. -/
theorem tracks_history (g : Grammar) (actions : List Action) :
    (∃ setup lines, Since actions setup lines) ∧
      ∀ setup lines, Since actions setup lines →
        Tracks g actions setup lines (after g actions) := by
  refine ⟨exists_since actions, fun setup lines h => ?_⟩
  exact {
    grammar_eq := grammar_after g actions
    lines_eq := by rw [h.after_eq]
    stack_eq := by rw [h.after_eq]
    fresh_iff := h.phase_eq_fresh_iff
    reset_iff := h.phase_eq_reset_iff
    active_iff := by
      rw [← h.phase_eq_reset_iff (g := g), ne_eq, ← h.phase_eq_fresh_iff (g := g)]
      cases (after g actions).phase <;> simp
    idle := fun hPhase => h.idle (by rcases hPhase with hPhase | hPhase <;> simp [hPhase]) }

theorem fsd_tracks_history :
    Since [.tokenizeLine "[", .replaceText "service A \x7b", .tokenizeLine "\x7d"] .replaced
        ["service A \x7b", "\x7d"] ∧
      Tracks Fsd.grammar [.tokenizeLine "[", .replaceText "service A \x7b", .tokenizeLine "\x7d"]
        .replaced ["service A \x7b", "\x7d"]
        (after Fsd.grammar [.tokenizeLine "[", .replaceText "service A \x7b", .tokenizeLine "\x7d"]) := by
  have hSince := Since.replaced [.tokenizeLine "["] "service A \x7b" ["\x7d"]
  exact ⟨hSince, (tracks_history Fsd.grammar _).2 .replaced _ hSince⟩

end Session

end Highlight
