import Highlight.Command.Directory
import Highlight.Grammar.Error
import Highlight.Json.Datum
import Highlight.Log.Event

/-! # Jobs

The program is put together from jobs. A job logs events, writes to the output, and ends with a
value or with a failure. What was written before a failure stays, and nothing is written after it.
-/

namespace Highlight.Command

inductive Failure where
  | unreadable (path : String) (why : Unreadable)
  | noInput
  | badGrammar (path : String) (error : GrammarError)
  | unwritable (error : Json.WriteError)
deriving DecidableEq, Repr

namespace Failure

def message : Failure → String
  | .unreadable path why => "failed to read " ++ path ++ ": " ++ why.message
  | .noInput => "no input provided (pass a file or pipe text on stdin)"
  | .badGrammar path error => "invalid grammar " ++ path ++ ": " ++ error.message
  | .unwritable error => "failed to write JSON: " ++ error.message

/-- Bad input ends the program with 2, anything else with 1. -/
def exitCode : Failure → Nat
  | .unreadable _ _ | .noInput | .badGrammar _ _ => 2
  | .unwritable _ => 1

end Failure

structure Job (α : Type) where
  events : List Log.Event
  output : String
  result : Except Failure α

namespace Job

variable {α β : Type}

def bind (x : Job α) (f : α → Job β) : Job β :=
  match x.result with
  | .ok a =>
    let y := f a
    ⟨x.events ++ y.events, x.output ++ y.output, y.result⟩
  | .error e => ⟨x.events, x.output, .error e⟩

instance : Monad Job where
  pure a := ⟨[], "", .ok a⟩
  bind := bind

def log (events : List Log.Event) : Job Unit := ⟨events, "", .ok ()⟩

def print (s : String) : Job Unit := ⟨[], s, .ok ()⟩

def attempt (x : Except Failure α) : Job α := ⟨[], "", x⟩

/-- The value is written as a whole before any of it is printed. -/
def printJson (d : Json.Datum) : Job Unit := do
  let j ← attempt (d.write.mapError .unwritable)
  print (j.pretty ++ "\n")

example : (do print "a"; attempt (.error .noInput); print "b" : Job Unit) =
    ⟨[], "a", .error .noInput⟩ := rfl

structure Gives (x : Job α) (s : String) (a : α) : Prop where
  output_eq : x.output = s
  result_eq : x.result = .ok a

/-- The job fails before it has written anything. -/
structure Fails (x : Job α) (f : Failure) : Prop where
  output_eq : x.output = ""
  result_eq : x.result = .error f

variable {x : Job α} {k : α → Job β} {s : String} {a : α} {b : β} {f : Failure}

theorem bind_of_ok (h : x.result = .ok a) (k : α → Job β) :
    x >>= k = ⟨x.events ++ (k a).events, x.output ++ (k a).output, (k a).result⟩ := by
  change Job.bind x k = _
  rw [Job.bind, h]

theorem bind_of_error (h : x.result = .error f) (k : α → Job β) :
    x >>= k = ⟨x.events, x.output, .error f⟩ := by
  change Job.bind x k = _
  rw [Job.bind, h]

theorem Gives.bind (hx : x.Gives "" a) (hk : (k a).Gives s b) : (x >>= k).Gives s b := by
  rw [bind_of_ok hx.result_eq, hx.output_eq, hk.output_eq]
  exact ⟨String.empty_append, hk.result_eq⟩

theorem Gives.bind_fails (hx : x.Gives "" a) (hk : (k a).Fails f) : (x >>= k).Fails f := by
  rw [bind_of_ok hx.result_eq, hx.output_eq, hk.output_eq]
  exact ⟨rfl, hk.result_eq⟩

theorem Fails.bind (hx : x.Fails f) (k : α → Job β) : (x >>= k).Fails f := by
  rw [bind_of_error hx.result_eq]
  exact ⟨hx.output_eq, rfl⟩

theorem gives_attempt {r : Except Failure α} (h : r = .ok a) : (attempt r).Gives "" a :=
  ⟨rfl, h⟩

theorem fails_attempt {r : Except Failure α} (h : r = .error f) : (attempt r).Fails f :=
  ⟨rfl, h⟩

theorem gives_log (events : List Log.Event) : (log events).Gives "" () :=
  ⟨rfl, rfl⟩

theorem gives_print (s : String) : (print s).Gives s () :=
  ⟨rfl, rfl⟩

theorem gives_printJson {d : Json.Datum} {j : Json} (h : d.write = .ok j) :
    (printJson d).Gives (j.pretty ++ "\n") () := by
  have hWritten : d.write.mapError Failure.unwritable = .ok j := by
    rw [h]
    rfl
  exact (gives_attempt hWritten).bind (gives_print _)

end Job

end Highlight.Command
