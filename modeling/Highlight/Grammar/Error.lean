import Highlight.Declaration.ReadError

/-! # Why a grammar cannot be had

A declaration text may be faulty, or the declaration that it holds may not make a grammar.
-/

namespace Highlight

inductive Referrer where
  | root
  | rule (pattern state : String)
deriving DecidableEq, Repr

def Referrer.describe : Referrer → String
  | .root => "grammar root"
  | .rule pattern state => "rule /" ++ pattern ++ "/ in state '" ++ state ++ "'"

inductive GrammarError where
  /-- The includes of `state` lead into a circle; `chain` goes round it. -/
  | cyclicInclude (state : String) (chain : List String)
  | unknownState (name : String) (referrer : Referrer)
  | unknownInclude (name : String) (state : String)
  | duplicateState (name : String)
  | invalidPattern (state pattern : String)
  | groupMismatch (state pattern : String) (groups tags : Nat)
  | unsupportedVersion (found supported : UInt32)
  | unreadable (error : ReadError)
deriving DecidableEq, Repr

def GrammarError.message : GrammarError → String
  | .cyclicInclude state chain =>
    "cyclic include while expanding state '" ++ state ++ "': " ++ String.intercalate " -> " chain
  | .unknownState name referrer => referrer.describe ++ " references undeclared state '" ++ name ++ "'"
  | .unknownInclude name state =>
    "state '" ++ state ++ "' includes undeclared state '" ++ name ++ "'"
  | .duplicateState name => "state '" ++ name ++ "' is declared more than once"
  | .invalidPattern state pattern =>
    "invalid pattern /" ++ pattern ++ "/ in state '" ++ state ++ "': error parsing pattern 0"
  | .groupMismatch state pattern groups tags =>
    "pattern /" ++ pattern ++ "/ in state '" ++ state ++ "' has " ++ toString groups ++
      " capture groups but " ++ toString tags ++ " group tags"
  | .unsupportedVersion found supported =>
    "grammar declaration version " ++ toString found ++ " is newer than supported version " ++
      toString supported
  | .unreadable error => "invalid grammar declaration: " ++ error.message

end Highlight
