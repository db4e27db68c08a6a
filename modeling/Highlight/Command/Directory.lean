/-! # Files in a directory

A directory that is known as a whole, with the rules by which a path leads to one of its files. What
lies outside of the directory is unknown, apart from the directories above it.
-/

namespace Highlight.Command

inductive Unreadable where
  | missing
  | directory
  | notDirectory
  | nameTooLong
  | notText
  | other (message : String)
deriving DecidableEq, Repr

def Unreadable.message : Unreadable → String
  | .missing => "No such file or directory (os error 2)"
  | .directory => "Is a directory (os error 21)"
  | .notDirectory => "Not a directory (os error 20)"
  | .nameTooLong => "File name too long (os error 36)"
  | .notText => "stream did not contain valid UTF-8"
  | .other message => message

inductive Entry where
  | text (content : String)
  | notText
  | directory
deriving DecidableEq, Repr

def Entry.read : Entry → Except Unreadable String
  | .text content => .ok content
  | .notText => .error .notText
  | .directory => .error .directory

abbrev Directory := List (String × Entry)

namespace Directory

/-- Where a path has led so far: to a directory, given by the names on the way to it, the last
first; out of the known directory; or to a file. -/
inductive Place where
  | within (names : List String)
  | outside
  | file (content : Entry)
deriving DecidableEq, Repr

def fullName (names : List String) : String :=
  "/".intercalate names.reverse

def leadsThrough (d : Directory) (names : List String) : Bool :=
  d.any fun e => (fullName names ++ "/").toList.isPrefixOf e.1.toList

def lookUp (d : Directory) (names : List String) : Except Unreadable Place :=
  match d.lookup (fullName names) with
  | some .directory => .ok (.within names)
  | some entry => .ok (.file entry)
  | none => if d.leadsThrough names then .ok (.within names) else .error .missing

/-- Follow one part of a path. Nothing lies within a file, not even the file itself. -/
def follow (d : Directory) (place : Place) (part : String) : Except Unreadable Place :=
  match place with
  | .file _ => .error .notDirectory
  | .outside =>
    if part = "" ∨ part = "." ∨ part = ".." then .ok .outside
    else if 255 < part.utf8ByteSize then .error .nameTooLong
    else .error .missing
  | .within names =>
    if part = "" ∨ part = "." then .ok place
    else if part = ".." then .ok (if names.isEmpty then .outside else .within names.tail)
    else if 255 < part.utf8ByteSize then .error .nameTooLong
    else d.lookUp (part :: names)

def read (d : Directory) (path : String) : Except Unreadable String := do
  if 4096 ≤ path.utf8ByteSize then throw .nameTooLong
  let start : Place := if path.toList.head? = some '/' then .outside else .within []
  match ← (path.splitOn "/").foldlM d.follow start with
  | .file entry => entry.read
  | _ => throw .directory

end Directory

end Highlight.Command
