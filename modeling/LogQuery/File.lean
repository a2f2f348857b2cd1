import LogQuery.Keyed
import LogQuery.Text.Substring

/-!
# File — files in a folder

A file is named by a path. What is known of a folder is the contents of its files under their paths
in the plain form, without steps that lead nowhere; the folders in it are the beginnings of those
paths.

* `Folder.read` and `Folder.write` use a path, or say why it cannot be used.
* `FileError.text` is the wording of a problem.
-/

namespace LogQuery

/-- Why a file cannot be read or written. -/
inductive FileError where
  | missing
  /-- The bytes are not UTF-8. -/
  | notText
  | directory
  | notDirectory
  deriving DecidableEq, Repr

/-- The wording of a problem, by its kind only. -/
def FileError.text : FileError → String
  | .missing => "<NotFound>"
  | .notText => "<InvalidData>"
  | .directory => "<IsADirectory>"
  | .notDirectory => "<NotADirectory>"

/-- The contents of files as text. -/
def textOfBytes (bytes : ByteArray) : Except FileError String :=
  match String.fromUTF8? bytes with
  | some s => .ok s
  | none => .error .notText

/-- The files of a folder and of the folders in it, under their plain paths. -/
structure Folder where
  files : Keyed ByteArray := .empty

namespace Folder

/-- The plain path with the given steps. -/
def join (steps : List String) : String := String.intercalate "/" steps

/-- Whether the steps lead to a folder. -/
def isFolder (f : Folder) (steps : List String) : Bool :=
  steps.isEmpty ||
    f.files.keys.any fun key =>
      let known := Text.splitAt '/' key
      steps.isPrefixOf known && steps.length < known.length

/-- Whether the steps lead to a file. -/
def isFile (f : Folder) (steps : List String) : Bool := f.files.contains (join steps)

/-- Follow the steps of a path from the folder that `done` leads to. Only the last step may lead to
something that is not a folder, or to nothing. -/
def follow (f : Folder) (done : List String) : List String → Except FileError (List String)
  | [] => .ok done
  | step :: steps =>
    if f.isFolder done then
      if step = "" ∨ step = "." then follow f done steps
      else if step = ".." then
        if done.isEmpty then .error .missing else follow f done.dropLast steps
      else follow f (done ++ [step]) steps
    else if f.isFile done then .error .notDirectory
    else .error .missing

/-- The steps that a path leads to. A path that starts at the root leads out of the folder. -/
def locate (f : Folder) (path : String) : Except FileError (List String) :=
  match Text.splitAt '/' path with
  | "" :: _ => .error .missing
  | steps => f.follow [] steps

/-- The content of a file. -/
def read (f : Folder) (path : String) : Except FileError ByteArray := do
  let steps ← f.locate path
  if f.isFolder steps then .error .directory
  else
    match f.files.get? (join steps) with
    | some content => .ok content
    | none => .error .missing

/-- Write a text to a file, in place of what it held. -/
def write (f : Folder) (path text : String) : Except FileError Folder := do
  let steps ← f.locate path
  if f.isFolder steps then .error .directory
  else if f.isFolder steps.dropLast then .ok ⟨f.files.insert (join steps) text.toUTF8⟩
  else .error .missing

end Folder

end LogQuery
