/-
# Corpus files
-/

import Autograder.Corpus
import Autograder.Files.Tree

namespace Autograder

/-- Why there is no corpus. -/
inductive CorpusError where
  | empty
  | unreadable (path : String) (error : FileError)
  deriving DecidableEq, Repr

namespace CorpusError

/-- The error in words. -/
def message : CorpusError → String
  | .empty => "payload corpus is empty"
  | .unreadable path error => "cannot read corpus file " ++ path ++ ": " ++ error.message

end CorpusError

namespace Corpus

/-- The corpus of the given entries. -/
def ofEntries (entries : List String) : Except CorpusError Corpus :=
  match ofEntries? entries with
  | some corpus => .ok corpus
  | none => .error .empty

/-- The corpus that a text holds. -/
def ofText (text : String) : Except CorpusError Corpus :=
  match read? text with
  | some corpus => .ok corpus
  | none => .error .empty

/-- The corpus that a file holds. -/
def ofFile (fs : Files) (path : String) : Except CorpusError Corpus :=
  match fs.readText path with
  | .ok text => ofText text
  | .error error => .error (.unreadable path error)

end Corpus
end Autograder
