/-
# The utilities by their names

The programs of the system that scripts can start, each with what it does with its arguments.
-/

import Autograder.Shell.Records.Run
import Autograder.Shell.Utility.Columns
import Autograder.Shell.Utility.Comparing
import Autograder.Shell.Utility.Editing
import Autograder.Shell.Utility.Filing
import Autograder.Shell.Utility.Making
import Autograder.Shell.Utility.Searching
import Autograder.Shell.Utility.Showing
import Autograder.Shell.Utility.Sorting
import Autograder.Shell.Utility.Starting
import Autograder.Shell.Utility.Values

namespace Autograder
namespace Shell
namespace Utility

/-- A utility that does nothing but succeed, or fail. -/
def comesTo (status : Nat) (_ : List (List Char)) : Run Nat := pure status

/-- Shows the current directory. -/
def pwd (args : List (List Char)) : Run Nat :=
  withOptions "pwd" (.letters "LP" "") args fun _ => do
    writeLine (bytesOf (← get).files.herePath)
    pure 0

/-- The utilities that show, change and compare texts. -/
def textual? (name : String) : Option (List (List Char) → Run Nat) :=
  match name with
  | "cat" => some cat
  | "head" | "tail" => some (parts name)
  | "wc" => some wc
  | "nl" => some nl
  | "fold" => some fold
  | "tac" => some tac
  | "rev" => some rev
  | "tee" => some tee
  | "expand" => some expand
  | "sort" => some sort
  | "uniq" => some uniq
  | "comm" => some comm
  | "cut" => some cut
  | "paste" => some paste
  | "tr" => some tr
  | "diff" => some diff
  | "cmp" => some cmp
  | "grep" => some grep
  | "egrep" => some (grepAs ['E'])
  | "fgrep" => some (grepAs ['F'])
  | "sed" => some sed
  | _ => none

/-- The utilities that make, move, remove and describe files. -/
def filing? (name : String) : Option (List (List Char) → Run Nat) :=
  match name with
  | "rm" => some rm
  | "rmdir" => some rmdir
  | "mkdir" => some mkdir
  | "touch" => some touch
  | "chmod" => some chmod
  | "cp" => some cp
  | "mv" => some mv
  | "ln" => some ln
  | "ls" => some ls
  | "basename" => some basename
  | "dirname" => some dirname
  | "realpath" => some realpath
  | "readlink" => some readlink
  | "truncate" => some truncate
  | "stat" => some stat
  | "make" => some make
  | _ => none

/-- The utilities that show values and wait. -/
def valued? (name : String) : Option (List (List Char) → Run Nat) :=
  match name with
  | "true" | "sync" => some (comesTo 0)
  | "false" => some (comesTo 1)
  | "yes" => some yes
  | "seq" => some seq
  | "expr" => some expr
  | "sleep" => some sleep
  | "echo" => some echo
  | "printf" => some (printf (report "printf"))
  | "test" => some (test (report "test"))
  | "[" => some (bracket (report "["))
  | "date" => some date
  | "uname" => some uname
  | "id" => some id
  | "whoami" => some (say "root")
  | "hostname" => some (say "localhost")
  | "arch" => some (say "x86_64")
  | "nproc" => some (say "4")
  | "tty" => some tty
  | "printenv" => some printenv
  | "pwd" => some pwd
  | _ => none

/-- The utilities that start others. -/
def starting? (e : Engine) (name : String) : Option (List (List Char) → Run Nat) :=
  match name with
  | "awk" | "mawk" => some (awk e)
  | "env" => some (env e)
  | "nice" => some (startPlainly name "n" e)
  | "nohup" => some (startPlainly name "" e)
  | "timeout" => some (timeout e)
  | "which" => some (which e)
  | "xargs" => some (xargs e)
  | _ => none

/-- The utility of a name. -/
def named? (e : Engine) (name : String) : Option (List (List Char) → Run Nat) :=
  textual? name <|> filing? name <|> valued? name <|> starting? e name

/-- The names of the utilities that start others. -/
def startingNames : List String :=
  ["awk", "mawk", "env", "nice", "nohup", "timeout", "which", "xargs"]

/-- There is a utility of a name. -/
def isThere (name : String) : Bool :=
  (textual? name <|> filing? name <|> valued? name).isSome || startingNames.contains name

end Utility
end Shell
end Autograder
