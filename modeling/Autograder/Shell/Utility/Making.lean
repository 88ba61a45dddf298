/-
# Making targets

What `make` says where there are no rules.
-/

import Autograder.Shell.Utility.Basic

namespace Autograder
namespace Shell
namespace Utility

/-- Makes targets, one after the other, as far as there are rules for them. Rules stand in files
that are not read here, so that a target can only be there already. -/
def makeEach : List (List Char) → Run Nat
  | [] => pure 0
  | target :: targets => do
    if (← get).files.exists? (toText target) then
      writeLine (bytesOf "make: Nothing to be done for " ++ inQuotes target ++ ['.'])
      makeEach targets
    else
      report "make" (bytesOf "*** No rule to make target " ++ inQuotes target ++ bytesOf ".  Stop.")
      pure 2

/-- Makes targets; arguments that start with a dash are options, and those with an equals sign are
settings. -/
def make (args : List (List Char)) : Run Nat := do
  match args.filter fun a => a.head? != some '-' && !a.contains '=' with
  | [] => do
    report "make" (bytesOf "*** No targets specified and no makefile found.  Stop.")
    pure 2
  | targets => makeEach targets

end Utility
end Shell
end Autograder
