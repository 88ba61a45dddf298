/-
# Paths

A path is a text of names between slashes. It is absolute if it starts with a slash, and starts at
the current directory otherwise.
-/

namespace Autograder
namespace Path

/-- The names of a path whose current name has begun with the characters of `name`, in reverse. -/
def namesFrom (name : List Char) : List Char → List String
  | [] => if name.isEmpty then [] else [String.ofList name.reverse]
  | c :: r =>
    if c = '/' then
      (if name.isEmpty then [] else [String.ofList name.reverse]) ++ namesFrom [] r
    else namesFrom (c :: name) r

/-- The names of a path. Slashes next to each other count as one. -/
def names (path : String) : List String := namesFrom [] path.toList

/-- The path starts at the root. -/
def isAbsolute (path : String) : Bool := path.toList.head? == some '/'

/-- The path ends with a slash. -/
def endsWithSlash (path : String) : Bool := path.toList.getLast? == some '/'

/-- A path taken from the directory `base`; an absolute path is its own. -/
def join (base path : String) : String :=
  if isAbsolute path then path
  else if base.isEmpty || endsWithSlash base then base ++ path
  else base ++ "/" ++ path

/-- The names that matter when a path is followed: a dot is passed over, unless a relative path
starts with it. -/
def components (path : String) : List String :=
  match isAbsolute path, names path with
  | false, "." :: r => "." :: r.filter (· != ".")
  | _, ns => ns.filter (· != ".")

/-- The absolute path of the names below the root, the outermost first. -/
def ofNames (names : List String) : String :=
  if names.isEmpty then "/" else String.join (names.map ("/" ++ ·))

/-- The path of the directory above, or the empty path if only one name is left. -/
def parent (path : String) : String :=
  let text := "/".intercalate (components path).dropLast
  if isAbsolute path then "/" ++ text else text

/-- Where the absolute form of a path starts: at `here`, at the root, or at a pair of slashes,
which is not the same as one slash or three. -/
def absoluteStart (here path : String) : String :=
  match path.toList with
  | '/' :: '/' :: '/' :: _ => "/"
  | '/' :: '/' :: _ => "//"
  | '/' :: _ => "/"
  | _ => here

/-- The absolute form of a path, where `here` is the current directory: dots and repeated slashes
are left out, and a slash at the end is kept. The empty path has none. -/
def absolute (here path : String) : String :=
  if path.isEmpty then path
  else
    let text := ((names path).filter (· != ".")).foldl join (absoluteStart here path)
    if endsWithSlash path && !endsWithSlash text then text ++ "/" else text

end Path
end Autograder
