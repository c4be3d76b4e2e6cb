import SecretLayers.Text.Blank
/-!
Files as the library sees them: texts and directories by name.

`Files` is what can be asked of a file system. `FileTree` is one given by its contents.
-/
namespace SecretLayers

/-- Why a file cannot be read. -/
inductive FileFault where
  | notFound
  | notDirectory
  | isDirectory
  /-- The content is not UTF-8. -/
  | notText
  /-- A name on the path is longer than names can be. -/
  | nameTooLong
  /-- The path has a character that no name has. -/
  | zeroInName
  /-- Anything else, as the system tells it. -/
  | other (reason : String)
  deriving DecidableEq, Repr

def FileFault.message : FileFault → String
  | notFound => "No such file or directory (os error 2)"
  | notDirectory => "Not a directory (os error 20)"
  | isDirectory => "Is a directory (os error 21)"
  | notText => "stream did not contain valid UTF-8"
  | nameTooLong => "File name too long (os error 36)"
  | zeroInName => "file name contained an unexpected NUL byte"
  | other reason => reason

/-- What files can be asked. -/
structure Files where
  read : String → Except FileFault String
  /-- The names in a directory, in no particular order. -/
  list : String → Except FileFault (List String)

namespace Files

/-- The path of a name in a directory; an absolute name stands alone. -/
def join (directory name : String) : String :=
  if name.toList.head? = some '/' then name
  else if directory = "" ∨ directory.toList.getLast? = some '/' then directory ++ name
  else directory ++ "/" ++ name

end Files

/-- Texts by path, and directories of which nothing more is said. -/
abbrev FileTree := List (List String × Option String)

namespace FileTree

/-- The names on a path. A slash at its end asks for the directory before it. -/
def names (path : String) : List String :=
  let pieces := Text.splitAt '/' path
  let named := pieces.filter (· ≠ "")
  if named ≠ [] ∧ pieces.getLast? = some "" then named ++ ["."] else named

def ofPairs (pairs : List (String × Option String)) : FileTree :=
  pairs.map fun (path, text) => ((names path).filter (· ≠ "."), text)

inductive Found where
  | text (content : String)
  | directory
  deriving DecidableEq

/-- What stands at a path. -/
def find (tree : FileTree) (path : List String) : Except FileFault Found :=
  match tree.lookup path with
  | some (some content) => .ok (.text content)
  | some none => .ok .directory
  | none =>
    if path = [] ∨ tree.any fun e => path.isPrefixOf e.1 then .ok .directory
    else if tree.any fun e => e.2.isSome && e.1.isPrefixOf path then .error .notDirectory
    else .error .notFound

/-- Names have at most so many bytes. -/
def longestName : Nat := 255

/-- Where names lead to from a place. Staying and going up are possible in directories only,
and nothing is known of what is above the tree. -/
def walk (tree : FileTree) (place : List String) : List String → Except FileFault (List String)
  | [] => .ok place
  | name :: rest =>
    if name = "." ∨ name = ".." ∨ longestName < name.utf8ByteSize then
      match tree.find place with
      | .error fault => .error fault
      | .ok (.text _) => .error .notDirectory
      | .ok .directory =>
        if name = "." then walk tree place rest
        else if name ≠ ".." then .error .nameTooLong
        else if place = [] then .error .notFound
        else walk tree place.dropLast rest
    else walk tree (place ++ [name]) rest

/-- What names lead to. -/
def follow (tree : FileTree) (path : List String) : Except FileFault (List String × Found) := do
  if path.any fun name => name.toList.contains '\x00' then throw .zeroInName
  let place ← tree.walk [] path
  return (place, ← tree.find place)

/-- The names right below a path, each once. -/
def childNames (tree : FileTree) (path : List String) : List String :=
  (tree.filterMap fun e => if path.isPrefixOf e.1 then e.1[path.length]? else none).eraseDups

/-- A path within the tree: below the name of its root, or relative to it. -/
def inside? (root path : String) : Option (List String) :=
  let cs := path.toList
  if path = root then some []
  else if (root.toList ++ ['/']).isPrefixOf cs then
    some (names (String.ofList (cs.drop (root.length + 1))))
  else if cs.head? = some '/' then none
  else some (names path)

/-- The files of a tree whose root has a name. -/
def files (tree : FileTree) (root : String) : Files where
  read path := match inside? root path with
    | none => .error .notFound
    | some p => match tree.follow p with
      | .ok (_, .text content) => .ok content
      | .ok (_, .directory) => .error .isDirectory
      | .error fault => .error fault
  list path := match inside? root path with
    | none => .error .notFound
    | some p => match tree.follow p with
      | .ok (_, .text _) => .error .notDirectory
      | .ok (place, .directory) => .ok (tree.childNames place)
      | .error fault => .error fault

end FileTree
end SecretLayers
