import CardShuffle.Storage

/-!
# Trees of files

Files lie in folders, and folders in folders up to the root. A path is a list of
names with slashes between them, followed from the root if it begins with a slash
and from the current folder otherwise. `Entry.follow` takes the names one by one,
so the first name at fault decides why a path leads nowhere.
-/

namespace CardShuffle

/-- What a name in a folder stands for. -/
inductive Entry where
  | file (bytes : ByteArray)
  | folder (entries : List (String × Entry))
  deriving Inhabited

namespace Entry

/-- The largest number of bytes in a name. -/
def longestName : Nat := 255

/-- Follow names from an entry. `above` holds the folders that the entry lies in,
the nearest one first. An empty name and a single dot stay where they are; two dots
lead to the folder above, and at the root nowhere else. Nothing can be followed from
a file, not even a name that stays. -/
def follow : List String -> (above : List Entry) -> Entry -> Except ReadFailure Entry
  | [], _, entry => .ok entry
  | _ :: _, _, .file _ => .error .notDirectory
  | name :: names, above, .folder entries =>
      if name = "" ∨ name = "." then
        follow names above (.folder entries)
      else if name = ".." then
        match above with
        | [] => follow names [] (.folder entries)
        | upper :: higher => follow names higher upper
      else if longestName < name.utf8ByteSize then
        .error .nameTooLong
      else
        match entries.lookup name with
        | some entry => follow names (.folder entries :: above) entry
        | none => .error .notFound

/-- The bytes of a file. -/
def bytes : Entry -> Except ReadFailure ByteArray
  | file bytes => .ok bytes
  | folder _ => .error .isDirectory

end Entry

/-- A tree of files, seen from one of its folders. -/
structure FileTree where
  root : Entry
  /-- The names that lead from the root to the current folder. -/
  current : List String := []

namespace FileTree

/-- The largest number of bytes in a path. -/
def longestPath : Nat := 4095

/-- The names to follow from the root for a path. -/
def names (tree : FileTree) (path : String) : List String :=
  let own := (path.toList.splitOn '/').map String.ofList
  if path.startsWith "/" then own else tree.current ++ own

/-- The files of a tree. The empty path leads nowhere. -/
def files (tree : FileTree) : Files := fun path =>
  if path.isEmpty then
    .error .notFound
  else if longestPath < path.utf8ByteSize then
    .error .nameTooLong
  else
    (Entry.follow (tree.names path) [] tree.root).bind Entry.bytes

end FileTree

end CardShuffle
