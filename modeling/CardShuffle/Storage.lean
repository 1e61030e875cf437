/-!
# Reading text files

A program sees its files as a function from paths to contents. What can go
wrong is a small set of causes, each with the words the system reports it in.
-/

namespace CardShuffle

/-- Why a file has no text. -/
inductive ReadFailure where
  | notFound
  | isDirectory
  | notDirectory
  | denied
  /-- A name or the whole path has too many bytes. -/
  | nameTooLong
  /-- The path holds a null character, so it names nothing. -/
  | nullInPath
  /-- The bytes are not well-formed UTF-8. -/
  | notText
  deriving Repr, DecidableEq

namespace ReadFailure

/-- The words the cause is reported in. -/
def message : ReadFailure -> String
  | notFound => "No such file or directory (os error 2)"
  | isDirectory => "Is a directory (os error 21)"
  | notDirectory => "Not a directory (os error 20)"
  | denied => "Permission denied (os error 13)"
  | nameTooLong => "File name too long (os error 36)"
  | nullInPath => "file name contained an unexpected NUL byte"
  | notText => "stream did not contain valid UTF-8"

end ReadFailure

/-- The bytes of the file at a path, or why there are none. -/
abbrev Files := String -> Except ReadFailure ByteArray

/-- The text of the file at a path. A path with a null character is not looked up. -/
def Files.readText (files : Files) (path : String) : Except ReadFailure String :=
  if path.toList.contains '\x00' then
    .error .nullInPath
  else
    match files path with
    | .error failure => .error failure
    | .ok bytes =>
        match String.fromUTF8? bytes with
        | some text => .ok text
        | none => .error .notText

end CardShuffle
