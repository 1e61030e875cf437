import CardShuffle.Program

/-!
# The program on a system

Everything the program depends on is collected first: the variables of the
environment, the settings file and random bytes for a key. The run itself is
`Program.run`; its output, error report and exit code are passed on.
-/

namespace CardShuffle.Program

/-- The variables that a run looks at. -/
def variableNames : List String :=
  [configVariable, "FD_SERVICE_NAME", "FD_LOG_LEVEL", Telemetry.filterVariable,
    "FD_CONSOLE_OUTPUT", "FD_JSON_LOGS"]

/-- The variables as they are at the start. -/
def currentEnvironment : IO Environment := do
  let values ← variableNames.mapM fun name => do return (name, ← IO.getEnv name)
  return fun name => (values.lookup name).join

/-- Whether a cause has a number, which may come with either sign. -/
def isNumbered (code number : UInt32) : Bool :=
  code == number || -code == number

/-- Why the system has no bytes for a file. -/
def failureOf : IO.Error -> ReadFailure
  | .permissionDenied .. => .denied
  | .inappropriateType _ code _ => if isNumbered code 20 then .notDirectory else .isDirectory
  | .invalidArgument _ code _ => if isNumbered code 36 then .nameTooLong else .notFound
  | _ => .notFound

/-- The contents of a file. -/
def contents (path : String) : IO (Except ReadFailure ByteArray) := do
  try
    return .ok (← IO.FS.readBinFile path)
  catch error =>
    return .error (failureOf error)

/-- The files a run can see: the settings file alone. -/
def currentFiles (path : Option String) : IO Files := do
  match path with
  | none => return fun _ => .error .notFound
  | some path =>
      let found ← contents path
      return fun name => if name = path then found else .error .notFound

/-- The word that four bytes make, the lowest byte first. -/
def wordAt (bytes : ByteArray) (index : Nat) : UInt32 :=
  let byte (offset : Nat) : UInt32 := (bytes.toList.getD (4 * index + offset) 0).toUInt32
  byte 0 ||| (byte 1 <<< 8) ||| (byte 2 <<< 16) ||| (byte 3 <<< 24)

/-- A source with a random key. -/
def currentEntropy : IO SeededSource := do
  let bytes ← IO.getRandomBytes 32
  let word := wordAt bytes
  return { key := ⟨word 0, word 1, word 2, word 3, word 4, word 5, word 6, word 7⟩ }

end CardShuffle.Program

open CardShuffle

/-- Run the program on the arguments of the process. -/
def main (arguments : List String) : IO UInt32 := do
  let environment ← Program.currentEnvironment
  let path := (Program.invocation environment arguments).toOption.bind fun invocation =>
    invocation.config
  let files ← Program.currentFiles path
  let ending := Program.run environment files (← Program.currentEntropy) arguments
  IO.print ending.output
  IO.eprint ending.errorOutput
  return UInt32.ofNat ending.exitCode
