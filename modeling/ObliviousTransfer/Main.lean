import ObliviousTransfer.Command.Run

/-!
The program itself. It carries the plan for its command line out on the disk
and prints the report.
-/

namespace ObliviousTransfer

def FileFault.ofError : IO.Error → FileFault
  | .noFileOrDirectory _ _ _ => .notFound
  | .alreadyExists _ _ _ => .alreadyExists
  | .inappropriateType _ code _ => if code = 20 then .notDirectory else .isDirectory
  | .invalidArgument _ 36 _ => .nameTooLong
  | other => .refused (toString other)

def attempt {Value : Type} (action : IO Value) : IO (Except FileFault Value) := do
  match ← action.toBaseIO with
  | .ok value => return .ok value
  | .error fault => return .error (.ofError fault)

/-- The bytes of a fresh tape, far more than one execution draws. -/
def tapeBytes : Nat := 4096

/-- A directory can be opened and cannot be read. -/
def isDirectoryOnDisk (path : String) : IO Bool := do
  let probe ← attempt do (← IO.FS.Handle.mk path .read).read 1
  return probe matches .error .isDirectory

def Command.Plan.runOnDisk {Value : Type} : Plan Value → IO Value
  | .done value => return value
  | .makeDirectory path next => do (next (← attempt (IO.FS.createDir path))).runOnDisk
  | .isDirectory path next => do (next (← isDirectoryOnDisk path)).runOnDisk
  | .readFile path next => do (next (← attempt (IO.FS.readFile path))).runOnDisk
  | .writeFile path text next => do (next (← attempt (IO.FS.writeFile path text))).runOnDisk
  | .freshTape next => do
      let bytes ← IO.getRandomBytes tapeBytes.toUSize
      (next (Tape.ofBytes bytes.toList)).runOnDisk

def environmentOf (rules : List Command.OptionRule) : BaseIO Command.Environment := do
  let found ← (rules.filterMap fun rule => rule.environment).mapM fun name => do
    return (← IO.getEnv name).map fun value => (name, value)
  return found.filterMap id

end ObliviousTransfer

open ObliviousTransfer in
def main (arguments : List String) : IO UInt32 := do
  let environment ← environmentOf Command.program.rules
  let report ← (Command.planArguments environment arguments).runOnDisk
  report.output.forM IO.println
  report.complaints.forM IO.eprintln
  return report.exit
