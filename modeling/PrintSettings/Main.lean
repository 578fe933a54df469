import PrintSettings.Command.Arguments
import PrintSettings.Command.Run

/-! # Command line

Reads the files and the environment that an invocation needs, runs it, and prints what it leaves
behind. -/

namespace PrintSettings.Command

/-- The number of a system error; opening a file reports it with its sign turned. -/
def systemError (code : UInt32) : UInt32 := if code < 0x80000000 then code else 0 - code

/-- Why a file could not be read. -/
def readFault (e : IO.Error) : ReadFault :=
  match e with
  | .noFileOrDirectory .. => .notFound
  | .inappropriateType _ code _ => if systemError code = 20 then .notDirectory else .isDirectory
  | .invalidArgument _ code _ => if systemError code = 36 then .nameTooLong else .other (toString e)
  | .permissionDenied .. => .other "Permission denied (os error 13)"
  | _ => .other (toString e)

def readFile (path : String) : IO Contents := do
  try return .ok (← IO.FS.readBinFile path)
  catch e => return .error (readFault e)

/-- The variables of this process in their order; there are none if they cannot be read. -/
def readEnvironment : IO (List Variable) := do
  match ← readFile "/proc/self/environ" with
  | .ok block => return Variable.ofBlock block
  | .error _ => return []

/-- Reads the files that an invocation names. -/
def readFiles (i : Invocation) : IO (String → Contents) := do
  let paths := i.definitions.toList ++ i.settings.toList
  let files ← paths.mapM fun path => do return (path, ← readFile path)
  return fun path => (files.lookup path).getD (.error .notFound)

def runInvocation (i : Invocation) : IO UInt32 := do
  let (notice, report) := session (← readFiles i) (← readEnvironment) i
  if let some text := notice then IO.eprintln text
  IO.print report.output
  if let some failure := report.failure then IO.eprintln failure
  return .ofNat report.exitCode

end PrintSettings.Command

/-- The status for arguments that do not fit is two. -/
def main (arguments : List String) : IO UInt32 := do
  match PrintSettings.Command.Invocation.ofArguments? arguments with
  | some i => PrintSettings.Command.runInvocation i
  | none =>
    IO.eprintln "error: these arguments do not fit"
    return 2
