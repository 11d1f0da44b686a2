import AlarmScheduler.CommandLine

namespace AlarmScheduler

/-- The system's number of an error may come negated. -/
def errorNumber (code : UInt32) : UInt32 := min code (0 - code)

def readErrorOf (e : IO.Error) : ReadError :=
  match e with
  | .noFileOrDirectory .. => .notFound
  | .permissionDenied .. => .permissionDenied
  | .inappropriateType _ code _ =>
    if errorNumber code = 20 then .notDirectory
    else if errorNumber code = 21 then .isDirectory
    else .refused (toString e)
  | .invalidArgument _ code _ =>
    if errorNumber code = 36 then .nameTooLong else .refused (toString e)
  | _ => .refused (toString e)

def readPath (path : String) : IO (Except ReadError String) := do
  if '\x00' ∈ path.toList then
    return .error .nulInPath
  try
    return textOf (← IO.FS.readBinFile path)
  catch e =>
    return .error (readErrorOf e)

def runArgs (args : List String) : IO Answer := do
  match (Invocation.ofArgs args).path? with
  | none => return execute (fun _ => .error .notFound) args
  | some path =>
    let content ← readPath path
    return execute (fun _ => content) args

end AlarmScheduler

def main (args : List String) : IO Unit := do
  let answer ← AlarmScheduler.runArgs args
  IO.print answer.printed
