import ScriptLang.CommandLine

/-!
The executable: reads the file that the command names, and writes the reply.
-/

namespace ScriptLang

/-- The number of a system error, which some operations of the runtime report negated. -/
def errorNumber (code : UInt32) : UInt32 :=
  if code < 0x80000000 then code else 0 - code

def systemError (what : String) (code : UInt32) : String :=
  what ++ " (os error " ++ toString (errorNumber code) ++ ")"

def readFailure : IO.Error → String
  | .noFileOrDirectory _ code _ => systemError "No such file or directory" code
  | .permissionDenied _ code _ => systemError "Permission denied" code
  | .inappropriateType _ code _ =>
      systemError (if errorNumber code = 20 then "Not a directory" else "Is a directory") code
  | other => toString other

def readContent (path : String) : IO (Except String String) := do
  try
    let bytes ← IO.FS.readBinFile path
    match String.fromUTF8? bytes with
    | some content => return .ok content
    | none => return .error "stream did not contain valid UTF-8"
  catch error =>
    return .error (readFailure error)

def answer (arguments : List String) : IO Reply := do
  match Command.ofArguments? arguments with
  | none => return .usage
  | some command => return command.reply (← readContent command.path)

end ScriptLang

open ScriptLang in
def main (arguments : List String) : IO UInt32 := do
  let reply ← answer arguments
  (← IO.getStdout).putStr reply.stdout
  (← IO.getStderr).putStr reply.stderr
  return reply.status.toUInt32
