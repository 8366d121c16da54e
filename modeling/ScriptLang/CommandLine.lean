import ScriptLang.Error.Report
import ScriptLang.Program

/-!
The command line.

The program takes the path of a source file, which it runs, or checks only when told so.  What
it writes and the status it exits with depend on its arguments and the file alone.
-/

namespace ScriptLang

inductive Command where
  | run (path : String)
  | check (path : String)
  deriving DecidableEq, Repr

/-- What the program leaves behind; the status is a byte. -/
structure Reply where
  status : Nat
  stdout : String
  stderr : String
  deriving DecidableEq, Repr

namespace Command

def ofArguments? : List String → Option Command
  | [path] => if path == "--check" then none else some (run path)
  | [flag, path] => if flag == "--check" then some (check path) else none
  | _ => none

def path : Command → String
  | run path => path
  | check path => path

end Command

/-- The steps of a path, without the empty ones and those that stay in place. -/
def pathSteps (path : String) : List String :=
  (path.splitOn "/").filter fun step => step != "" && step != "."

/-- The name of the file at a path; the path itself when it ends in no name. -/
def fileName (path : String) : String :=
  match (pathSteps path).getLast? with
  | none => path
  | some last => if last == ".." then path else last

namespace Reply

def usage : Reply :=
  { status := 1, stdout := "", stderr := "Usage: plc [--check] <file>\n" }

def unreadable (path reason : String) : Reply :=
  { status := 1
    stdout := ""
    stderr := "Error: could not read " ++ path ++ ": " ++ reason ++ "\n" }

/-- The exit status of a value: an Integer of 32 bits modulo 256, and zero for all else. -/
def statusOf : Value → Nat
  | .integer value =>
      if -2147483648 ≤ value ∧ value ≤ 2147483647 then (value % 256).toNat else 0
  | _ => 0

def ofError (error : Error) (content path printed : String) : Reply :=
  { status := 1, stdout := printed, stderr := error.report content path }

def ofCheck (content path : String) : Reply :=
  match Program.check content (fileName path) with
  | .ok _ => { status := 0, stdout := "", stderr := "" }
  | .error error => ofError error content path ""

def ofRun (content path : String) : Reply :=
  match Program.run content (fileName path) Program.ampleFuel .unlimited with
  | (.value value, sink) => { status := statusOf value, stdout := sink.text, stderr := "" }
  | (.failure error, sink) => ofError error content path sink.text
  | (.outOfFuel, sink) => { status := 1, stdout := sink.text, stderr := "" }

end Reply

def Command.reply (command : Command) (content : Except String String) : Reply :=
  match content with
  | .error reason => .unreadable command.path reason
  | .ok content =>
      match command with
      | .check path => .ofCheck content path
      | .run path => .ofRun content path

end ScriptLang
