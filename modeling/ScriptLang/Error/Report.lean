import ScriptLang.Error.Basic
import ScriptLang.Text.Blank
import ScriptLang.Text.Line

/-!
Error reports.

A report names the error and the file, and shows the line with a caret under the place:

    Error: UnexpectedToken (Unexpected token: `;`, did you miss a semicolon?)
    -> main
      |
    1 | VAR a = ;
      | --------^
-/

namespace ScriptLang

open Text (Place)

def Cause.headline (cause : Cause) : String :=
  match cause.tip with
  | none => "Error: " ++ cause.name
  | some tip => "Error: " ++ cause.name ++ " (" ++ tip ++ ")"

namespace Report

def indentation (line : List Char) : List Char :=
  line.takeWhile fun c => c == ' ' || c == '\t'

def bar (number : Nat) : String :=
  String.ofList (List.replicate ((toString number).length + 1) ' ') ++ "|"

def shownLine (place : Place) : String :=
  toString place.number ++ " | "
    ++ String.ofList (Text.trimEnd (place.line.drop (indentation place.line).length))

def caretLine (place : Place) : String :=
  bar place.number ++ " "
    ++ String.ofList (List.replicate (place.column - (indentation place.line).length) '-')
    ++ "^"

def excerpt (place : Place) : List String :=
  [bar place.number, shownLine place, caretLine place]

def reportLines (error : Error) (content path : String) : List String :=
  [error.cause.headline, "-> " ++ path]
    ++ ((Text.placeAt content.toList error.position.offset).map excerpt).getD []

end Report

def Error.report (error : Error) (content path : String) : String :=
  String.join ((Report.reportLines error content path).map (· ++ "\n"))

end ScriptLang
