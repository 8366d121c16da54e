import ScriptLang.Builtin
import ScriptLang.Decimal.Double
import ScriptLang.Sink
import ScriptLang.Text.Radix
import ScriptLang.Value

/-!
What the built-in functions do.
-/

namespace ScriptLang
namespace Builtin

def badArgument {α : Type} (builtin : Builtin) (message : String) : Except Cause α :=
  .error (.invalidArgument builtin.name message)

def logarithmOf : List Value → Except Cause Value
  | [.decimal value] =>
      if value.digits ≤ 0 then
        logarithm.badArgument "argument must be positive"
      else
        match value.logarithm? with
        | some result => .ok (.decimal result)
        | none => logarithm.badArgument "argument is out of range"
  | _ => logarithm.badArgument "expected one Decimal"

def converted : List Value → Except Cause Value
  | [.integer value, .integer radix] =>
      if 2 ≤ radix ∧ radix ≤ 36 then
        .ok (.string (Text.inRadix value radix.toNat))
      else
        converter.badArgument ("radix " ++ toString radix ++ " is not between 2 and 36")
  | _ => converter.badArgument "expected two Integers"

def printed (arguments : List Value) (sink : Sink) : Except Cause Value × Sink :=
  match arguments with
  | [value] =>
      match sink.write (value.pieces ++ ["\n"]) with
      | (none, sink) => (.ok .nil, sink)
      | (some message, sink) => (.error (.outputError message), sink)
  | _ => (print.badArgument "expected one argument", sink)

def apply (builtin : Builtin) (arguments : List Value) (sink : Sink) :
    Except Cause Value × Sink :=
  match builtin with
  | print => printed arguments sink
  | logarithm => (logarithmOf arguments, sink)
  | converter => (converted arguments, sink)

end Builtin
end ScriptLang
