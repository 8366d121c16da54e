import ScriptLang.Signature

/-!
The functions that every program may call.
-/

namespace ScriptLang

inductive Builtin where
  | print
  | logarithm
  | converter
  deriving DecidableEq, Inhabited, Repr

namespace Builtin

def name : Builtin → String
  | print => "print"
  | logarithm => "logarithm"
  | converter => "converter"

def all : List Builtin :=
  [print, logarithm, converter]

def ofName? (name : String) : Option Builtin :=
  all.find? fun builtin => builtin.name == name

def parameterTypes : Builtin → List Ty
  | print => [.any]
  | logarithm => [.decimal]
  | converter => [.integer, .integer]

def returnType : Builtin → Ty
  | print => .nil
  | logarithm => .decimal
  | converter => .string

def signature (builtin : Builtin) : Signature :=
  { name := builtin.name
    qualifiedName := "builtin::" ++ builtin.name
    parameterTypes := builtin.parameterTypes
    returnType := builtin.returnType }

def callee (builtin : Builtin) : Callee :=
  { signature := builtin.signature, kind := .native }

end Builtin
end ScriptLang
