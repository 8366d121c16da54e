import ScriptLang.Ty

/-!
What is known statically of variables and functions.
-/

namespace ScriptLang

/-- A declared variable.  For a list, `ty` is the type of its elements. -/
structure Variable where
  name : String
  qualifiedName : String
  ty : Ty
  mutable : Bool
  isList : Bool
  deriving DecidableEq, Inhabited, Repr

def Variable.plain (name : String) (ty : Ty) (mutable isList : Bool) : Variable :=
  { name := name
    qualifiedName := name
    ty := ty
    mutable := mutable
    isList := isList }

structure Signature where
  name : String
  qualifiedName : String
  parameterTypes : List Ty
  returnType : Ty
  deriving DecidableEq, Inhabited, Repr

namespace Signature

def plain (name : String) (parameterTypes : List Ty) (returnType : Ty) : Signature :=
  { name := name
    qualifiedName := name
    parameterTypes := parameterTypes
    returnType := returnType }

def arity (s : Signature) : Nat :=
  s.parameterTypes.length

/-- Functions are found by name and number of parameters. -/
def key (s : Signature) : String × Nat :=
  (s.name, s.arity)

end Signature

/-- What stands behind a function: a built-in, a declaration, or nothing yet. -/
inductive CalleeKind where
  | native
  | user
  | signature
  deriving DecidableEq, Inhabited, Repr

def CalleeKind.name : CalleeKind → String
  | .native => "native"
  | .user => "user"
  | .signature => "signature"

structure Callee where
  signature : Signature
  kind : CalleeKind
  deriving DecidableEq, Inhabited, Repr

def Callee.describe (c : Callee) : String :=
  "Function \x7b name: " ++ Text.quoted c.signature.name
    ++ ", qualified_name: " ++ Text.quoted c.signature.qualifiedName
    ++ ", parameter_types: [" ++ String.intercalate ", " (c.signature.parameterTypes.map Ty.name)
    ++ "], return_type: " ++ c.signature.returnType.name
    ++ ", body: " ++ Text.quoted c.kind.name ++ " \x7d"

end ScriptLang
