import ScriptLang.Decimal.Basic
import ScriptLang.Signature
import ScriptLang.Token.Basic

/-!
Syntax trees.

A tree is read without decorations.  Checking gives every expression its type, every access
its variable and every call its function, in slots that are empty before.
-/

namespace ScriptLang

inductive Literal where
  | nil
  | boolean (value : Bool)
  | character (value : Char)
  | string (value : String)
  | integer (value : Int)
  | decimal (value : Decimal)
  deriving DecidableEq, Inhabited, Repr

inductive BinaryOp where
  | and
  | or
  | less
  | greater
  | equals
  | notEquals
  | add
  | subtract
  | multiply
  | divide
  | power
  deriving DecidableEq, Inhabited, Repr

namespace BinaryOp

def ofKind? : Kind → Option BinaryOp
  | .and => some and
  | .or => some or
  | .less => some less
  | .greater => some greater
  | .equals => some equals
  | .notEquals => some notEquals
  | .plus => some add
  | .dash => some subtract
  | .star => some multiply
  | .slash => some divide
  | .caret => some power
  | _ => none

def symbol : BinaryOp → String
  | and => "&&"
  | or => "||"
  | less => "<"
  | greater => ">"
  | equals => "=="
  | notEquals => "!="
  | add => "+"
  | subtract => "-"
  | multiply => "*"
  | divide => "/"
  | power => "^"

def all : List BinaryOp :=
  [and, or, less, greater, equals, notEquals, add, subtract, multiply, divide, power]

def ofSymbol? (symbol : String) : Option BinaryOp :=
  all.find? fun op => op.symbol == symbol

end BinaryOp

/-- Expressions.  The type of a list is the type of its elements. -/
inductive Expr where
  | literal (value : Literal) (span : Span) (ty : Option Ty)
  | group (inner : Expr) (span : Span) (ty : Option Ty)
  | binary (op : BinaryOp) (left right : Expr) (span : Span) (ty : Option Ty)
  | access (name : String) (span : Span) (ty : Option Ty) (target : Option Variable)
  | element (name : String) (index : Expr) (span : Span) (ty : Option Ty)
      (target : Option Variable)
  | call (name : String) (arguments : List Expr) (span : Span) (ty : Option Ty)
      (callee : Option Callee)
  | list (elements : List Expr) (span : Span) (ty : Option Ty)
  deriving Inhabited

namespace Expr

def span : Expr → Span
  | literal _ span _ => span
  | group _ span _ => span
  | binary _ _ _ span _ => span
  | access _ span _ _ => span
  | element _ _ span _ _ => span
  | call _ _ span _ _ => span
  | list _ span _ => span

def ty? : Expr → Option Ty
  | literal _ _ ty => ty
  | group _ _ ty => ty
  | binary _ _ _ _ ty => ty
  | access _ _ ty _ => ty
  | element _ _ _ ty _ => ty
  | call _ _ _ ty _ => ty
  | list _ _ ty => ty

def start (e : Expr) : Nat :=
  e.span.start

end Expr

mutual

inductive Stmt where
  | expression (value : Expr) (span : Span)
  | declaration (name : String) (typeName : Option String) (value : Option Expr) (span : Span)
      (target : Option Variable)
  | assignment (receiver value : Expr) (span : Span)
  | conditional (condition : Expr) (thenBlock elseBlock : List Stmt) (span : Span)
  | switch (condition : Expr) (cases : List Case) (span : Span)
  | loop (condition : Expr) (body : List Stmt) (span : Span)
  | result (value : Expr) (span : Span)

/-- One case of a switch; the default case has no value. -/
inductive Case where
  | mk (value : Option Expr) (body : List Stmt) (span : Span)

end

instance : Inhabited Stmt := ⟨.expression default default⟩

instance : Inhabited Case := ⟨.mk none [] default⟩

namespace Stmt

def span : Stmt → Span
  | expression _ span => span
  | declaration _ _ _ span _ => span
  | assignment _ _ span => span
  | conditional _ _ _ span => span
  | switch _ _ span => span
  | loop _ _ span => span
  | result _ span => span

end Stmt

namespace Case

def value : Case → Option Expr
  | mk value _ _ => value

def body : Case → List Stmt
  | mk _ body _ => body

def span : Case → Span
  | mk _ _ span => span

end Case

structure GlobalDecl where
  name : String
  mutable : Bool
  isList : Bool
  typeName : Option String
  value : Option Expr
  span : Span
  target : Option Variable
  deriving Inhabited

structure Parameter where
  name : String
  typeName : String
  deriving DecidableEq, Inhabited, Repr

structure FunctionDecl where
  name : String
  parameters : List Parameter
  returnTypeName : Option String
  body : List Stmt
  span : Span
  callee : Option Callee
  deriving Inhabited

def FunctionDecl.arity (f : FunctionDecl) : Nat :=
  f.parameters.length

structure Source where
  globals : List GlobalDecl
  functions : List FunctionDecl
  span : Span
  deriving Inhabited

end ScriptLang
