import ScriptLang.Decimal.Order
import ScriptLang.Tree.Basic

/-!
Runtime values, their order and equality, and their displayed form.
-/

namespace ScriptLang

/-- Runtime values.  A function value refers to one function object by its identity. -/
inductive Value where
  | nil
  | boolean (value : Bool)
  | character (value : Char)
  | string (value : String)
  | integer (value : Int)
  | decimal (value : Decimal)
  | list (elements : List Value)
  | function (identity : Nat) (name : String) (arity : Nat)
  deriving Inhabited

namespace Value

def ofLiteral : Literal → Value
  | .nil => nil
  | .boolean value => boolean value
  | .character value => character value
  | .string value => string value
  | .integer value => integer value
  | .decimal value => decimal value

def className : Value → String
  | nil => "Nil"
  | boolean _ => "Boolean"
  | character _ => "Character"
  | string _ => "String"
  | integer _ => "Integer"
  | decimal _ => "Decimal"
  | list _ => "List"
  | function _ _ _ => "Function"

/-- The order of texts by code points, a proper beginning before what it begins. -/
def orderChars : List Char → List Char → Ordering
  | [], [] => .eq
  | [], _ :: _ => .lt
  | _ :: _, [] => .gt
  | a :: as, b :: bs => (compare a.toNat b.toNat).then (orderChars as bs)

/-- The natural order of two values of one comparable class.  Booleans, lists and functions
have none, and neither have values of different classes. -/
def order? : Value → Value → Option Ordering
  | nil, nil => some .eq
  | character a, character b => some (compare a.toNat b.toNat)
  | string a, string b => some (orderChars a.toList b.toList)
  | integer a, integer b => some (compare a b)
  | decimal a, decimal b => some (a.order b)
  | _, _ => none

mutual

/-- Equality of values: booleans by truth, lists element by element, functions by identity,
everything else by the natural order. -/
def equals : Value → Value → Bool
  | boolean a, boolean b => a == b
  | list as, list bs => equalsAll as bs
  | function a _ _, function b _ _ => a == b
  | a, b => a.order? b == some .eq

def equalsAll : List Value → List Value → Bool
  | [], [] => true
  | a :: as, b :: bs => a.equals b && equalsAll as bs
  | _, _ => false

end

mutual

/-- The displayed form of a value, in the pieces in which it is written.  The sign of a
negative integer is a piece of its own. -/
def pieces : Value → List String
  | nil => ["NIL"]
  | boolean value => [if value then "true" else "false"]
  | character value => [value.toString]
  | string value => [value]
  | integer value =>
      if value < 0 then ["-", toString value.natAbs] else [toString value.natAbs]
  | decimal value => [value.plain]
  | list elements => "[" :: elementPieces elements
  | function _ name arity => ["<fun ", name, "/", toString arity, ">"]

def elementPieces : List Value → List String
  | [] => ["]"]
  | first :: others => first.pieces ++ otherPieces others

def otherPieces : List Value → List String
  | [] => ["]"]
  | next :: others => ", " :: next.pieces ++ otherPieces others

end

def display (v : Value) : String :=
  String.join v.pieces

end Value
end ScriptLang
