import ScriptLang.Decimal.Numeral
import ScriptLang.Parse.Cursor
import ScriptLang.Tree.Basic

/-!
Reading expressions.

An operand is followed by operators that bind tighter than the place it stands in; the right
side of an operator is read at the operator's own power, so operators of one power group to
the left.
-/

namespace ScriptLang

inductive Power where
  | default
  | logical
  | relational
  | additive
  | multiplicative
  | primary
  deriving DecidableEq, Inhabited, Repr

namespace Power

def rank : Power → Nat
  | default => 0
  | logical => 1
  | relational => 2
  | additive => 3
  | multiplicative => 4
  | primary => 5

def name : Power → String
  | default => "Default"
  | logical => "Logical"
  | relational => "Relational"
  | additive => "Additive"
  | multiplicative => "Multiplicative"
  | primary => "Primary"

def all : List Power :=
  [default, logical, relational, additive, multiplicative, primary]

def ofName? (name : String) : Option Power :=
  all.find? fun power => power.name == name

def ofOp : BinaryOp → Power
  | .and | .or => logical
  | .less | .greater | .equals | .notEquals => relational
  | .add | .subtract => additive
  | .multiply | .divide | .power => multiplicative

/-- The power of a token behind an operand; only operators have more than the default. -/
def ofKind (kind : Kind) : Power :=
  match BinaryOp.ofKind? kind with
  | some op => ofOp op
  | none => default

end Power

namespace Parse

def literalOf (token : Token) : Except Fault Literal :=
  let badNumber : Fault :=
    { cause := .numberParseError token.value, offset := token.span.start }
  match token.kind with
  | .integer =>
      match Numeral.integer? token.value.toList with
      | some value => .ok (.integer value)
      | none => .error badNumber
  | .decimal =>
      match Numeral.decimal? token.value.toList with
      | some value => .ok (.decimal value)
      | none => .error badNumber
  | .character =>
      match token.value.toList with
      | [value] => .ok (.character value)
      | _ => .error (unexpectedFault token)
  | .string => .ok (.string token.value)
  | .trueWord => .ok (.boolean true)
  | .falseWord => .ok (.boolean false)
  | .nilWord => .ok .nil
  | _ => .error (unexpectedFault token)

/-- A constant.  A token that is none is not passed. -/
def primary : Parse Expr := do
  let token ← currentToken
  match literalOf token with
  | .error fault => throw fault
  | .ok value =>
      let _ ← advance
      return .literal value token.span none

mutual

/-- An expression whose operators all bind tighter than `power`. -/
def expressionWithin : Nat → Power → Parse Expr
  | 0, _ => unexpected
  | fuel + 1, power => do
      let left ← operandWithin fuel
      operatorsWithin fuel power left

/-- Extends a left side by the operators that follow and bind tighter than `power`. -/
def operatorsWithin : Nat → Power → Expr → Parse Expr
  | 0, _, _ => unexpected
  | fuel + 1, power, left => do
      let next := Power.ofKind (← currentKind)
      if next.rank ≤ power.rank then
        return left
      else
        let extended ← binaryWithin fuel left next
        operatorsWithin fuel power extended

def binaryWithin : Nat → Expr → Power → Parse Expr
  | 0, _, _ => unexpected
  | fuel + 1, left, power => do
      let token ← advance
      match BinaryOp.ofKind? token.kind with
      | none => throw (unexpectedFault token)
      | some op =>
          let right ← expressionWithin fuel power
          let span : Span := { start := left.span.start, stop := right.span.stop }
          return .binary op left right span none

def operandWithin : Nat → Parse Expr
  | 0 => unexpected
  | fuel + 1 => do
      match ← currentKind with
      | .integer | .decimal | .character | .string | .trueWord | .falseWord | .nilWord => primary
      | .identifier => symbolWithin fuel
      | .openParen => groupWithin fuel
      | _ => unexpected

def symbolWithin : Nat → Parse Expr
  | 0 => unexpected
  | fuel + 1 => do
      let name ← expect .identifier
      match ← currentKind with
      | .openParen =>
          let _ ← advance
          let arguments ← itemsWithin fuel .closeParen
          let _ ← expect .closeParen
          return .call name.value arguments (← spanFrom name.span.start) none none
      | .openBracket =>
          let _ ← advance
          let index ← expressionWithin fuel .default
          let _ ← expect .closeBracket
          return .element name.value index (← spanFrom name.span.start) none none
      | _ => return .access name.value name.span none none

def groupWithin : Nat → Parse Expr
  | 0 => unexpected
  | fuel + 1 => do
      let opening ← expect .openParen
      let inner ← expressionWithin fuel .default
      let _ ← expect .closeParen
      return .group inner (← spanFrom opening.span.start) none

/-- The expressions before a closing bracket, separated by commas; there may be none. -/
def itemsWithin : Nat → Kind → Parse (List Expr)
  | 0, _ => unexpected
  | fuel + 1, closing => do
      if (← currentKind) = closing then
        return []
      else
        let first ← expressionWithin fuel .default
        let others ← moreItemsWithin fuel
        return first :: others

def moreItemsWithin : Nat → Parse (List Expr)
  | 0 => unexpected
  | fuel + 1 => do
      if (← currentKind) = .comma then
        let _ ← advance
        let first ← expressionWithin fuel .default
        let others ← moreItemsWithin fuel
        return first :: others
      else
        return []

end

/-- A list in brackets; only a list declaration has one. -/
def listWithin (fuel : Nat) : Parse Expr := do
  let opening ← expect .openBracket
  let elements ← itemsWithin fuel .closeBracket
  let _ ← expect .closeBracket
  return .list elements (← spanFrom opening.span.start) none

/-! ### Readers that bring their own fuel -/

def expression (power : Power) : Parse Expr :=
  fuelled fun fuel => expressionWithin fuel power

def binary (left : Expr) (power : Power) : Parse Expr :=
  fuelled fun fuel => binaryWithin fuel left power

def symbol : Parse Expr :=
  fuelled symbolWithin

def group : Parse Expr :=
  fuelled groupWithin

def list : Parse Expr :=
  fuelled listWithin

end Parse
end ScriptLang
