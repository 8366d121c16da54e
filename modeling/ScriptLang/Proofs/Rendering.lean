import ScriptLang.Proofs.DisplayedNumbers
import ScriptLang.Proofs.Spelled
import ScriptLang.Proofs.Words

/-!
Writing trees.

A tree is written as the words of its nodes in their order, with blanks between them.  A tree
is canonical when it has no decorations and the shape that the grammar describes: what its
words say is then the whole tree, up to the places of its nodes.
-/

namespace ScriptLang

/-! ### Trees up to the places of their nodes -/

def Span.none : Span :=
  { start := 0, stop := 0 }

mutual

/-- The expression with all of its nodes at the same place. -/
def Expr.withoutSpans : Expr → Expr
  | .literal value _ ty => .literal value .none ty
  | .group inner _ ty => .group inner.withoutSpans .none ty
  | .binary op left right _ ty => .binary op left.withoutSpans right.withoutSpans .none ty
  | .access name _ ty target => .access name .none ty target
  | .element name index _ ty target => .element name index.withoutSpans .none ty target
  | .call name arguments _ ty callee => .call name (allWithoutSpans arguments) .none ty callee
  | .list elements _ ty => .list (allWithoutSpans elements) .none ty

def allWithoutSpans : List Expr → List Expr
  | [] => []
  | first :: rest => first.withoutSpans :: allWithoutSpans rest

end

mutual

def Stmt.withoutSpans : Stmt → Stmt
  | .expression value _ => .expression value.withoutSpans .none
  | .declaration name typeName value _ target =>
      .declaration name typeName (value.map Expr.withoutSpans) .none target
  | .assignment receiver value _ =>
      .assignment receiver.withoutSpans value.withoutSpans .none
  | .conditional condition thenBlock elseBlock _ =>
      .conditional condition.withoutSpans (blockWithoutSpans thenBlock)
        (blockWithoutSpans elseBlock) .none
  | .switch condition cases _ =>
      .switch condition.withoutSpans (casesWithoutSpans cases) .none
  | .loop condition body _ => .loop condition.withoutSpans (blockWithoutSpans body) .none
  | .result value _ => .result value.withoutSpans .none

def blockWithoutSpans : List Stmt → List Stmt
  | [] => []
  | first :: rest => first.withoutSpans :: blockWithoutSpans rest

def casesWithoutSpans : List Case → List Case
  | [] => []
  | .mk value body _ :: rest =>
      .mk (value.map Expr.withoutSpans) (blockWithoutSpans body) .none ::
        casesWithoutSpans rest

end

def GlobalDecl.withoutSpans (global : GlobalDecl) : GlobalDecl :=
  { global with value := global.value.map Expr.withoutSpans, span := .none }

def FunctionDecl.withoutSpans (function : FunctionDecl) : FunctionDecl :=
  { function with body := blockWithoutSpans function.body, span := .none }

def Source.withoutSpans (source : Source) : Source :=
  { globals := source.globals.map GlobalDecl.withoutSpans
    functions := source.functions.map FunctionDecl.withoutSpans
    span := .none }

/-! ### Trees as words -/

def BinaryOp.kind : BinaryOp → Kind
  | and => .and
  | or => .or
  | less => .less
  | greater => .greater
  | equals => .equals
  | notEquals => .notEquals
  | add => .plus
  | subtract => .dash
  | multiply => .star
  | divide => .slash
  | power => .caret

theorem BinaryOp.ofKind?_kind (op : BinaryOp) : BinaryOp.ofKind? op.kind = some op := by
  cases op <;> rfl

def Word.name (name : String) : Word :=
  { kind := .identifier, value := name }

def Literal.word : Literal → Word
  | .nil => .fixed .nilWord
  | .boolean true => .fixed .trueWord
  | .boolean false => .fixed .falseWord
  | .character value => { kind := .character, value := value.toString }
  | .string value => { kind := .string, value := value }
  | .integer value => { kind := .integer, value := (Value.integer value).display }
  | .decimal value => { kind := .decimal, value := (Value.decimal value).display }

mutual

def Expr.words : Expr → List Word
  | .literal value _ _ => [value.word]
  | .group inner _ _ => .fixed .openParen :: (inner.words ++ [.fixed .closeParen])
  | .binary op left right _ _ => left.words ++ .fixed op.kind :: right.words
  | .access name _ _ _ => [.name name]
  | .element name index _ _ _ =>
      .name name :: .fixed .openBracket :: (index.words ++ [.fixed .closeBracket])
  | .call name arguments _ _ _ =>
      .name name :: .fixed .openParen :: (itemWords arguments ++ [.fixed .closeParen])
  | .list elements _ _ =>
      .fixed .openBracket :: (itemWords elements ++ [.fixed .closeBracket])

def itemWords : List Expr → List Word
  | [] => []
  | first :: rest => first.words ++ moreItemWords rest

def moreItemWords : List Expr → List Word
  | [] => []
  | first :: rest => .fixed .comma :: (first.words ++ moreItemWords rest)

end

def typeWords : Option String → List Word
  | none => []
  | some typeName => [.fixed .colon, .name typeName]

def initializerWords : Option Expr → List Word
  | none => []
  | some value => .fixed .assignment :: value.words

mutual

def Stmt.words : Stmt → List Word
  | .expression value _ => value.words ++ [.fixed .semicolon]
  | .declaration name typeName value _ _ =>
      .fixed .letWord :: .name name ::
        (typeWords typeName ++ (initializerWords value ++ [.fixed .semicolon]))
  | .assignment receiver value _ =>
      receiver.words ++ .fixed .assignment :: (value.words ++ [.fixed .semicolon])
  | .conditional condition thenBlock elseBlock _ =>
      .fixed .ifWord ::
        (condition.words ++ .fixed .doWord ::
          (blockWords thenBlock ++ (alternativeWords elseBlock ++ [.fixed .endWord])))
  | .switch condition cases _ =>
      .fixed .switchWord :: (condition.words ++ (caseWords cases ++ [.fixed .endWord]))
  | .loop condition body _ =>
      .fixed .whileWord ::
        (condition.words ++ .fixed .doWord :: (blockWords body ++ [.fixed .endWord]))
  | .result value _ => .fixed .returnWord :: (value.words ++ [.fixed .semicolon])

def blockWords : List Stmt → List Word
  | [] => []
  | first :: rest => first.words ++ blockWords rest

/-- An empty block leaves no `ELSE`. -/
def alternativeWords : List Stmt → List Word
  | [] => []
  | first :: rest => .fixed .elseWord :: (first.words ++ blockWords rest)

def caseWords : List Case → List Word
  | [] => []
  | .mk none body _ :: rest => .fixed .defaultWord :: blockWords body ++ caseWords rest
  | .mk (some value) body _ :: rest =>
      .fixed .caseWord :: (value.words ++ .fixed .colon :: blockWords body) ++ caseWords rest

end

def GlobalDecl.opening (global : GlobalDecl) : Kind :=
  if global.isList then .listWord else if global.mutable then .varWord else .valWord

def GlobalDecl.words (global : GlobalDecl) : List Word :=
  .fixed global.opening :: .name global.name ::
    (typeWords global.typeName ++ initializerWords global.value ++ [.fixed .semicolon])

def Parameter.words (parameter : Parameter) : List Word :=
  [.name parameter.name, .fixed .colon, .name parameter.typeName]

def parameterWords : List Parameter → List Word
  | [] => []
  | first :: rest =>
      first.words ++ rest.flatMap fun parameter => .fixed .comma :: parameter.words

def FunctionDecl.words (function : FunctionDecl) : List Word :=
  .fixed .funWord :: .name function.name :: .fixed .openParen ::
    (parameterWords function.parameters ++ .fixed .closeParen ::
      (typeWords function.returnTypeName ++ .fixed .doWord ::
        (blockWords function.body ++ [.fixed .endWord])))

def Source.words (source : Source) : List Word :=
  source.globals.flatMap GlobalDecl.words ++ source.functions.flatMap FunctionDecl.words

/-- The text of a tree, with the given blanks behind its words. -/
def Source.render (source : Source) (spacing : Spacing) : String :=
  String.ofList (spacing.write 0 source.words)

/-! ### Trees of the shape that the grammar describes -/

/-- Numbers have no sign; a decimal has a place behind its point, and a scale is a 64-bit word. -/
def Literal.Canonical : Literal → Prop
  | .integer value => 0 ≤ value
  | .decimal value =>
      0 ≤ value.digits ∧ 1 ≤ value.scale ∧ Numeral.isScale value.scale = true
  | _ => True

mutual

/-- An expression without decorations and without list literals whose operators, outside of all
brackets, bind tighter than the bound.  On the left of an operator others may bind as tightly,
on its right only more tightly; brackets admit every operator again. -/
def Expr.Canonical : Nat → Expr → Prop
  | _, .literal value _ ty => value.Canonical ∧ ty = none
  | _, .group inner _ ty => inner.Canonical 0 ∧ ty = none
  | bound, .binary op left right _ ty =>
      bound < op.rank ∧ left.Canonical (op.rank - 1) ∧ right.Canonical op.rank ∧ ty = none
  | _, .access name _ ty target => IsName name ∧ ty = none ∧ target = none
  | _, .element name index _ ty target =>
      IsName name ∧ index.Canonical 0 ∧ ty = none ∧ target = none
  | _, .call name arguments _ ty callee =>
      IsName name ∧ AllCanonical arguments ∧ ty = none ∧ callee = none
  | _, .list _ _ _ => False

def AllCanonical : List Expr → Prop
  | [] => True
  | first :: rest => first.Canonical 0 ∧ AllCanonical rest

end

def OptionName (typeName : Option String) : Prop :=
  ∀ name, typeName = some name → IsName name

def OptionCanonical (value : Option Expr) : Prop :=
  ∀ e, value = some e → e.Canonical 0

mutual

def Stmt.Canonical : Stmt → Prop
  | .expression value _ => value.Canonical 0
  | .declaration name typeName value _ target =>
      IsName name ∧ OptionName typeName ∧ OptionCanonical value ∧ target = none
  | .assignment receiver value _ => receiver.Canonical 0 ∧ value.Canonical 0
  | .conditional condition thenBlock elseBlock _ =>
      condition.Canonical 0 ∧ BlockCanonical thenBlock ∧ BlockCanonical elseBlock
  | .switch condition cases _ => condition.Canonical 0 ∧ CasesCanonical cases
  | .loop condition body _ => condition.Canonical 0 ∧ BlockCanonical body
  | .result value _ => value.Canonical 0

def BlockCanonical : List Stmt → Prop
  | [] => True
  | first :: rest => first.Canonical ∧ BlockCanonical rest

/-- The last case, and no other one, is a default case. -/
def CasesCanonical : List Case → Prop
  | [] => False
  | .mk none body _ :: rest => BlockCanonical body ∧ rest = []
  | .mk (some value) body _ :: rest =>
      value.Canonical 0 ∧ BlockCanonical body ∧ CasesCanonical rest

end

/-- A list has a type and a list literal, and may change; a variable may change and may lack a
type and a value; a constant has a value. -/
inductive GlobalDecl.Canonical : GlobalDecl → Prop where
  | list {name typeName : String} {elements : List Expr} {listSpan span : Span}
      (isName : IsName name) (isType : IsName typeName) (each : AllCanonical elements) :
      Canonical
        { name := name
          mutable := true
          isList := true
          typeName := some typeName
          value := some (.list elements listSpan none)
          span := span
          target := none }
  | mutable {name : String} {typeName : Option String} {value : Option Expr} {span : Span}
      (isName : IsName name) (isType : OptionName typeName)
      (initial : OptionCanonical value) :
      Canonical
        { name := name
          mutable := true
          isList := false
          typeName := typeName
          value := value
          span := span
          target := none }
  | immutable {name : String} {typeName : Option String} {value : Expr} {span : Span}
      (isName : IsName name) (isType : OptionName typeName) (initial : value.Canonical 0) :
      Canonical
        { name := name
          mutable := false
          isList := false
          typeName := typeName
          value := some value
          span := span
          target := none }

structure Parameter.Canonical (parameter : Parameter) : Prop where
  isName : IsName parameter.name
  isType : IsName parameter.typeName

structure FunctionDecl.Canonical (function : FunctionDecl) : Prop where
  isName : IsName function.name
  parameters : ∀ parameter ∈ function.parameters, parameter.Canonical
  isType : OptionName function.returnTypeName
  body : BlockCanonical function.body
  undecorated : function.callee = none

structure Source.Canonical (source : Source) : Prop where
  globals : ∀ global ∈ source.globals, global.Canonical
  functions : ∀ function ∈ source.functions, function.Canonical

end ScriptLang
