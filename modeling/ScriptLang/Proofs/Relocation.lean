import ScriptLang.Proofs.Alike
import ScriptLang.Proofs.Rendering

/-!
Trees at other places.

A tree is relocated by a map of offsets, which takes the span of every node to where it starts and
ends then.  Nothing else of the tree changes, so relocated trees run alike.  With the map that
takes all offsets to zero, a tree loses its places.
-/

namespace ScriptLang

/-! ### Relocating -/

variable (f : Nat → Nat)

def Span.relocated (span : Span) : Span :=
  { start := f span.start, stop := f span.stop }

def Fault.relocated (fault : Fault) : Fault :=
  { fault with offset := f fault.offset }

mutual

def Expr.relocated : Expr → Expr
  | .literal value span ty => .literal value (span.relocated f) ty
  | .group inner span ty => .group inner.relocated (span.relocated f) ty
  | .binary op left right span ty =>
      .binary op left.relocated right.relocated (span.relocated f) ty
  | .access name span ty target => .access name (span.relocated f) ty target
  | .element name index span ty target =>
      .element name index.relocated (span.relocated f) ty target
  | .call name arguments span ty callee =>
      .call name (relocatedExprs arguments) (span.relocated f) ty callee
  | .list elements span ty => .list (relocatedExprs elements) (span.relocated f) ty

def relocatedExprs : List Expr → List Expr
  | [] => []
  | first :: rest => first.relocated :: relocatedExprs rest

end

mutual

def Stmt.relocated : Stmt → Stmt
  | .expression value span => .expression (value.relocated f) (span.relocated f)
  | .declaration name typeName value span target =>
      .declaration name typeName (value.map (Expr.relocated f)) (span.relocated f) target
  | .assignment receiver value span =>
      .assignment (receiver.relocated f) (value.relocated f) (span.relocated f)
  | .conditional condition thenBlock elseBlock span =>
      .conditional (condition.relocated f) (relocatedBlock thenBlock) (relocatedBlock elseBlock)
        (span.relocated f)
  | .switch condition cases span =>
      .switch (condition.relocated f) (relocatedCases cases) (span.relocated f)
  | .loop condition body span =>
      .loop (condition.relocated f) (relocatedBlock body) (span.relocated f)
  | .result value span => .result (value.relocated f) (span.relocated f)

def relocatedBlock : List Stmt → List Stmt
  | [] => []
  | first :: rest => first.relocated :: relocatedBlock rest

def relocatedCases : List Case → List Case
  | [] => []
  | .mk value body span :: rest =>
      .mk (value.map (Expr.relocated f)) (relocatedBlock body) (span.relocated f) ::
        relocatedCases rest

end

def Case.relocated (c : Case) : Case :=
  .mk (c.value.map (Expr.relocated f)) (relocatedBlock f c.body) (c.span.relocated f)

def GlobalDecl.relocated (global : GlobalDecl) : GlobalDecl :=
  { global with value := global.value.map (Expr.relocated f), span := global.span.relocated f }

def FunctionDecl.relocated (function : FunctionDecl) : FunctionDecl :=
  { function with body := relocatedBlock f function.body, span := function.span.relocated f }

def Source.relocated (source : Source) : Source :=
  { globals := source.globals.map (GlobalDecl.relocated f)
    functions := source.functions.map (FunctionDecl.relocated f)
    span := source.span.relocated f }

def Relocates (offset offset' : Nat) : Prop :=
  offset' = f offset

variable {f}

theorem Expr.span_relocated (e : Expr) : (e.relocated f).span = e.span.relocated f := by
  cases e <;> rfl

theorem Span.relocates_start (span : Span) : Relocates f span.start (span.relocated f).start :=
  rfl

theorem Expr.relocates_start (e : Expr) : Relocates f e.start (e.relocated f).start := by
  unfold Expr.start
  rw [e.span_relocated]
  exact e.span.relocates_start

theorem length_relocatedExprs (es : List Expr) : (relocatedExprs f es).length = es.length := by
  induction es with
  | nil => rfl
  | cons first rest inductionHypothesis =>
      rw [relocatedExprs, List.length_cons, List.length_cons, inductionHypothesis]

theorem relocatedCases_eq_map (cs : List Case) :
    relocatedCases f cs = cs.map (Case.relocated f) := by
  induction cs with
  | nil =>
      rfl
  | cons first rest inductionHypothesis =>
      obtain ⟨value, body, span⟩ := first
      rw [relocatedCases, List.map_cons, inductionHypothesis]
      rfl

theorem FaultsAlike.relocates_iff {fault fault' : Fault} :
    FaultsAlike (Relocates f) fault fault' ↔ fault' = fault.relocated f := by
  constructor
  · rintro ⟨cause, offset⟩
    obtain ⟨cause', offset'⟩ := fault'
    cases cause
    cases offset
    rfl
  · rintro rfl
    exact ⟨rfl, rfl⟩

/-! ### Trees left where they are -/

mutual

theorem Expr.relocated_id (e : Expr) : e.relocated id = e := by
  cases e with
  | literal value span ty => rfl
  | group inner span ty =>
      rw [Expr.relocated, inner.relocated_id]
      rfl
  | binary op left right span ty =>
      rw [Expr.relocated, left.relocated_id, right.relocated_id]
      rfl
  | access name span ty target => rfl
  | element name index span ty target =>
      rw [Expr.relocated, index.relocated_id]
      rfl
  | call name arguments span ty callee =>
      rw [Expr.relocated, relocatedExprs_id arguments]
      rfl
  | list elements span ty =>
      rw [Expr.relocated, relocatedExprs_id elements]
      rfl

theorem relocatedExprs_id (es : List Expr) : relocatedExprs id es = es := by
  cases es with
  | nil => rfl
  | cons first rest => rw [relocatedExprs, first.relocated_id, relocatedExprs_id rest]

end

theorem map_relocated_id (value : Option Expr) : value.map (Expr.relocated id) = value := by
  cases value with
  | none => rfl
  | some e => rw [Option.map_some, e.relocated_id]

mutual

theorem Stmt.relocated_id (s : Stmt) : s.relocated id = s := by
  cases s with
  | expression value span =>
      rw [Stmt.relocated, value.relocated_id]
      rfl
  | declaration name typeName value span target =>
      rw [Stmt.relocated, map_relocated_id value]
      rfl
  | assignment receiver value span =>
      rw [Stmt.relocated, receiver.relocated_id, value.relocated_id]
      rfl
  | conditional condition thenBlock elseBlock span =>
      rw [Stmt.relocated, condition.relocated_id, relocatedBlock_id thenBlock,
        relocatedBlock_id elseBlock]
      rfl
  | switch condition cs span =>
      rw [Stmt.relocated, condition.relocated_id, relocatedCases_id cs]
      rfl
  | loop condition body span =>
      rw [Stmt.relocated, condition.relocated_id, relocatedBlock_id body]
      rfl
  | result value span =>
      rw [Stmt.relocated, value.relocated_id]
      rfl

theorem relocatedBlock_id (b : List Stmt) : relocatedBlock id b = b := by
  cases b with
  | nil => rfl
  | cons first rest => rw [relocatedBlock, first.relocated_id, relocatedBlock_id rest]

theorem relocatedCases_id (cs : List Case) : relocatedCases id cs = cs := by
  cases cs with
  | nil =>
      rfl
  | cons first rest =>
      obtain ⟨value, body, span⟩ := first
      rw [relocatedCases, map_relocated_id value, relocatedBlock_id body, relocatedCases_id rest]
      rfl

end

theorem FunctionDecl.relocated_id (function : FunctionDecl) : function.relocated id = function := by
  unfold FunctionDecl.relocated
  rw [relocatedBlock_id]
  rfl

/-! ### Trees without places -/

mutual

theorem Expr.relocated_zero (e : Expr) : e.relocated (fun _ => 0) = e.withoutSpans := by
  cases e with
  | literal value span ty => rfl
  | group inner span ty =>
      rw [Expr.relocated, inner.relocated_zero]
      rfl
  | binary op left right span ty =>
      rw [Expr.relocated, left.relocated_zero, right.relocated_zero]
      rfl
  | access name span ty target => rfl
  | element name index span ty target =>
      rw [Expr.relocated, index.relocated_zero]
      rfl
  | call name arguments span ty callee =>
      rw [Expr.relocated, relocatedExprs_zero arguments]
      rfl
  | list elements span ty =>
      rw [Expr.relocated, relocatedExprs_zero elements]
      rfl

theorem relocatedExprs_zero (es : List Expr) :
    relocatedExprs (fun _ => 0) es = allWithoutSpans es := by
  cases es with
  | nil => rfl
  | cons first rest =>
      rw [relocatedExprs, first.relocated_zero, relocatedExprs_zero rest, allWithoutSpans]

end

theorem map_relocated_zero (value : Option Expr) :
    value.map (Expr.relocated fun _ => 0) = value.map Expr.withoutSpans := by
  cases value with
  | none => rfl
  | some e => rw [Option.map_some, Option.map_some, e.relocated_zero]

mutual

theorem Stmt.relocated_zero (s : Stmt) : s.relocated (fun _ => 0) = s.withoutSpans := by
  cases s with
  | expression value span =>
      rw [Stmt.relocated, value.relocated_zero]
      rfl
  | declaration name typeName value span target =>
      rw [Stmt.relocated, map_relocated_zero value]
      rfl
  | assignment receiver value span =>
      rw [Stmt.relocated, receiver.relocated_zero, value.relocated_zero]
      rfl
  | conditional condition thenBlock elseBlock span =>
      rw [Stmt.relocated, condition.relocated_zero, relocatedBlock_zero thenBlock,
        relocatedBlock_zero elseBlock]
      rfl
  | switch condition cs span =>
      rw [Stmt.relocated, condition.relocated_zero, relocatedCases_zero cs]
      rfl
  | loop condition body span =>
      rw [Stmt.relocated, condition.relocated_zero, relocatedBlock_zero body]
      rfl
  | result value span =>
      rw [Stmt.relocated, value.relocated_zero]
      rfl

theorem relocatedBlock_zero (b : List Stmt) :
    relocatedBlock (fun _ => 0) b = blockWithoutSpans b := by
  cases b with
  | nil => rfl
  | cons first rest =>
      rw [relocatedBlock, first.relocated_zero, relocatedBlock_zero rest, blockWithoutSpans]

theorem relocatedCases_zero (cs : List Case) :
    relocatedCases (fun _ => 0) cs = casesWithoutSpans cs := by
  cases cs with
  | nil =>
      rfl
  | cons first rest =>
      obtain ⟨value, body, span⟩ := first
      rw [relocatedCases, map_relocated_zero value, relocatedBlock_zero body,
        relocatedCases_zero rest]
      rfl

end

theorem Source.relocated_zero (source : Source) :
    source.relocated (fun _ => 0) = source.withoutSpans := by
  have globals : GlobalDecl.relocated (fun _ => 0) = GlobalDecl.withoutSpans := by
    funext global
    unfold GlobalDecl.relocated
    rw [map_relocated_zero]
    rfl
  have functions : FunctionDecl.relocated (fun _ => 0) = FunctionDecl.withoutSpans := by
    funext function
    unfold FunctionDecl.relocated
    rw [relocatedBlock_zero]
    rfl
  unfold Source.relocated
  rw [globals, functions]
  rfl

theorem Typing.isAccess_relocated (e : Expr) : isAccess (e.relocated f) = isAccess e := by
  cases e <;> rfl

/-! ### A relocated tree is like the tree -/

mutual

theorem Expr.alike_relocated (e : Expr) : ExprAlike (Relocates f) e (e.relocated f) := by
  cases e with
  | literal value span ty => exact .literal value rfl
  | group inner span ty => exact .group rfl inner.alike_relocated
  | binary op left right span ty =>
      exact .binary op rfl left.alike_relocated right.alike_relocated
  | access name span ty target => exact .access name rfl
  | element name index span ty target => exact .element name rfl index.alike_relocated
  | call name arguments span ty callee => exact .call name rfl (exprs_alike_relocated arguments)
  | list elements span ty => exact .list rfl (exprs_alike_relocated elements)

theorem exprs_alike_relocated (es : List Expr) :
    ExprsAlike (Relocates f) es (relocatedExprs f es) := by
  cases es with
  | nil => exact .nil
  | cons first rest => exact .cons first.alike_relocated (exprs_alike_relocated rest)

end

theorem option_alike_relocated (value : Option Expr) :
    Option.Rel (ExprAlike (Relocates f)) value (value.map (Expr.relocated f)) := by
  cases value with
  | none => exact .none
  | some e => exact .some e.alike_relocated

mutual

theorem Stmt.alike_relocated (s : Stmt) : StmtAlike (Relocates f) s (s.relocated f) := by
  cases s with
  | expression value span =>
      exact .expression value.alike_relocated
  | declaration name typeName value span target =>
      exact .declaration name rfl (option_alike_relocated value)
  | assignment receiver value span =>
      exact .assignment rfl receiver.alike_relocated (Typing.isAccess_relocated receiver).symm
        value.alike_relocated
  | conditional condition thenBlock elseBlock span =>
      exact .conditional condition.alike_relocated (block_alike_relocated thenBlock)
        (block_alike_relocated elseBlock)
  | switch condition cs span =>
      exact .switch condition.alike_relocated (cases_alike_relocated cs)
  | loop condition body span =>
      exact .loop condition.alike_relocated (block_alike_relocated body)
  | result value span =>
      exact .result value.alike_relocated

theorem block_alike_relocated (b : List Stmt) :
    BlockAlike (Relocates f) b (relocatedBlock f b) := by
  cases b with
  | nil => exact .nil
  | cons first rest => exact .cons first.alike_relocated (block_alike_relocated rest)

theorem cases_alike_relocated (cs : List Case) :
    CasesAlike (Relocates f) cs (relocatedCases f cs) := by
  cases cs with
  | nil =>
      exact .nil
  | cons first rest =>
      obtain ⟨value, body, span⟩ := first
      exact .cons (option_alike_relocated value) (block_alike_relocated body)
        (cases_alike_relocated rest)

end

theorem GlobalDecl.alike_relocated (global : GlobalDecl) :
    global.Alike (Relocates f) (global.relocated f) :=
  ⟨rfl, rfl, rfl, option_alike_relocated global.value⟩

theorem FunctionDecl.alike_relocated (function : FunctionDecl) :
    function.Alike (Relocates f) (function.relocated f) :=
  ⟨rfl, rfl, rfl, block_alike_relocated function.body⟩

theorem Source.alike_relocated (source : Source) :
    source.Alike (Relocates f) (source.relocated f) := by
  refine ⟨?_, ?_, rfl, rfl⟩
  · exact List.forall₂_map_right_iff.mpr (List.forall₂_same.mpr fun g _ => g.alike_relocated)
  · exact List.forall₂_map_right_iff.mpr (List.forall₂_same.mpr fun g _ => g.alike_relocated)

/-! ### A tree is like itself -/

theorem relocates_id : Relocates id = Eq := by
  funext offset offset'
  exact propext eq_comm

theorem Expr.alike_refl (e : Expr) : ExprAlike Eq e e := by
  have alike : ExprAlike (Relocates id) e (e.relocated id) := e.alike_relocated
  rwa [Expr.relocated_id, relocates_id] at alike

theorem option_alike_refl (value : Option Expr) : Option.Rel (ExprAlike Eq) value value := by
  cases value with
  | none => exact .none
  | some e => exact .some e.alike_refl

theorem Stmt.alike_refl (s : Stmt) : StmtAlike Eq s s := by
  have alike : StmtAlike (Relocates id) s (s.relocated id) := s.alike_relocated
  rwa [Stmt.relocated_id, relocates_id] at alike

theorem FunctionDecl.alike_refl (function : FunctionDecl) : function.Alike Eq function := by
  have alike : function.Alike (Relocates id) (function.relocated id) := function.alike_relocated
  rwa [FunctionDecl.relocated_id, relocates_id] at alike

end ScriptLang
