import ScriptLang.Program
import ScriptLang.Proofs.Checked
import ScriptLang.Proofs.Erasure
import ScriptLang.Proofs.Plain
import ScriptLang.Proofs.Simulation

/-!
Runs without decorations.

A run does not read what checking writes into a tree: the types that it gives to variables and
functions never decide anything, and the signature of a declared function has as many types as the
function has parameters.  So the tree that checking yields and the tree of the text run alike.
-/

namespace ScriptLang

/-! ### A tree is like its erasure -/

mutual

theorem Expr.alike_erased (e : Expr) : ExprAlike Eq e e.erased := by
  cases e with
  | literal value span ty => exact .literal value rfl
  | group inner span ty => exact .group rfl inner.alike_erased
  | binary op left right span ty => exact .binary op rfl left.alike_erased right.alike_erased
  | access name span ty target => exact .access name rfl
  | element name index span ty target => exact .element name rfl index.alike_erased
  | call name arguments span ty callee => exact .call name rfl (exprs_alike_erased arguments)
  | list elements span ty => exact .list rfl (exprs_alike_erased elements)

theorem exprs_alike_erased (es : List Expr) : ExprsAlike Eq es (erasedExprs es) := by
  cases es with
  | nil => exact .nil
  | cons first rest => exact .cons first.alike_erased (exprs_alike_erased rest)

end

theorem option_alike_erased (value : Option Expr) :
    Option.Rel (ExprAlike Eq) value (value.map Expr.erased) := by
  cases value with
  | none => exact .none
  | some e => exact .some e.alike_erased

mutual

theorem Stmt.alike_erased (s : Stmt) : StmtAlike Eq s s.erased := by
  cases s with
  | expression value span =>
      exact .expression value.alike_erased
  | declaration name typeName value span target =>
      exact .declaration name rfl (option_alike_erased value)
  | assignment receiver value span =>
      exact .assignment rfl receiver.alike_erased (Typing.isAccess_erased receiver).symm
        value.alike_erased
  | conditional condition thenBlock elseBlock span =>
      exact .conditional condition.alike_erased (block_alike_erased thenBlock)
        (block_alike_erased elseBlock)
  | switch condition cs span =>
      exact .switch condition.alike_erased (cases_alike_erased cs)
  | loop condition body span =>
      exact .loop condition.alike_erased (block_alike_erased body)
  | result value span =>
      exact .result value.alike_erased

theorem block_alike_erased (b : List Stmt) : BlockAlike Eq b (erasedBlock b) := by
  cases b with
  | nil => exact .nil
  | cons first rest => exact .cons first.alike_erased (block_alike_erased rest)

theorem cases_alike_erased (cs : List Case) : CasesAlike Eq cs (erasedCases cs) := by
  cases cs with
  | nil =>
      exact .nil
  | cons first rest =>
      obtain ⟨value, body, span⟩ := first
      exact .cons (option_alike_erased value) (block_alike_erased body) (cases_alike_erased rest)

end

theorem GlobalDecl.alike_erased (global : GlobalDecl) : global.Alike Eq global.erased :=
  ⟨rfl, rfl, rfl, option_alike_erased global.value⟩

theorem FunctionDecl.alike_erased (function : FunctionDecl) :
    function.Alike Eq function.erased :=
  ⟨rfl, rfl, rfl, block_alike_erased function.body⟩

theorem Source.alike_erased (source : Source) : source.Alike Eq source.erased := by
  refine ⟨?_, ?_, rfl, rfl⟩
  · exact List.forall₂_map_right_iff.mpr (List.forall₂_same.mpr fun g _ => g.alike_erased)
  · exact List.forall₂_map_right_iff.mpr (List.forall₂_same.mpr fun f _ => f.alike_erased)

theorem FunctionDecl.fits_of_undecorated {function : FunctionDecl}
    (undecorated : function.callee = none) : function.Fits := by
  intro callee decorated
  rw [undecorated] at decorated
  cases decorated

theorem Source.run_erased {source : Source} (fit : ∀ function ∈ source.functions, function.Fits)
    (fuel : Nat) (sink : Sink) : source.erased.run fuel sink = source.run fuel sink := by
  refine (source.alike_erased.run fit ?_ fuel sink).eq.symm
  intro function member
  obtain ⟨decorated, _, rfl⟩ := List.mem_map.mp member
  exact FunctionDecl.fits_of_undecorated rfl

/-! ### The trees of a program text -/

namespace Parse

theorem functionWithin_undecorated (fuel : Nat) :
    Yields (functionWithin fuel) fun function => function.callee = none := by
  unfold functionWithin
  refine Yields.after _ fun _ => Yields.after _ fun _ => Yields.after _ fun _ =>
    Yields.after _ fun _ => Yields.after _ fun _ => Yields.after _ fun _ =>
      Yields.after _ fun _ => Yields.after _ fun _ => Yields.after _ fun _ =>
        Yields.after _ fun _ => Yields.pure rfl

theorem source_undecorated :
    Yields source fun source => ∀ function ∈ source.functions, function.callee = none := by
  unfold source fuelled
  refine Yields.after _ fun cursor => ?_
  unfold sourceWithin
  refine Yields.after _ fun globals => ?_
  refine (functionsWithin_yields functionWithin_undecorated _).bind fun functions undecorated => ?_
  refine Yields.after _ fun left => ?_
  split
  · exact Yields.unexpected _
  · exact Yields.after _ fun span => Yields.pure undecorated

end Parse

theorem Source.fit_of_parse {text : String} {source : Source}
    (parsed : Source.parse text = .ok source) : ∀ function ∈ source.functions, function.Fits :=
  fun function member => FunctionDecl.fits_of_undecorated
    (Source.holds_of_parse Parse.source_undecorated parsed function member)

namespace Typing

theorem fits_of_declareFunction {scope after : StaticScope} {function declared : FunctionDecl}
    (isDeclared : declareFunction scope function = .ok (declared, after)) : declared.Fits := by
  obtain ⟨types, resolved, isDeclared⟩ := bind_eq_ok.mp isDeclared
  obtain ⟨returns, _, isDeclared⟩ := bind_eq_ok.mp isDeclared
  obtain ⟨wider, _, isDeclared⟩ := bind_eq_ok.mp isDeclared
  cases isDeclared
  intro callee decorated
  cases decorated
  exact (resolveAll_length resolved).trans (List.length_map _)

theorem fits_of_checkFunction {scope : StaticScope} {function decorated : FunctionDecl}
    (checked : checkFunction scope function = .ok decorated) (fits : function.Fits) :
    decorated.Fits := by
  obtain ⟨callee, _, checked⟩ := bind_eq_ok.mp checked
  obtain ⟨inner, _, checked⟩ := bind_eq_ok.mp checked
  obtain ⟨body, _, checked⟩ := bind_eq_ok.mp checked
  cases checked
  exact fits

end Typing

theorem Source.fit_of_check {source decorated : Source} (checked : source.check = .ok decorated) :
    ∀ function ∈ decorated.functions, function.Fits := by
  obtain ⟨declared, _, declares, checks, _⟩ := Source.parts_of_check checked
  have declaredFit : ∀ function ∈ declared, function.Fits := by
    refine forall_mem_of_forall₂ (declares.imp ?_) fun _ _ => trivial
    rintro function function' ⟨scope, after, isDeclared⟩ _
    exact Typing.fits_of_declareFunction isDeclared
  refine forall_mem_of_forall₂ (checks.imp ?_) declaredFit
  rintro function function' ⟨scope, isChecked⟩ fits
  exact Typing.fits_of_checkFunction isChecked fits

/-- Running the tree that checking yields gives the outcome that running the tree of the text
gives, with all fuel and in every sink. -/
theorem Program.run_undecorated {text file : String} {source : Source}
    (checked : Program.check text file = .ok source) :
    ∃ tree, Source.parse text = .ok tree ∧
      ∀ fuel sink, source.run fuel sink = tree.run fuel sink := by
  obtain ⟨tree, parsed, accepted⟩ := Program.check_eq_ok.mp checked
  refine ⟨tree, parsed, ?_⟩
  intro fuel sink
  calc source.run fuel sink
    _ = source.erased.run fuel sink := (source.run_erased (Source.fit_of_check accepted) _ _).symm
    _ = tree.erased.run fuel sink := by rw [Source.erased_of_check accepted]
    _ = tree.run fuel sink := tree.run_erased (Source.fit_of_parse parsed) fuel sink

/-- A program whose calls print, and change a global that has a type. -/
def addingText : String :=
  "VAR n: Integer = 0; FUN add(k: Integer): Integer DO n = n + k; print(n); RETURN n; END "
    ++ "FUN main(): Integer DO RETURN add(3) + add(5); END"

theorem Program.run_undecorated_adding :
    ∃ source tree value,
      Program.check addingText "adding" = .ok source ∧
        Source.parse addingText = .ok tree ∧
          (source.run 9 .unlimited).result = .ok value ∧ value.display = "11" ∧
            (source.run 9 .unlimited).sink.text = "3\n8\n" ∧
              source.run 9 .unlimited = tree.run 9 .unlimited := by
  have computed : ((Program.check addingText "adding").toOption.bind fun source =>
      (source.run 9 .unlimited).result.toOption.map fun value =>
        (value.display, (source.run 9 .unlimited).sink.text)) =
          some ("11", "3\n8\n") := by
    decide +kernel
  obtain ⟨source, checked, computed⟩ := Option.bind_eq_some_iff.mp computed
  obtain ⟨value, returned, seen⟩ := Option.map_eq_some_iff.mp computed
  obtain ⟨shown, printed⟩ := Prod.mk.inj seen
  have accepted := eq_ok_of_toOption checked
  obtain ⟨tree, parsed, same⟩ := Program.run_undecorated accepted
  exact ⟨source, tree, value, accepted, parsed, eq_ok_of_toOption returned, shown, printed,
    same 9 .unlimited⟩

end ScriptLang
