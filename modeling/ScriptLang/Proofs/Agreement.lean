import ScriptLang.Evaluation.Statement
import ScriptLang.Proofs.RelatedScopes
import ScriptLang.Proofs.Step
import ScriptLang.Proofs.Typed

/-!
Scopes of a run that agree with scopes of checking.

Frame by frame, both bind the same names.  A cell is the variable found by checking, with a
value that the discipline allows for it, and a function has the signature found by checking,
with a typed body behind it.
-/

namespace ScriptLang

variable (D : Discipline)

/-- The value may be that of the variable: a list of allowed length and allowed elements for a
list, and an allowed value for any other. -/
structure Discipline.Keeps (target : Variable) (value : Value) : Prop where
  single : target.isList = false → D.holds target.ty value
  list : target.isList = true →
    ∃ elements, value = .list elements ∧ D.sizes target elements.length ∧
      ∀ element ∈ elements, D.holds target.ty element

structure CellAgrees (target : Variable) (cell : Cell) : Prop where
  same : cell.binding = target
  named : D.names target.ty
  keeps : D.Keeps target cell.value

structure FunctionAgrees (globals : StaticFrame) (callee : Callee) (function : Function) :
    Prop where
  same : function.signature = callee.signature
  typed : BodyTyped D globals callee.signature function.body

structure FrameAgrees (globals static : StaticFrame) (frame : RunFrame) : Prop where
  cells : ∀ name,
    Option.Rel (CellAgrees D) (static.findVariable? name) (frame.findVariable? name)
  functions : ∀ key,
    Option.Rel (FunctionAgrees D globals) (static.findFunction? key) (frame.findFunction? key)

structure ScopeAgrees (globals : StaticFrame) (scope : StaticScope) (run : RunScope) :
    Prop where
  locals : List.Forall₂ (FrameAgrees D globals) scope.locals run.locals
  globals : FrameAgrees D globals scope.globals run.globals

/-- The open scopes of a state agree with the scope, the bodies of functions being typed in the
globals of that scope. -/
def StateTyped (scope : StaticScope) (state : State) : Prop :=
  ScopeAgrees D scope.globals scope state.scope

variable {D} {globals : StaticFrame}

theorem Discipline.Keeps.ofSingle {name : String} {ty : Ty} {mutable : Bool} {value : Value}
    (holds : D.holds ty value) : D.Keeps (.plain name ty mutable false) value := by
  constructor
  · intro _
    exact holds
  · intro impossible
    cases impossible

theorem BodyTyped.names_returnType {signature : Signature} {body : Body}
    (typed : BodyTyped D globals signature body) : D.names signature.returnType := by
  cases typed with
  | builtin builtin =>
      cases builtin with
      | print => exact D.names_concrete (by decide)
      | logarithm => exact D.names_concrete (by decide)
      | converter => exact D.names_concrete (by decide)
  | declared arity typesNamed returnsNamed bound typed ends =>
      exact returnsNamed

/-! ### Frames -/

namespace FrameAgrees

variable {static : StaticFrame} {frame : RunFrame}

theorem ofEmpty (globals : StaticFrame) (staticReturns returns : Option Ty) :
    FrameAgrees D globals { Frame.empty with returnType := staticReturns }
      { Frame.empty with returnType := returns } :=
  ⟨fun _ => .none, fun _ => .none⟩

theorem iff_related :
    FrameAgrees D globals static frame ↔
      Frame.Related (CellAgrees D) (FunctionAgrees D globals) static frame :=
  ⟨fun agrees => ⟨agrees.cells, agrees.functions⟩,
    fun related => ⟨related.findVariable, related.findFunction⟩⟩

theorem addVariable (agrees : FrameAgrees D globals static frame) (name : String)
    {target : Variable} {cell : Cell} (cellAgrees : CellAgrees D target cell) :
    FrameAgrees D globals (static.addVariable name target) (frame.addVariable name cell) :=
  iff_related.mpr ((iff_related.mp agrees).addVariable name cellAgrees)

theorem addFunction (agrees : FrameAgrees D globals static frame) (key : String × Nat)
    {callee : Callee} {function : Function}
    (functionAgrees : FunctionAgrees D globals callee function) :
    FrameAgrees D globals (static.addFunction key callee) (frame.addFunction key function) :=
  iff_related.mpr ((iff_related.mp agrees).addFunction key functionAgrees)

theorem unbound (agrees : FrameAgrees D globals static frame) {name : String}
    (staticUnbound : static.findVariable? name = none) : frame.findVariable? name = none :=
  eq_none_of_rel (staticUnbound ▸ agrees.cells name)

theorem functionUnbound (agrees : FrameAgrees D globals static frame) {key : String × Nat}
    (staticUnbound : static.findFunction? key = none) : frame.findFunction? key = none :=
  eq_none_of_rel (staticUnbound ▸ agrees.functions key)

theorem store (agrees : FrameAgrees D globals static frame) {name : String} {value : Value}
    (keeps : ∀ target, static.findVariable? name = some target → D.Keeps target value) :
    FrameAgrees D globals static
      (frame.updateVariable name fun cell => { cell with value := value }) := by
  refine ⟨?_, agrees.functions⟩
  intro other
  have related := agrees.cells other
  rw [Frame.findVariable?_updateVariable]
  by_cases same : other = name
  · subst same
    rw [if_pos rfl]
    cases staticFound : static.findVariable? other with
    | none =>
        rw [agrees.unbound staticFound]
        exact .none
    | some target =>
        rw [staticFound] at related
        obtain ⟨cell, found, cellAgrees⟩ := exists_of_rel_some related
        rw [found]
        exact .some ⟨cellAgrees.same, cellAgrees.named, keeps target staticFound⟩
  · rw [if_neg same]
    exact related

end FrameAgrees

/-! ### Scopes -/

namespace ScopeAgrees

variable {scope : StaticScope} {run : RunScope}

theorem frames (agrees : ScopeAgrees D globals scope run) :
    List.Forall₂ (FrameAgrees D globals) scope.frames run.frames :=
  List.rel_append agrees.locals (.cons agrees.globals .nil)

theorem variable_bound (agrees : ScopeAgrees D globals scope run) {name : String}
    {target : Variable} (bound : scope.findVariable? name = some target) :
    ∃ cell, run.findVariable? name = some cell ∧ CellAgrees D target cell := by
  have related : Option.Rel (CellAgrees D) (scope.findVariable? name)
      (run.findVariable? name) :=
    rel_findSome? agrees.frames fun _ _ frameAgrees => frameAgrees.cells name
  rw [bound] at related
  exact exists_of_rel_some related

theorem function_bound (agrees : ScopeAgrees D globals scope run) {key : String × Nat}
    {callee : Callee} (bound : scope.findFunction? key = some callee) :
    ∃ function, run.findFunction? key = some function ∧
      FunctionAgrees D globals callee function := by
  have related : Option.Rel (FunctionAgrees D globals) (scope.findFunction? key)
      (run.findFunction? key) :=
    rel_findSome? agrees.frames fun _ _ frameAgrees => frameAgrees.functions key
  rw [bound] at related
  exact exists_of_rel_some related

theorem push (agrees : ScopeAgrees D globals scope run) {static : StaticFrame} {frame : RunFrame}
    (frameAgrees : FrameAgrees D globals static frame) :
    ScopeAgrees D globals (scope.push static) (run.push frame) :=
  ⟨.cons frameAgrees agrees.locals, agrees.globals⟩

end ScopeAgrees

/-- A store into the blocks changes the innermost cell of that name, and none is changed when
no block binds the name. -/
theorem updateFirst_agrees {statics : List StaticFrame} {locals : List RunFrame}
    (agrees : List.Forall₂ (FrameAgrees D globals) statics locals) {name : String}
    {value : Value} :
    (∀ after, Chain.updateFirst name (fun cell => { cell with value := value }) locals =
        some after →
      (∀ target, (statics.findSome? fun frame => frame.findVariable? name) = some target →
        D.Keeps target value) →
      List.Forall₂ (FrameAgrees D globals) statics after) ∧
    (Chain.updateFirst name (fun cell => { cell with value := value }) locals = none →
      (statics.findSome? fun frame => frame.findVariable? name) = none) := by
  induction agrees with
  | nil =>
      refine ⟨?_, fun _ => rfl⟩
      intro after impossible
      cases impossible
  | @cons static frame statics locals headAgrees tailAgrees inductionHypothesis =>
      have head := headAgrees.cells name
      rw [Chain.updateFirst, List.findSome?_cons]
      cases staticFound : static.findVariable? name with
      | some target =>
          rw [staticFound] at head
          cases found : frame.findVariable? name with
          | none =>
              rw [found] at head
              cases head
          | some cell =>
              refine ⟨?_, fun impossible => by cases impossible⟩
              intro after afterEq keeps
              cases afterEq
              refine .cons (headAgrees.store ?_) tailAgrees
              intro other otherFound
              rw [staticFound] at otherFound
              exact keeps other otherFound
      | none =>
          rw [headAgrees.unbound staticFound]
          constructor
          · intro after afterEq keeps
            obtain ⟨rest, restEq, rfl⟩ := Option.map_eq_some_iff.mp afterEq
            exact .cons headAgrees (inductionHypothesis.1 rest restEq keeps)
          · intro noneEq
            exact inductionHypothesis.2 (Option.map_eq_none_iff.mp noneEq)

theorem ScopeAgrees.store {scope : StaticScope} {run : RunScope}
    (agrees : ScopeAgrees D globals scope run) {name : String} {target : Variable}
    {value : Value} (bound : scope.findVariable? name = some target)
    (keeps : D.Keeps target value) :
    ScopeAgrees D globals scope
      (run.updateVariable name fun cell => { cell with value := value }) := by
  obtain ⟨whenBound, whenUnbound⟩ :
      (∀ after, Chain.updateFirst name (fun cell => { cell with value := value }) run.locals =
          some after →
        (∀ target, (scope.locals.findSome? fun frame => frame.findVariable? name) = some target →
          D.Keeps target value) →
        List.Forall₂ (FrameAgrees D globals) scope.locals after) ∧
      (Chain.updateFirst name (fun cell => { cell with value := value }) run.locals = none →
        (scope.locals.findSome? fun frame => frame.findVariable? name) = none) :=
    updateFirst_agrees agrees.locals
  unfold Chain.findVariable? Chain.frames at bound
  rw [List.findSome?_append] at bound
  unfold Chain.updateVariable
  cases updated : Chain.updateFirst name (fun cell => { cell with value := value })
      run.locals with
  | some after =>
      refine ⟨whenBound after updated ?_, agrees.globals⟩
      intro other found
      rw [found] at bound
      cases bound
      exact keeps
  | none =>
      refine ⟨agrees.locals, agrees.globals.store ?_⟩
      intro other found
      rw [whenUnbound updated] at bound
      simp only [Option.none_or, List.findSome?_cons, found] at bound
      cases bound
      exact keeps

end ScriptLang
