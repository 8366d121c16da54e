import ScriptLang.Proofs.Preservation

/-!
How runs of checked programs fail.

Checking leaves five kinds of failures to a run.  Where no annotation names a type of several
classes, every variable has an initial value and every function a result, no operator, condition
or index meets a value of a wrong class, and what is left depends on the values alone.
-/

namespace ScriptLang

variable {D : Discipline}

theorem Discipline.permits_of_run {source : Source} {early globals : StaticFrame}
    (typed : SourceTyped D source early globals) (fuel : Nat) (sink : Sink) {fault : Fault}
    (failed : (source.run fuel sink).result = .error (.fault fault)) : D.permits fault.cause := by
  have led := Eval.program_sound fuel typed (State.initial_typed sink)
  rw [Source.run_eq] at failed
  split at failed
  · cases failed
  · rename_i ended
    cases failed
    exact (led.of_error ended).1

/-- The cause that a run fails with. -/
def Outcome.cause? (outcome : Outcome) : Option Cause :=
  match outcome.result with
  | .error (.fault fault) => some fault.cause
  | _ => none

theorem Outcome.cause?_eq_some {outcome : Outcome} {cause : Cause} :
    outcome.cause? = some cause ↔
      ∃ fault, outcome.result = .error (.fault fault) ∧ fault.cause = cause := by
  unfold Outcome.cause?
  constructor
  · intro found
    split at found
    · rename_i fault failed
      exact ⟨fault, failed, Option.some.inj found⟩
    · cases found
  · rintro ⟨fault, failed, rfl⟩
    rw [failed]

/-- A run of a checked program fails by dividing by zero, by an operand, an index or an argument
that does not fit, or because the sink refuses a text, and in no other way. -/
theorem run_fails_dynamically {text file : String} {source : Source}
    (checked : Program.check text file = .ok source) (fuel : Nat) (sink : Sink) {fault : Fault}
    (failed : (source.run fuel sink).result = .error (.fault fault)) : fault.cause.Dynamic := by
  obtain ⟨early, globals, typed⟩ := Program.typed_of_check checked
  exact Discipline.permits_of_run typed fuel sink failed

theorem run_fails_dynamically_division :
    ∃ source fault,
      Program.check "FUN main(): Integer DO RETURN 1 / 0; END" "division" = .ok source ∧
        (source.run 9 .unlimited).result = .error (.fault fault) ∧
          fault.cause = .divisionByZero ∧ fault.cause.Dynamic := by
  have computed : ((Program.check "FUN main(): Integer DO RETURN 1 / 0; END"
      "division").toOption.bind fun source => (source.run 9 .unlimited).cause?) =
        some .divisionByZero := by
    decide +kernel
  cases checked : Program.check "FUN main(): Integer DO RETURN 1 / 0; END" "division" with
  | error error =>
      rw [checked] at computed
      cases computed
  | ok source =>
      rw [checked] at computed
      obtain ⟨fault, failed, causeEq⟩ := Outcome.cause?_eq_some.mp computed
      exact ⟨source, fault, rfl, failed, causeEq, run_fails_dynamically checked 9 .unlimited failed⟩

/-! ### The strict fragment -/

def Source.annotations (source : Source) : List String :=
  source.globals.filterMap GlobalDecl.typeName ++
    source.functions.flatMap fun function =>
      function.parameters.map Parameter.typeName ++ function.returnTypeName.toList ++
        (blockDeclarations function.body).filterMap Prod.fst

/-- A program in which no annotation names `Any` or `Comparable`, variables have an initial value
or are declared as `Nil`, and functions that do not return `Nil` end with a result. -/
structure Source.Strict (source : Source) : Prop where
  annotations : ∀ name ∈ source.annotations, name ≠ "Any" ∧ name ≠ "Comparable"
  globals : ∀ global ∈ source.globals, global.mutable = true → global.value.isNone = true →
    global.typeName = some "Nil"
  declarations : ∀ function ∈ source.functions,
    ∀ declaration ∈ blockDeclarations function.body, declaration.2.isNone = true →
      declaration.1 = some "Nil"
  results : ∀ function ∈ source.functions, ∀ name ∈ function.returnTypeName, name ≠ "Nil" →
    endsWithResult function.body = true

instance (source : Source) : Decidable source.Strict :=
  decidable_of_iff
    ((∀ name ∈ source.annotations, name ≠ "Any" ∧ name ≠ "Comparable") ∧
      (∀ global ∈ source.globals, global.mutable = true → global.value.isNone = true →
        global.typeName = some "Nil") ∧
      (∀ function ∈ source.functions, ∀ declaration ∈ blockDeclarations function.body,
        declaration.2.isNone = true → declaration.1 = some "Nil") ∧
      ∀ function ∈ source.functions, ∀ name ∈ function.returnTypeName, name ≠ "Nil" →
        endsWithResult function.body = true)
    ⟨fun holds => ⟨holds.1, holds.2.1, holds.2.2.1, holds.2.2.2⟩,
      fun holds => ⟨holds.annotations, holds.globals, holds.declarations, holds.results⟩⟩

theorem strict_liberal : strict.Liberal :=
  ⟨fun _ _ => trivial, fun _ _ => trivial⟩

theorem Ty.concrete_of_ofName? {name : String} {ty : Ty} (found : Ty.ofName? name = some ty)
    (notGeneral : name ≠ "Any" ∧ name ≠ "Comparable") : ty.Concrete := by
  have nameEq := Ty.ofName?_eq_some.mp found
  constructor
  · rintro rfl
    exact notGeneral.1 nameEq.symm
  · rintro rfl
    exact notGeneral.2 nameEq.symm

theorem Ty.ofName?_nil {ty : Ty} (found : Ty.ofName? "Nil" = some ty) : ty = .nil :=
  Ty.name_injective (Ty.ofName?_eq_some.mp found)

theorem strict_suits {declaration : Option String × Option Expr}
    (notGeneral : ∀ name, declaration.1 = some name → name ≠ "Any" ∧ name ≠ "Comparable")
    (initialised : declaration.2 = none → declaration.1 = some "Nil") :
    strict.Suits declaration := by
  intro name ty annotated found
  refine ⟨Ty.concrete_of_ofName? found (notGeneral name annotated), ?_⟩
  intro blank
  have isNil := annotated.symm.trans (initialised blank)
  cases isNil
  exact Ty.ofName?_nil found

namespace Source.Strict

variable {source : Source}

theorem function_annotations (isStrict : source.Strict) {function : FunctionDecl}
    (member : function ∈ source.functions) {name : String}
    (named : name ∈ function.parameters.map Parameter.typeName ++ function.returnTypeName.toList ++
      (blockDeclarations function.body).filterMap Prod.fst) :
    name ≠ "Any" ∧ name ≠ "Comparable" :=
  isStrict.annotations name
    (List.mem_append_right _ (List.mem_flatMap.mpr ⟨function, member, named⟩))

theorem suits (isStrict : source.Strict) (shaped : source.Shaped) : strict.SuitsSource source where
  globals := by
    intro global member
    apply strict_suits
    · intro name annotated
      exact isStrict.annotations name
        (List.mem_append_left _ (List.mem_filterMap.mpr ⟨global, member, annotated⟩))
    · intro blank
      apply isStrict.globals global member _ (Option.isNone_iff_eq_none.mpr blank)
      cases shaped.globals global member with
      | list typeName elements span ty isList named initial plain =>
          rw [initial] at blank
          cases blank
      | single isSingle plain initialised =>
          cases mutability : global.mutable with
          | true =>
              rfl
          | false =>
              exact absurd blank (initialised mutability)
  declarations := by
    intro function member declaration declared
    apply strict_suits
    · intro name annotated
      exact isStrict.function_annotations member
        (List.mem_append_right _ (List.mem_filterMap.mpr ⟨declaration, declared, annotated⟩))
    · intro blank
      exact isStrict.declarations function member declaration declared
        (Option.isNone_iff_eq_none.mpr blank)
  parameters := by
    intro function member parameter isParameter ty found
    apply Ty.concrete_of_ofName? found
    exact isStrict.function_annotations member
      (List.mem_append_left _ (List.mem_append_left _ (List.mem_map_of_mem isParameter)))
  results := by
    intro function member returns resolved
    unfold Typing.resolveReturn at resolved
    cases annotated : function.returnTypeName with
    | none =>
        rw [annotated] at resolved
        cases resolved
        have concrete : Ty.Concrete .nil := by decide
        exact ⟨concrete, .inl rfl⟩
    | some name =>
        rw [annotated] at resolved
        have found := Ty.resolve_eq_ok.mp resolved
        constructor
        · apply Ty.concrete_of_ofName? found
          apply isStrict.function_annotations member
          rw [annotated]
          exact List.mem_append_left _ (List.mem_append_right _ List.mem_cons_self)
        · by_cases isNil : name = "Nil"
          · subst isNil
            exact .inl (Ty.ofName?_nil found)
          · exact .inr (isStrict.results function member name annotated isNil)

end Source.Strict

/-! ### What operators, conditions and indices meet -/

open Eval in
/-- While the task of the moment is evaluated, an expression is evaluated in the given state whose
value has to be of the given class: a side of a logical operator, a condition, or an index. -/
inductive Moment.Demands : Moment → Expr → State → Ty → Prop where
  | logicalLeft {fuel : Nat} {suspended : List RunFrame} {state : State} {op : BinaryOp}
      {left right : Expr} {span : Span} {ty : Option Ty} (isLogical : op.isLogical = true) :
      Demands ⟨.expression (.binary op left right span ty), fuel, suspended, state⟩ left state
        .boolean
  | logicalRight {fuel : Nat} {suspended : List RunFrame} {state middle : State} {op : BinaryOp}
      {left right : Expr} {span : Span} {ty : Option Ty} {value : Value}
      (isLogical : op.isLogical = true)
      (evaluated : expr (invoke fuel) left state = .ok value middle) :
      Demands ⟨.expression (.binary op left right span ty), fuel, suspended, state⟩ right middle
        .boolean
  | condition {fuel : Nat} {suspended : List RunFrame} {state : State} {test : Expr}
      {thenBlock elseBlock : List Stmt} {span : Span} :
      Demands ⟨.statement (.conditional test thenBlock elseBlock span), fuel, suspended, state⟩
        test state .boolean
  | round {fuel count : Nat} {suspended : List RunFrame} {state : State} {test : Expr}
      {body : List Stmt} :
      Demands ⟨.rounds (count + 1) test body, fuel, suspended, state⟩ test state .boolean
  | index {fuel : Nat} {suspended : List RunFrame} {state : State} {name : String}
      {position : Expr} {span : Span} {ty : Option Ty} {target : Option Variable} :
      Demands ⟨.expression (.element name position span ty target), fuel, suspended, state⟩
        position state .integer
  | assignedIndex {fuel : Nat} {suspended : List RunFrame} {state middle : State} {name : String}
      {position : Expr} {place span : Span} {ty : Option Ty} {target : Option Variable}
      {value : Expr} (assigned : assignable name place.start span.start state = .ok () middle) :
      Demands
        ⟨.statement (.assignment (.element name position place ty target) value span), fuel,
          suspended, state⟩ position middle .integer

/-- While the task of the moment is evaluated, an element of the variable is read or written. -/
inductive Moment.Indexes : Moment → Cell → Prop where
  | read {fuel : Nat} {suspended : List RunFrame} {state middle : State} {name : String}
      {position : Expr} {span : Span} {ty : Option Ty} {target : Option Variable} {i : Int}
      {cell : Cell} (indexed : Eval.index (Eval.invoke fuel) position state = .ok i middle)
      (found : middle.scope.findVariable? name = some cell) :
      Indexes ⟨.expression (.element name position span ty target), fuel, suspended, state⟩ cell
  | write {fuel : Nat} {suspended : List RunFrame} {state middle later last : State}
      {name : String} {position : Expr} {place span : Span} {ty : Option Ty}
      {target : Option Variable} {value : Expr} {i : Int} {v : Value} {cell : Cell}
      (assigned : Eval.assignable name place.start span.start state = .ok () middle)
      (indexed : Eval.index (Eval.invoke fuel) position middle = .ok i later)
      (evaluated : Eval.expr (Eval.invoke fuel) value later = .ok v last)
      (found : last.scope.findVariable? name = some cell) :
      Indexes
        ⟨.statement (.assignment (.element name position place ty target) value span), fuel,
          suspended, state⟩ cell

/-- Whatever the task of the moment operates on has the right class, so that operators and
built-in functions fail for the sake of the values alone. -/
structure Moment.OperandsFit (moment : Moment) : Prop where
  demanded : ∀ e state ty value after, moment.Demands e state ty →
    Eval.expr (Eval.invoke moment.fuel) e state = .ok value after → value.className = ty.name
  indexed : ∀ cell, moment.Indexes cell → cell.value.className = "List"
  operator : ∀ op left right span ty leftValue middle rightValue after cause,
    moment.task = .expression (.binary op left right span ty) → op.isLogical = false →
    Eval.expr (Eval.invoke moment.fuel) left moment.state = .ok leftValue middle →
    Eval.expr (Eval.invoke moment.fuel) right middle = .ok rightValue after →
    op.apply leftValue rightValue = .error cause → op.Refused leftValue rightValue cause
  builtin : ∀ function (builtin : Builtin) arguments offset sink cause,
    moment.task = .call function arguments offset → function.body = .builtin builtin →
    builtin.apply arguments moment.state.sink = (.error cause, sink) →
    builtin.Refused arguments cause

open Eval in
theorem MomentTyped.demanded {moment : Moment} {e : Expr} {state after : State} {ty : Ty}
    {value : Value} (typed : MomentTyped D moment) (demands : moment.Demands e state ty)
    (evaluated : expr (invoke moment.fuel) e state = .ok value after) : D.holds ty value := by
  have taskTyped := typed.task
  cases demands with
  | logicalLeft isLogical =>
      cases taskTyped with
      | expression typed stateTyped =>
          cases typed with
          | binary leftTyped rightTyped rule =>
              obtain ⟨rfl, rfl, rfl⟩ := rule.boolean_of_logical isLogical
              exact (stateTyped.after_expr leftTyped evaluated).1
  | logicalRight isLogical leftEvaluated =>
      cases taskTyped with
      | expression typed stateTyped =>
          cases typed with
          | binary leftTyped rightTyped rule =>
              obtain ⟨rfl, rfl, rfl⟩ := rule.boolean_of_logical isLogical
              have middleTyped := (stateTyped.after_expr leftTyped leftEvaluated).2
              exact (middleTyped.after_expr rightTyped evaluated).1
  | condition =>
      cases taskTyped with
      | statement typed stateTyped =>
          cases typed with
          | conditional conditionTyped thenTyped elseTyped =>
              exact (stateTyped.after_expr conditionTyped evaluated).1
  | round =>
      cases taskTyped with
      | rounds testTyped bodyTyped stateTyped =>
          exact (stateTyped.after_expr testTyped evaluated).1
  | index =>
      cases taskTyped with
      | expression typed stateTyped =>
          cases typed with
          | element indexTyped bound isList =>
              exact (stateTyped.after_expr indexTyped evaluated).1
  | assignedIndex assigned =>
      cases taskTyped with
      | statement typed stateTyped =>
          cases typed with
          | assignElement indexTyped bound isList isMutable typed accepted =>
              have middleTyped := stateTyped.after_assignable bound isMutable assigned
              exact (middleTyped.after_expr indexTyped evaluated).1

theorem StateTyped.className_of_list {scope : StaticScope} {state : State} {name : String}
    {target : Variable} {cell : Cell} (stateTyped : StateTyped D scope state)
    (bound : scope.findVariable? name = some target) (isList : target.isList = true)
    (found : state.scope.findVariable? name = some cell) : cell.value.className = "List" := by
  obtain ⟨other, otherFound, cellAgrees⟩ := stateTyped.variable_bound bound
  have same := Option.some.inj (otherFound.symm.trans found)
  subst same
  obtain ⟨elements, valueEq, _⟩ := cellAgrees.keeps.list isList
  rw [valueEq]
  rfl

open Eval in
theorem MomentTyped.indexed {moment : Moment} {cell : Cell} (typed : MomentTyped D moment)
    (indexes : moment.Indexes cell) : cell.value.className = "List" := by
  have taskTyped := typed.task
  cases indexes with
  | read indexed found =>
      cases taskTyped with
      | expression typed stateTyped =>
          cases typed with
          | element indexTyped bound isList =>
              have middleTyped := stateTyped.after_index indexTyped indexed
              exact middleTyped.className_of_list bound isList found
  | write assigned indexed evaluated found =>
      cases taskTyped with
      | statement typed stateTyped =>
          cases typed with
          | assignElement indexTyped bound isList isMutable typed accepted =>
              have middleTyped := stateTyped.after_assignable bound isMutable assigned
              have laterTyped := middleTyped.after_index indexTyped indexed
              have lastTyped := (laterTyped.after_expr typed evaluated).2
              exact lastTyped.className_of_list bound isList found

open Eval in
theorem MomentTyped.refused {moment : Moment} {op : BinaryOp} {left right : Expr} {span : Span}
    {ty : Option Ty} {leftValue rightValue : Value} {middle after : State} {cause : Cause}
    (typed : MomentTyped strict moment)
    (taskEq : moment.task = .expression (.binary op left right span ty))
    (notLogical : op.isLogical = false)
    (leftEvaluated : expr (invoke moment.fuel) left moment.state = .ok leftValue middle)
    (rightEvaluated : expr (invoke moment.fuel) right middle = .ok rightValue after)
    (applied : op.apply leftValue rightValue = .error cause) :
    op.Refused leftValue rightValue cause := by
  have taskTyped := typed.task
  rw [taskEq] at taskTyped
  cases taskTyped with
  | expression typed stateTyped =>
      cases typed with
      | binary leftTyped rightTyped rule =>
          obtain ⟨leftHolds, middleTyped⟩ := stateTyped.after_expr leftTyped leftEvaluated
          obtain ⟨rightHolds, _⟩ := middleTyped.after_expr rightTyped rightEvaluated
          have leftConcrete := ExprTyped.names _ leftTyped (by decide) stateTyped
          have rightConcrete := ExprTyped.names _ rightTyped (by decide) middleTyped
          exact BinaryOp.refused_of_apply rule notLogical leftConcrete rightConcrete leftHolds
            rightHolds applied

theorem MomentTyped.operandsFit {moment : Moment} (typed : MomentTyped strict moment) :
    moment.OperandsFit where
  demanded := by
    intro e state ty value after demands evaluated
    have holds := typed.demanded demands evaluated
    cases demands with
    | _ => exact holds (by decide)
  indexed := fun _ indexes => typed.indexed indexes
  operator := by
    intro op left right span ty leftValue middle rightValue after cause taskEq notLogical
      leftEvaluated rightEvaluated applied
    exact typed.refused taskEq notLogical leftEvaluated rightEvaluated applied
  builtin := by
    intro function builtin arguments offset sink cause taskEq bodyEq applied
    have taskTyped := typed.task
    rw [taskEq] at taskTyped
    cases taskTyped with
    | @call _ _ _ _ callee _ agrees holds stateTyped =>
        have bodyTyped := agrees.typed
        rw [bodyEq] at bodyTyped
        generalize callee.signature = signature at bodyTyped holds
        cases bodyTyped
        exact Builtin.refused_of_apply holds applied

/-- A run of a strict program fails by dividing by zero, by an exponent that is negative or does
not fit 32 bits, by an index outside a list, by an argument without a logarithm, by a radix
outside 2 to 36, or because the sink refuses a text; whatever operators, conditions and indices
meet has the right class. -/
theorem strict_run_fails_by_value {text file : String} {tree source : Source}
    (read : Source.parse text = .ok tree) (isStrict : tree.Strict)
    (checked : Program.check text file = .ok source) (fuel : Nat) (sink : Sink) :
    (∀ fault, (source.run fuel sink).result = .error (.fault fault) → fault.cause.Strict) ∧
      ∀ moment, source.Reaches fuel sink moment → moment.OperandsFit := by
  obtain ⟨tree', read', accepted⟩ := Program.check_eq_ok.mp checked
  have sameTree := Except.ok.inj (read'.symm.trans read)
  subst sameTree
  have shaped := Source.shaped_of_parse read
  obtain ⟨early, globals, typed⟩ :=
    Source.typed_of_check strict_liberal shaped (isStrict.suits shaped) accepted
  constructor
  · intro fault failed
    exact Discipline.permits_of_run typed fuel sink failed
  · intro moment reaches
    exact (momentTyped_of_reaches typed reaches).operandsFit

theorem strict_run_fails_by_value_exponent :
    ∃ tree source fault,
      Source.parse "FUN main(): Integer DO RETURN 2 ^ (0 - 1); END" = .ok tree ∧ tree.Strict ∧
        Program.check "FUN main(): Integer DO RETURN 2 ^ (0 - 1); END" "exponent" = .ok source ∧
          (source.run 9 .unlimited).result = .error (.fault fault) ∧
            fault.cause = .invalidOperand "^" "exponent -1" ∧ fault.cause.Strict := by
  have computed : ((Program.check "FUN main(): Integer DO RETURN 2 ^ (0 - 1); END"
      "exponent").toOption.bind fun source => (source.run 9 .unlimited).cause?) =
        some (.invalidOperand "^" "exponent -1") := by
    decide +kernel
  have treeStrict : (Source.parse "FUN main(): Integer DO RETURN 2 ^ (0 - 1); END").toOption.all
      (fun tree => tree.Strict) = true := by
    decide +kernel
  cases checked :
      Program.check "FUN main(): Integer DO RETURN 2 ^ (0 - 1); END" "exponent" with
  | error error =>
      rw [checked] at computed
      cases computed
  | ok source =>
      rw [checked] at computed
      obtain ⟨tree, read, _⟩ := Program.check_eq_ok.mp checked
      rw [read] at treeStrict
      have isStrict : tree.Strict := of_decide_eq_true treeStrict
      obtain ⟨fault, failed, causeEq⟩ := Outcome.cause?_eq_some.mp computed
      exact ⟨tree, source, fault, read, isStrict, rfl, failed, causeEq,
        (strict_run_fails_by_value read isStrict checked 9 .unlimited).1 fault failed⟩

end ScriptLang
