import Mathlib
import ScriptLang.Proofs.Preservation

/-!
Names mean in a run what checking found them to mean.

The interpreter looks a name up again whenever it evaluates a node, and consults no decoration.
What it finds is the variable or the function that checking decorated the node with.
-/

namespace ScriptLang

namespace Moment

open Eval in
/-- While the task of the moment is evaluated, a variable is looked up in the given state for a
node with the given decoration.  An assignment looks its receiver up before the value is
evaluated, and again to store it; so does an element, before and after its index. -/
inductive ResolvesVariable : Moment → String → Option Variable → State → Prop where
  | access {fuel : Nat} {suspended : List RunFrame} {state : State} {name : String} {span : Span}
      {ty : Option Ty} {target : Option Variable} :
      ResolvesVariable ⟨.expression (.access name span ty target), fuel, suspended, state⟩ name
        target state
  | element {fuel : Nat} {suspended : List RunFrame} {state : State} {name : String}
      {position : Expr} {span : Span} {ty : Option Ty} {target : Option Variable} :
      ResolvesVariable ⟨.expression (.element name position span ty target), fuel, suspended, state⟩
        name target state
  | elementRead {fuel : Nat} {suspended : List RunFrame} {state middle : State} {name : String}
      {position : Expr} {span : Span} {ty : Option Ty} {target : Option Variable} {i : Int}
      (indexed : index (invoke fuel) position state = .ok i middle) :
      ResolvesVariable ⟨.expression (.element name position span ty target), fuel, suspended, state⟩
        name target middle
  | receiver {fuel : Nat} {suspended : List RunFrame} {state : State} {name : String}
      {place span : Span} {ty : Option Ty} {target : Option Variable} {value : Expr} :
      ResolvesVariable
        ⟨.statement (.assignment (.access name place ty target) value span), fuel, suspended, state⟩
        name target state
  | stored {fuel : Nat} {suspended : List RunFrame} {state middle later : State} {name : String}
      {place span : Span} {ty : Option Ty} {target : Option Variable} {value : Expr} {v : Value}
      (assigned : assignable name place.start span.start state = .ok () middle)
      (evaluated : expr (invoke fuel) value middle = .ok v later) :
      ResolvesVariable
        ⟨.statement (.assignment (.access name place ty target) value span), fuel, suspended, state⟩
        name target later
  | elementReceiver {fuel : Nat} {suspended : List RunFrame} {state : State} {name : String}
      {position : Expr} {place span : Span} {ty : Option Ty} {target : Option Variable}
      {value : Expr} :
      ResolvesVariable
        ⟨.statement (.assignment (.element name position place ty target) value span), fuel,
          suspended, state⟩ name target state
  | elementStored {fuel : Nat} {suspended : List RunFrame} {state middle later last : State}
      {name : String} {position : Expr} {place span : Span} {ty : Option Ty}
      {target : Option Variable} {value : Expr} {i : Int} {v : Value}
      (assigned : assignable name place.start span.start state = .ok () middle)
      (indexed : index (invoke fuel) position middle = .ok i later)
      (evaluated : expr (invoke fuel) value later = .ok v last) :
      ResolvesVariable
        ⟨.statement (.assignment (.element name position place ty target) value span), fuel,
          suspended, state⟩ name target last

open Eval in
/-- While the task of the moment is evaluated, a function is looked up in the given state, by its
name and the number of arguments, for a node with the given decoration. -/
inductive ResolvesFunction : Moment → String × Nat → Option Callee → State → Prop where
  | call {fuel : Nat} {suspended : List RunFrame} {state middle : State} {name : String}
      {arguments : List Expr} {span : Span} {ty : Option Ty} {callee : Option Callee}
      {values : List Value}
      (evaluated : exprs (invoke fuel) arguments state = .ok values middle) :
      ResolvesFunction ⟨.expression (.call name arguments span ty callee), fuel, suspended, state⟩
        (name, values.length) callee middle

end Moment

variable {D : Discipline} {scope : StaticScope} {state : State}

theorem StateTyped.resolves {name : String} {target : Variable}
    (bound : scope.findVariable? name = some target) (stateTyped : StateTyped D scope state) :
    ∃ cell, state.scope.findVariable? name = some cell ∧ some target = some cell.binding := by
  obtain ⟨cell, found, cellAgrees⟩ := stateTyped.variable_bound bound
  exact ⟨cell, found, congrArg some cellAgrees.same.symm⟩

open Eval in
theorem MomentTyped.resolvesVariable {moment : Moment} {name : String}
    {decoration : Option Variable} (typed : MomentTyped D moment)
    (resolves : moment.ResolvesVariable name decoration state) :
    ∃ cell, state.scope.findVariable? name = some cell ∧ decoration = some cell.binding := by
  have taskTyped := typed.task
  cases resolves with
  | access =>
      cases taskTyped with
      | expression typed stateTyped =>
          cases typed with
          | access bound whole =>
              exact stateTyped.resolves bound
  | element =>
      cases taskTyped with
      | expression typed stateTyped =>
          cases typed with
          | element indexTyped bound isList =>
              exact stateTyped.resolves bound
  | elementRead indexed =>
      cases taskTyped with
      | expression typed stateTyped =>
          cases typed with
          | element indexTyped bound isList =>
              have middleTyped := stateTyped.after_index indexTyped indexed
              exact middleTyped.resolves bound
  | receiver =>
      cases taskTyped with
      | statement typed stateTyped =>
          cases typed with
          | assignWhole bound isSingle isMutable typed accepted =>
              exact stateTyped.resolves bound
  | stored assigned evaluated =>
      cases taskTyped with
      | statement typed stateTyped =>
          cases typed with
          | assignWhole bound isSingle isMutable typed accepted =>
              have middleTyped := stateTyped.after_assignable bound isMutable assigned
              have laterTyped := (middleTyped.after_expr typed evaluated).2
              exact laterTyped.resolves bound
  | elementReceiver =>
      cases taskTyped with
      | statement typed stateTyped =>
          cases typed with
          | assignElement indexTyped bound isList isMutable typed accepted =>
              exact stateTyped.resolves bound
  | elementStored assigned indexed evaluated =>
      cases taskTyped with
      | statement typed stateTyped =>
          cases typed with
          | assignElement indexTyped bound isList isMutable typed accepted =>
              have middleTyped := stateTyped.after_assignable bound isMutable assigned
              have laterTyped := middleTyped.after_index indexTyped indexed
              have lastTyped := (laterTyped.after_expr typed evaluated).2
              exact lastTyped.resolves bound

open Eval in
theorem MomentTyped.resolvesFunction {moment : Moment} {key : String × Nat}
    {decoration : Option Callee} (typed : MomentTyped D moment)
    (resolves : moment.ResolvesFunction key decoration state) :
    ∃ function callee, state.scope.findFunction? key = some function ∧
      decoration = some callee ∧ function.signature = callee.signature := by
  have taskTyped := typed.task
  cases resolves with
  | call evaluated =>
      cases taskTyped with
      | expression typed stateTyped =>
          cases typed with
          | call bound argumentsTyped =>
              obtain ⟨_, middleTyped, bound⟩ :=
                stateTyped.after_arguments bound argumentsTyped evaluated
              obtain ⟨function, found, agrees⟩ := middleTyped.function_bound bound
              exact ⟨function, _, found, rfl, agrees.same⟩

/-- Whenever a run of a checked program looks a name up, it finds a variable or a function, and
that is the one that checking decorated the node with. -/
theorem resolution_agrees {text file : String} {source : Source}
    (checked : Program.check text file = .ok source) (fuel : Nat) (sink : Sink) {moment : Moment}
    (reaches : source.Reaches fuel sink moment) :
    (∀ name decoration state, moment.ResolvesVariable name decoration state →
      ∃ cell, state.scope.findVariable? name = some cell ∧ decoration = some cell.binding) ∧
    ∀ key decoration state, moment.ResolvesFunction key decoration state →
      ∃ function callee, state.scope.findFunction? key = some function ∧
        decoration = some callee ∧ function.signature = callee.signature := by
  obtain ⟨early, globals, typed⟩ := Program.typed_of_check checked
  have momentTyped := momentTyped_of_reaches typed reaches
  constructor
  · intro name decoration state resolves
    exact momentTyped.resolvesVariable resolves
  · intro key decoration state resolves
    exact momentTyped.resolvesFunction resolves

/-- A program whose function has a variable of the same name as a global one of another type. -/
def shadowing : Source :=
  let outer := Variable.plain "x" .character false false
  let inner := Variable.plain "x" .integer true false
  { globals := [{
      name := "x"
      mutable := false
      isList := false
      typeName := none
      value := some (.literal (.character 'a') ⟨8, 11⟩ (some .character))
      span := ⟨0, 12⟩
      target := some outer }]
    functions := [{
      name := "main"
      parameters := []
      returnTypeName := some "Integer"
      body := [
        .declaration "x" none (some (.literal (.integer 1) ⟨44, 45⟩ (some .integer))) ⟨36, 46⟩
          (some inner),
        .result (.access "x" ⟨54, 55⟩ (some .integer) (some inner)) ⟨47, 56⟩]
      span := ⟨13, 60⟩
      callee := some { signature := .plain "main" [] .integer, kind := .signature } }]
    span := ⟨0, 60⟩ }

theorem check_shadowing :
    Program.check "VAL x = 'a'; FUN main(): Integer DO LET x = 1; RETURN x; END" "shadowing" =
      .ok shadowing := by
  cbv

theorem reaches_shadowing :
    ∃ moment state, shadowing.Reaches 3 .unlimited moment ∧
      moment.ResolvesVariable "x" (some (.plain "x" .integer true false)) state := by
  have start : shadowing.Reaches 3 .unlimited _ := .refl
  have main := start.tail (.part (.main rfl))
  have body := main.tail (.body rfl rfl)
  have declared := body.tail (.part (.nextStatements rfl))
  have last := declared.tail (.part .firstStatement)
  have returned := last.tail (.part .returned)
  exact ⟨_, _, returned, .access⟩

/-- The variable that the result of the function names is the inner one of the two. -/
theorem resolution_agrees_shadowing :
    ∃ moment state cell, shadowing.Reaches 3 .unlimited moment ∧
      moment.ResolvesVariable "x" (some (.plain "x" .integer true false)) state ∧
      state.scope.findVariable? "x" = some cell ∧
      cell.binding = .plain "x" .integer true false := by
  obtain ⟨moment, state, reaches, resolves⟩ := reaches_shadowing
  obtain ⟨cell, found, same⟩ :=
    (resolution_agrees check_shadowing 3 .unlimited reaches).1 _ _ _ resolves
  exact ⟨moment, state, cell, reaches, resolves, found, (Option.some.inj same).symm⟩

end ScriptLang
