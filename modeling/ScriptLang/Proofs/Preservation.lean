import ScriptLang.Program
import ScriptLang.Proofs.Checked
import ScriptLang.Proofs.Classes
import ScriptLang.Proofs.Flows
import ScriptLang.Proofs.TypedMoments

/-!
Static types are kept to by every run of a checked program.

A variable holds a value of the class of its type, or Nil; a list holds such elements; and what
expressions and calls yield is of their types.
-/

namespace ScriptLang

/-! ### Checked programs -/

theorem lenient_liberal : lenient.Liberal :=
  ⟨fun _ _ => trivial, fun _ _ => trivial⟩

theorem lenient_suits (declaration : Option String × Option Expr) : lenient.Suits declaration :=
  fun _ _ _ _ => ⟨trivial, fun _ => trivial⟩

theorem lenient_suitsSource (source : Source) : lenient.SuitsSource source where
  globals := fun _ _ => lenient_suits _
  declarations := fun _ _ _ _ => lenient_suits _
  parameters := fun _ _ _ _ _ _ => trivial
  results := fun _ _ _ _ => ⟨trivial, .inl trivial⟩

theorem Program.typed_of_check {text file : String} {source : Source}
    (checked : Program.check text file = .ok source) :
    ∃ early globals, SourceTyped lenient source early globals := by
  obtain ⟨tree, parsed, accepted⟩ := Program.check_eq_ok.mp checked
  exact Source.typed_of_check lenient_liberal (Source.shaped_of_parse parsed)
    (lenient_suitsSource tree) accepted

/-! ### What typed moments yield -/

variable {D : Discipline}

theorem TaskTyped.holds_expression {e : Expr} {ty : Ty} {fuel : Nat} {state after : State}
    {value : Value} (typed : TaskTyped D (.expression e) state) (noList : e.isListLiteral = false)
    (decorated : e.ty? = some ty)
    (evaluated : Eval.expr (Eval.invoke fuel) e state = .ok value after) : D.holds ty value := by
  cases typed with
  | expression typed stateTyped =>
      have sameTy := typed.ty?_eq.symm.trans decorated
      cases sameTy
      exact (stateTyped.after_expr typed evaluated).1
  | list typed stateTyped =>
      cases noList

theorem TaskTyped.holds_call {function : Function} {arguments : List Value} {offset fuel : Nat}
    {state after : State} {value : Value}
    (typed : TaskTyped D (.call function arguments offset) state)
    (returned : Eval.invoke fuel function arguments offset state = .ok value after) :
    D.holds function.signature.returnType value := by
  cases typed with
  | call agrees holds stateTyped =>
      rw [agrees.same]
      exact ((Eval.invoke_sound fuel _ offset agrees holds rfl stateTyped).of_ok returned).1

/-- At this moment, and where the evaluation of its task ends, values have the classes that
static types name, or are Nil. -/
structure Moment.KeepsTypes (moment : Moment) : Prop where
  single : ∀ cell, moment.Lives cell → cell.binding.isList = false →
    cell.value.HasClassOrNil cell.binding.ty
  list : ∀ cell, moment.Lives cell → cell.binding.isList = true →
    ∃ elements, cell.value = .list elements ∧
      ∀ element ∈ elements, element.HasClassOrNil cell.binding.ty
  expression : ∀ e ty value after, moment.task = .expression e → e.isListLiteral = false →
    e.ty? = some ty → Eval.expr (Eval.invoke moment.fuel) e moment.state = .ok value after →
    value.HasClassOrNil ty
  call : ∀ function arguments offset value after,
    moment.task = .call function arguments offset →
    Eval.invoke moment.fuel function arguments offset moment.state = .ok value after →
    value.HasClassOrNil function.signature.returnType

theorem MomentTyped.keepsTypes {moment : Moment} (typed : MomentTyped lenient moment) :
    moment.KeepsTypes where
  single := fun _ lives => (typed.lives lives).single
  list := by
    intro cell lives isList
    obtain ⟨elements, valueEq, _, allHold⟩ := (typed.lives lives).list isList
    exact ⟨elements, valueEq, allHold⟩
  expression := by
    intro e ty value after taskEq noList decorated evaluated
    have taskTyped := typed.task
    rw [taskEq] at taskTyped
    exact taskTyped.holds_expression noList decorated evaluated
  call := by
    intro function arguments offset value after taskEq returned
    have taskTyped := typed.task
    rw [taskEq] at taskTyped
    exact taskTyped.holds_call returned

theorem Source.run_eq {source : Source} {fuel : Nat} {sink : Sink} :
    (source.run fuel sink).result =
      match Eval.program fuel source (.initial sink) with
      | .ok value _ => .ok value
      | .error stop _ => .error stop := by
  unfold Source.run
  cases Eval.program fuel source (.initial sink) with
  | ok value after =>
      rfl
  | error stop after =>
      rfl

/-- Every run of a checked program keeps to the static types at every moment; a run that ends
well ends with an Integer or Nil. -/
theorem run_keepsTypes {text file : String} {source : Source}
    (checked : Program.check text file = .ok source) (fuel : Nat) (sink : Sink) :
    (∀ moment, source.Reaches fuel sink moment → moment.KeepsTypes) ∧
      ∀ value, (source.run fuel sink).result = .ok value →
        value.className = "Integer" ∨ value = .nil := by
  obtain ⟨early, globals, typed⟩ := Program.typed_of_check checked
  constructor
  · intro moment reaches
    exact (momentTyped_of_reaches typed reaches).keepsTypes
  · intro value returned
    have led := Eval.program_sound fuel typed (State.initial_typed sink)
    rw [Source.run_eq] at returned
    split at returned
    · rename_i ended
      cases returned
      exact (led.of_ok ended).1 (by decide)
    · cases returned

/-- A variable without a value makes a run end with Nil where an Integer is declared. -/
theorem run_keepsTypes_unset :
    ∃ source value,
      Program.check "FUN main(): Integer DO LET x: Integer; RETURN x; END" "unset" = .ok source ∧
        (source.run 9 .unlimited).result = .ok value ∧ value.className = "Nil" ∧
          (value.className = "Integer" ∨ value = .nil) := by
  have computed : ((Program.check "FUN main(): Integer DO LET x: Integer; RETURN x; END"
      "unset").toOption.bind fun source =>
        (source.run 9 .unlimited).result.toOption.map Value.className) = some "Nil" := by
    decide +kernel
  cases checked :
      Program.check "FUN main(): Integer DO LET x: Integer; RETURN x; END" "unset" with
  | error error =>
      rw [checked] at computed
      cases computed
  | ok source =>
      rw [checked] at computed
      change (source.run 9 .unlimited).result.toOption.map Value.className = some "Nil" at computed
      cases returned : (source.run 9 .unlimited).result with
      | error stop =>
          rw [returned] at computed
          cases computed
      | ok value =>
          rw [returned] at computed
          exact ⟨source, value, rfl, returned, Option.some.inj computed,
            (run_keepsTypes checked 9 .unlimited).2 value returned⟩

end ScriptLang
