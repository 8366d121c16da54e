import ScriptLang.Proofs.MomentPaths
import ScriptLang.Proofs.Preservation

/-!
What may stand for `Comparable`.

`Comparable` accepts every type but `Boolean`, and so `Any`, through which a Boolean or a list
may come.  In a program in which nothing of type `Any` is put where `Comparable` is expected, no
Boolean and no list stands for `Comparable` in any run.
-/

namespace ScriptLang

/-- Neither a Boolean nor a list. -/
structure Value.Orderable (value : Value) : Prop where
  notBoolean : value.className ≠ "Boolean"
  notList : value.className ≠ "List"

namespace Value

variable {ty : Ty} {value : Value}

theorem orderable_nil : Value.nil.Orderable :=
  ⟨by decide, by decide⟩

theorem orderable_of_className (notBoolean : ty ≠ .boolean) (hasName : value.className = ty.name) :
    value.Orderable := by
  constructor
  · rw [hasName]
    intro same
    exact notBoolean (by cases ty with | _ => first | rfl | simp [Ty.name] at same)
  · rw [hasName]
    cases ty with
    | _ => decide

theorem HasClassOrNil.orderable (hasClass : value.HasClassOrNil ty) (concrete : ty.Concrete)
    (notBoolean : ty ≠ .boolean) : value.Orderable := by
  rcases hasClass concrete with hasName | rfl
  · exact orderable_of_className notBoolean hasName
  · exact orderable_nil

/-- A value of the class that a type names, or Nil, that is orderable if the type is
`Comparable`. -/
structure Suits (ty : Ty) (value : Value) : Prop where
  hasClass : value.HasClassOrNil ty
  orderable : ty = .comparable → value.Orderable

theorem Suits.ofClassName (hasName : value.className = ty.name) : value.Suits ty := by
  constructor
  · intro _
    exact .inl hasName
  · rintro rfl
    exact orderable_of_className (by decide) hasName

end Value

/-- The discipline under which nothing of type `Any` is put where `Comparable` is expected. -/
def orderly : Discipline where
  holds := Value.Suits
  admits := fun target source => (target, source) ≠ (.comparable, .any)
  sizes := fun _ _ => True
  names := fun _ => True
  blank := fun _ => True
  permits := Cause.Dynamic
  holds_any := fun value => ⟨lenient.holds_any value, fun impossible => by cases impossible⟩
  holds_of_accepts := by
    intro target source value accepted admitted suits
    refine ⟨lenient.holds_of_accepts accepted trivial suits.hasClass, ?_⟩
    rintro rfl
    by_cases same : source = .comparable
    · exact suits.orderable same
    · have notAny : source ≠ .any := fun isAny => admitted (by rw [isAny])
      have notBoolean : source ≠ .boolean := by simpa [Ty.accepts] using accepted
      exact suits.hasClass.orderable ⟨notAny, same⟩ notBoolean
  holds_nil := fun _ => ⟨fun _ => .inr rfl, fun _ => Value.orderable_nil⟩
  holds_boolean := fun _ => .ofClassName rfl
  holds_literal := fun inRange => .ofClassName (Typing.concrete_of_literalTy inRange).2
  names_concrete := fun _ => trivial
  truth := fun _ => .inr fun operator => .invalidOperand operator _
  position := fun _ => .inr (.invalidOperand _ _)
  outOfRange := .indexOutOfRange
  operator := by
    intro op leftTy rightTy ty left right _ _ notLogical rule leftSuits rightSuits
    unfold Ends
    cases applied : op.apply left right with
    | ok value =>
        exact .ofClassName (BinaryOp.className_of_apply rule notLogical leftSuits.hasClass
          rightSuits.hasClass applied)
    | error cause =>
        exact BinaryOp.dynamic_of_apply applied
  builtin := by
    intro builtin arguments sink _
    unfold Ends
    cases applied : builtin.apply arguments sink with
    | mk result after =>
        cases result with
        | ok value =>
            exact .ofClassName (Builtin.className_of_apply applied)
        | error cause =>
            exact Builtin.dynamic_of_apply applied

theorem orderly_takes {source : Source} (apart : (Ty.comparable, Ty.any) ∉ source.flows) :
    orderly.Takes lenient source where
  names := fun _ _ => trivial
  blank := fun _ _ => trivial
  flows := fun _ member same => apart (same ▸ member)
  sizes := fun _ _ _ _ _ _ _ _ => trivial

/-- At this moment, and where the evaluation of its task ends, no Boolean and no list stands for
`Comparable`. -/
structure Moment.KeepsComparables (moment : Moment) : Prop where
  expression : ∀ e value, moment.evaluated? = some (e, value) → e.ty? = some .comparable →
    e.isListLiteral = false → value.Orderable
  single : ∀ cell, moment.Lives cell → cell.binding.ty = .comparable →
    cell.binding.isList = false → cell.value.Orderable
  list : ∀ cell, moment.Lives cell → cell.binding.ty = .comparable →
    cell.binding.isList = true →
    ∃ elements, cell.value = .list elements ∧ ∀ element ∈ elements, element.Orderable

theorem MomentTyped.keepsComparables {moment : Moment} (typed : MomentTyped orderly moment) :
    moment.KeepsComparables where
  expression := by
    intro e value found decorated noList
    obtain ⟨taskEq, after, evaluated⟩ := Moment.evaluated?_eq_some.mp found
    have taskTyped := typed.task
    rw [taskEq] at taskTyped
    have suits : value.Suits .comparable :=
      taskTyped.holds_expression noList decorated evaluated
    exact suits.orderable rfl
  single := by
    intro cell lives isComparable isSingle
    have suits : cell.value.Suits cell.binding.ty := (typed.lives lives).single isSingle
    exact suits.orderable isComparable
  list := by
    intro cell lives isComparable isList
    obtain ⟨elements, valueEq, _, allSuit⟩ := (typed.lives lives).list isList
    refine ⟨elements, valueEq, ?_⟩
    intro element member
    have suits : element.Suits cell.binding.ty := allSuit element member
    exact suits.orderable isComparable

/-- No Boolean and no list stands for `Comparable` at any moment of a run, if the program puts
nothing of type `Any` where `Comparable` is expected. -/
theorem run_keepsComparables {text file : String} {source : Source}
    (checked : Program.check text file = .ok source)
    (apart : (Ty.comparable, Ty.any) ∉ source.flows) (fuel : Nat) (sink : Sink) {moment : Moment}
    (reaches : source.Reaches fuel sink moment) : moment.KeepsComparables := by
  obtain ⟨early, globals, typed⟩ := Program.typed_of_check checked
  have typed := typed.transfer (orderly_takes apart)
  exact (momentTyped_of_reaches typed reaches).keepsComparables

/-- An Integer stands for `Comparable` where no `Any` does. -/
theorem run_keepsComparables_integer :
    ∃ source moment e value,
      Program.check "FUN main(): Integer DO LET c: Comparable = 1; print(c); RETURN 0; END"
        "integer" = .ok source ∧
      (Ty.comparable, Ty.any) ∉ source.flows ∧ source.Reaches 9 .unlimited moment ∧
      moment.evaluated? = some (e, value) ∧ e.ty? = some .comparable ∧ value.Orderable := by
  have computed : ((Program.check
      "FUN main(): Integer DO LET c: Comparable = 1; print(c); RETURN 0; END"
      "integer").toOption.bind fun source =>
        ((source.start 9 .unlimited).follow? [2, 0, 1, 0, 0, 0, 0]).map fun moment =>
          (decide ((Ty.comparable, Ty.any) ∉ source.flows),
            moment.evaluated?.map fun (e, _) => (e.ty?, e.isListLiteral))) =
        some (true, some (some .comparable, false)) := by
    decide +kernel
  obtain ⟨source, moment, checked, reaches, seen⟩ := Program.exists_moment _ _ computed
  obtain ⟨isApart, looks⟩ := Prod.mk.inj seen
  obtain ⟨⟨e, value⟩, found, looks⟩ := Option.map_eq_some_iff.mp looks
  obtain ⟨decorated, noList⟩ := Prod.mk.inj looks
  have apart := of_decide_eq_true isApart
  exact ⟨source, moment, e, value, checked, apart, reaches, found, decorated,
    (run_keepsComparables checked apart 9 .unlimited reaches).expression e value found decorated
      noList⟩

/-- A program that prints a Boolean under the type `Comparable`. -/
def throughAnyText : String :=
  "LIST pair: Comparable = [1, 2]; FUN main(): Integer DO LET a: Any = TRUE; "
    ++ "LET c: Comparable = a; print(c); RETURN 0; END"

/-- Through `Any` a Boolean comes to be the value of a variable of type `Comparable` and of an
expression of that type; a list literal, which is decorated with the type of its elements, is a
list besides. -/
theorem comparable_holds_boolean :
    ∃ source,
      Program.check throughAnyText "boolean" = .ok source ∧
      (∃ moment e value cell, source.Reaches 9 .unlimited moment ∧
        moment.evaluated? = some (e, value) ∧ e.ty? = some .comparable ∧
        e.isListLiteral = false ∧ value.className = "Boolean" ∧
        moment.Lives cell ∧ cell.binding.ty = .comparable ∧ cell.binding.isList = false ∧
        cell.value.className = "Boolean") ∧
      ∃ moment e value, source.Reaches 9 .unlimited moment ∧
        moment.evaluated? = some (e, value) ∧ e.ty? = some .comparable ∧
        value.className = "List" := by
  have computed : ((Program.check throughAnyText "boolean").toOption.bind fun source =>
        ((source.start 9 .unlimited).follow? [2, 0, 1, 1, 0, 0, 0, 0]).map fun moment =>
          (moment.evaluated?.map fun (e, value) => (e.ty?, e.isListLiteral, value.className),
            (moment.state.scope.findVariable? "c").map fun cell =>
              (cell.binding, cell.value.className))) =
        some (some (some .comparable, false, "Boolean"),
          some (.plain "c" .comparable true false, "Boolean")) := by
    decide +kernel
  have literal : ((Program.check throughAnyText "boolean").toOption.bind fun source =>
        ((source.start 9 .unlimited).follow? [0, 0]).map fun moment =>
          moment.evaluated?.map fun (e, value) => (e.ty?, value.className)) =
        some (some (some .comparable, "List")) := by
    decide +kernel
  obtain ⟨source, moment, checked, reaches, seen⟩ := Program.exists_moment _ _ computed
  obtain ⟨seenValue, seenCell⟩ := Prod.mk.inj seen
  obtain ⟨⟨e, value⟩, found, looks⟩ := Option.map_eq_some_iff.mp seenValue
  obtain ⟨decorated, noList, isBoolean⟩ : e.ty? = some .comparable ∧ e.isListLiteral = false ∧
      value.className = "Boolean" := by simpa using looks
  obtain ⟨cell, bound, looks⟩ := Option.map_eq_some_iff.mp seenCell
  obtain ⟨bindingEq, holdsBoolean⟩ := Prod.mk.inj looks
  obtain ⟨source', first, checked', reachesFirst, seenFirst⟩ := Program.exists_moment _ _ literal
  obtain ⟨⟨listed, elements⟩, foundFirst, looks⟩ := Option.map_eq_some_iff.mp seenFirst
  obtain ⟨listDecorated, isList⟩ := Prod.mk.inj looks
  cases checked.symm.trans checked'
  refine ⟨source, checked, ⟨moment, e, value, cell, reaches, found, decorated, noList, isBoolean,
    Moment.lives_of_find bound, ?_, ?_, holdsBoolean⟩, first, listed, elements, reachesFirst,
    foundFirst, listDecorated, isList⟩
  · rw [bindingEq]
    rfl
  · rw [bindingEq]
    rfl

end ScriptLang
