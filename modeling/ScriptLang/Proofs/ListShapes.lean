import Mathlib.Data.List.Nodup
import ScriptLang.Proofs.Accesses
import ScriptLang.Proofs.MomentPaths
import ScriptLang.Proofs.Outlines
import ScriptLang.Proofs.Preservation

/-!
The lengths of list variables.

A global that is declared as a list has as many elements as its initial value from its definition
on, whatever is stored into it.  So an index into it is out of range or it is not, however the
program runs, and nothing else can go wrong with it.
-/

namespace ScriptLang

variable {source : Source} {name : String} {global : GlobalDecl}

/-! ### The lengths that are declared -/

/-- The program declares a list of that name with so many elements. -/
def Source.Sizes (source : Source) (name : String) (count : Nat) : Prop :=
  ∃ global ∈ source.globals, global.name = name ∧ global.isList = true ∧
    ∃ elements span ty, global.value = some (.list elements span ty) ∧ elements.length = count

/-- The discipline under which lists have as many elements as they are declared with. -/
def shaped (source : Source) : Discipline :=
  { lenient with sizes := fun target count => source.Sizes target.name count }

theorem shaped_takes (source : Source) : (shaped source).Takes lenient source where
  names := fun _ _ => trivial
  blank := fun _ _ => trivial
  flows := fun _ _ => trivial
  sizes := fun global member isList elements span ty initial _ =>
    ⟨global, member, rfl, isList, elements, span, ty, initial, rfl⟩

variable {D : Discipline} {static last : StaticFrame}

theorem GlobalsTyped.names_apart {globals : List GlobalDecl}
    (typed : GlobalsTyped D static globals last) :
    (∀ global ∈ globals, static.findVariable? global.name = none) ∧
      (globals.map GlobalDecl.name).Nodup := by
  induction globals generalizing static with
  | nil =>
      exact ⟨List.forall_mem_nil _, List.nodup_nil⟩
  | cons first rest inductionHypothesis =>
      cases typed with
      | cons firstTyped decorated unbound restTyped =>
          obtain ⟨restUnbound, restApart⟩ := inductionHypothesis restTyped
          have notFirst : ∀ global ∈ rest, global.name ≠ first.name ∧
              static.findVariable? global.name = none := by
            intro global member
            have unboundBehind := restUnbound global member
            rw [Frame.findVariable?_addVariable] at unboundBehind
            split at unboundBehind
            · cases unboundBehind
            · rename_i different
              exact ⟨different, unboundBehind⟩
          refine ⟨List.forall_mem_cons.mpr ⟨unbound, fun global member =>
            (notFirst global member).2⟩, ?_⟩
          refine List.nodup_cons.mpr ⟨?_, restApart⟩
          intro member
          obtain ⟨global, inRest, sameName⟩ := List.mem_map.mp member
          exact (notFirst global inRest).1 sameName

theorem GlobalsTyped.findVariable?_last {globals : List GlobalDecl}
    (typed : GlobalsTyped D static globals last) {target : Variable}
    (bound : static.findVariable? name = some target) : last.findVariable? name = some target := by
  induction globals generalizing static with
  | nil =>
      cases typed
      exact bound
  | cons first rest inductionHypothesis =>
      cases typed with
      | cons firstTyped decorated unbound restTyped =>
          apply inductionHypothesis restTyped
          rw [Frame.findVariable?_addVariable, if_neg]
          · exact bound
          · rintro rfl
            rw [bound] at unbound
            cases unbound

theorem GlobalTyped.isList_eq {target : Variable} (typed : GlobalTyped D static global target) :
    target.isList = global.isList := by
  cases typed with
  | list isList initial named sized typed => exact isList.symm
  | single isSingle typed => exact isSingle.symm

theorem GlobalsTyped.of_mem {globals : List GlobalDecl} (typed : GlobalsTyped D static globals last)
    (member : global ∈ globals) :
    ∃ before target, GlobalTyped D before global target ∧
      last.findVariable? global.name = some target := by
  induction globals generalizing static with
  | nil =>
      cases member
  | cons first rest inductionHypothesis =>
      cases typed with
      | @cons _ _ _ _ target firstTyped decorated unbound restTyped =>
          rcases List.mem_cons.mp member with rfl | inRest
          · refine ⟨static, target, firstTyped, restTyped.findVariable?_last ?_⟩
            rw [Frame.findVariable?_addVariable, if_pos rfl]
          · exact inductionHypothesis restTyped inRest

theorem GlobalTyped.initial_eq {target : Variable} (typed : GlobalTyped D static global target)
    (isList : global.isList = true) :
    ∃ elements span ty, global.value = some (.list elements span ty) := by
  cases typed with
  | list _ initial named sized typed =>
      exact ⟨_, _, _, initial⟩
  | single isSingle typed =>
      rw [isList] at isSingle
      cases isSingle

theorem SourceTyped.sizes_eq {early globals : StaticFrame}
    (typed : SourceTyped D source early globals) {first second : Nat}
    (firstSize : source.Sizes name first) (secondSize : source.Sizes name second) :
    first = second := by
  obtain ⟨global, member, rfl, _, elements, _, _, initial, rfl⟩ := firstSize
  obtain ⟨other, otherMember, sameName, _, others, _, _, otherInitial, rfl⟩ := secondSize
  have same : other = global :=
    List.inj_on_of_nodup_map typed.globalsTyped.names_apart.2 otherMember member sameName
  rw [same, initial] at otherInitial
  cases otherInitial
  rfl

/-! ### Elements of lists -/

/-- The step succeeds if the index is that of one of so many elements, and otherwise fails at the
offset as the index is out of range; it fails in no other way. -/
structure ChecksRange {α : Type} (result : EStateM.Result Stop State α) (index : Int)
    (count offset : Nat) : Prop where
  inside : 0 ≤ index → index < count → ∃ value after, result = .ok value after
  outside : index < 0 ∨ (count : Int) ≤ index → ∃ after, result =
    .error (.fault { cause := .indexOutOfRange (toString index) count, offset := offset }) after

theorem AccessesElement.checksRange {α : Type} {result : EStateM.Result Stop State α} {index : Int}
    {count offset : Nat} {good : α → State → Prop} {last : State}
    (accesses : AccessesElement result index count offset good last) :
    ChecksRange result index count offset where
  inside nonNegative below := accesses.succeeds.mpr ⟨nonNegative, below⟩
  outside isOutside := ⟨last, accesses.fails fun inRange => by
    rcases isOutside with negative | above
    · exact absurd inRange.1 (Int.not_le.mpr negative)
    · exact absurd inRange.2 (Int.not_lt.mpr above)⟩

/-! ### Moments -/

section Typed

variable {scope : StaticScope} {state : State} {target : Variable}

theorem StateTyped.list_bound (stateTyped : StateTyped (shaped source) scope state)
    (named : state.Named) (bound : scope.findVariable? name = some target)
    (isList : target.isList = true) :
    ∃ cell elements, state.scope.findVariable? name = some cell ∧
      cell.binding = target ∧ cell.value = .list elements ∧
      source.Sizes name elements.length := by
  obtain ⟨cell, found, agrees⟩ := stateTyped.variable_bound bound
  obtain ⟨elements, valueEq, sized, _⟩ := agrees.keeps.list isList
  have nameEq : target.name = name := by
    rw [← agrees.same]
    exact named.name_eq found
  have sized : source.Sizes target.name elements.length := sized
  rw [nameEq] at sized
  exact ⟨cell, elements, found, agrees.same, valueEq, sized⟩

end Typed

theorem State.Named.after_expr {state after : State} {fuel : Nat} {e : Expr} {value : Value}
    (named : state.Named) (evaluated : Eval.expr (Eval.invoke fuel) e state = .ok value after) :
    after.Named := by
  have calls := Eval.outlineLaws.invoke_respects fuel
  exact ((Eval.expr_respects calls e).of_ok evaluated).wider.named named

def Moment.HoldsList (moment : Moment) (name : String) (count : Nat) : Prop :=
  ∀ state, state = moment.state ∨ state = moment.last →
    ∃ cell elements, state.scope.globals.findVariable? name = some cell ∧
      cell.value = .list elements ∧ elements.length = count

/-- At this moment an element of the list of that name is read or stored if its index is that of
one of so many elements, and nothing else is asked of it. -/
structure Moment.ChecksRanges (moment : Moment) (name : String) (count : Nat) : Prop where
  read : ∀ index span ty target i later,
    moment.task = .expression (.element name index span ty target) →
    Eval.expr (Eval.invoke moment.fuel) index moment.state = .ok (.integer i) later →
    ChecksRange (Eval.expr (Eval.invoke moment.fuel) (.element name index span ty target)
      moment.state) i count span.start
  write : ∀ index place ty target value span i middle result last,
    moment.task = .statement (.assignment (.element name index place ty target) value span) →
    Eval.expr (Eval.invoke moment.fuel) index moment.state = .ok (.integer i) middle →
    Eval.expr (Eval.invoke moment.fuel) value middle = .ok result last →
    ChecksRange (Eval.assign (Eval.invoke moment.fuel) (.element name index place ty target) value
      span.start moment.state) i count place.start

/-- The moments of a run behind the definition of a global. -/
inductive Source.ReachesBehind (source : Source) (fuel : Nat) (sink : Sink)
    (global : GlobalDecl) : Moment → Prop where
  | defined {moment : Moment} {rest : List GlobalDecl} {state : State}
      (reaches : source.Reaches fuel sink moment) (taskEq : moment.task = .globals (global :: rest))
      (bound : Eval.defineGlobal moment.fuel global moment.state = .ok () state) :
      ReachesBehind source fuel sink global { moment with task := .globals rest, state := state }
  | functions {state : State}
      (bound : Eval.defineGlobals fuel source.globals (.initial sink) = .ok () state) :
      ReachesBehind source fuel sink global
        { source.start fuel sink with task := .functions source.functions, state := state }
  | main {main : Function} {state : State}
      (loaded : Eval.load fuel source (.initial sink) = .ok main state) :
      ReachesBehind source fuel sink global
        { source.start fuel sink with task := .call main [] source.span.start, state := state }
  | enters {moment next : Moment} (behind : ReachesBehind source fuel sink global moment)
      (enters : moment.Enters next) : ReachesBehind source fuel sink global next

theorem Source.ReachesBehind.reaches {fuel : Nat} {sink : Sink} {moment : Moment}
    (behind : source.ReachesBehind fuel sink global moment) : source.Reaches fuel sink moment := by
  induction behind with
  | @defined moment rest state reaches taskEq bound =>
      refine reaches.tail (.part ?_)
      rw [taskEq]
      exact .nextGlobals bound
  | functions bound =>
      exact .single (.part (.functions bound))
  | main loaded =>
      exact .single (.part (.main loaded))
  | enters behind enters inductionHypothesis =>
      exact inductionHypothesis.tail enters

def State.BindsList (state : State) (name : String) : Prop :=
  ∃ target, RunFrame.outline state.scope.globals name = some target ∧ target.isList = true

theorem State.BindsList.lasts {before after : State} (binds : before.BindsList name)
    (grow : before.GlobalsGrow after) : after.BindsList name := by
  obtain ⟨target, bound, isList⟩ := binds
  exact ⟨target, grow.of_bound bound, isList⟩

theorem StateTyped.bindsList {state : State} {target : Variable}
    (stateTyped : StateTyped D (.ofGlobals static) state)
    (bound : static.findVariable? name = some target) (isList : target.isList = true) :
    state.BindsList name := by
  have related := stateTyped.globals.cells name
  change Option.Rel _ (static.findVariable? name) _ at related
  rw [bound] at related
  obtain ⟨cell, found, agrees⟩ := exists_of_rel_some related
  refine ⟨target, ?_, isList⟩
  unfold RunFrame.outline
  rw [found]
  exact congrArg some agrees.same

theorem FunctionsDeclared.findVariable?_eq {functions : List FunctionDecl}
    (declared : FunctionsDeclared static functions last) :
    last.findVariable? name = static.findVariable? name := by
  induction declared with
  | nil => rfl
  | cons decorated named plain unbound restDeclared inductionHypothesis =>
      exact inductionHypothesis

section Runs

variable {early globals : StaticFrame} {fuel : Nat} {sink : Sink} {moment : Moment}

theorem Source.ReachesBehind.bindsList (typed : SourceTyped D source early globals)
    (member : global ∈ source.globals) (isList : global.isList = true)
    (behind : source.ReachesBehind fuel sink global moment) :
    moment.state.BindsList global.name := by
  obtain ⟨before, target, globalTyped, bound⟩ := typed.globalsTyped.of_mem member
  have isListTarget := globalTyped.isList_eq.trans isList
  induction behind with
  | @defined moment rest state reaches taskEq definedHere =>
      have taskTyped := (momentTyped_of_reaches typed reaches).task
      rw [taskEq] at taskTyped
      cases taskTyped with
      | globals onlyBuiltins globalsTyped stateTyped =>
          cases globalsTyped with
          | cons firstTyped decorated unbound restTyped =>
              have afterTyped := (Eval.defineGlobal_sound moment.fuel onlyBuiltins firstTyped
                decorated unbound stateTyped).of_ok definedHere
              refine afterTyped.bindsList ?_ (firstTyped.isList_eq.trans isList)
              rw [Frame.findVariable?_addVariable, if_pos rfl]
  | functions definedAll =>
      have afterTyped := ((Eval.defineGlobals_sound fuel onlyBuiltins_builtinFrame
        typed.globalsTyped (State.initial_typed sink)).of_ok definedAll).2
      exact afterTyped.bindsList bound isListTarget
  | main loaded =>
      have afterTyped := ((Eval.load_sound fuel typed (State.initial_typed sink)).of_ok loaded).1
      refine afterTyped.bindsList ?_ isListTarget
      rw [typed.declared.findVariable?_eq]
      exact bound
  | enters behind enters inductionHypothesis =>
      exact inductionHypothesis.lasts (globalsGrow_lasts.entered Eval.outlineLaws enters)

theorem MomentTyped.sizes_of_binds (typed : MomentTyped (shaped source) moment) {state : State}
    (beginsOrEnds : state = moment.state ∨ state = moment.last) (named : state.Named)
    (binds : state.BindsList name) :
    ∃ cell elements, state.scope.globals.findVariable? name = some cell ∧
      cell.value = .list elements ∧ source.Sizes name elements.length := by
  obtain ⟨target, bound, isList⟩ := binds
  obtain ⟨cell, found, rfl⟩ := Option.map_eq_some_iff.mp bound
  have inFrames : state.scope.globals ∈ state.scope.frames := by
    unfold Chain.frames
    exact List.mem_append_right _ (List.mem_singleton_self _)
  have lives : moment.Lives cell :=
    ⟨state, beginsOrEnds, _, List.mem_append_left _ inFrames, name, found⟩
  obtain ⟨elements, valueEq, sized, _⟩ := (typed.lives lives).list isList
  have nameEq := named _ (List.mem_map_of_mem inFrames) name cell.binding bound
  have sized : source.Sizes cell.binding.name elements.length := sized
  rw [nameEq] at sized
  exact ⟨cell, elements, found, valueEq, sized⟩

theorem Source.ReachesBehind.holdsList (typed : SourceTyped (shaped source) source early globals)
    (member : global ∈ source.globals) (isList : global.isList = true) {count : Nat}
    (sized : source.Sizes global.name count)
    (behind : source.ReachesBehind fuel sink global moment) :
    moment.HoldsList global.name count := by
  have momentTyped := momentTyped_of_reaches typed behind.reaches
  have named := named_of_reaches behind.reaches
  have binds := behind.bindsList typed member isList
  intro state beginsOrEnds
  have here : state.Named ∧ state.BindsList global.name := by
    rcases beginsOrEnds with rfl | rfl
    · exact ⟨named, binds⟩
    · exact ⟨named_lasts.last Eval.outlineLaws moment named,
        binds.lasts (globalsGrow_lasts.last Eval.outlineLaws moment)⟩
  obtain ⟨cell, elements, found, valueEq, sizedHere⟩ :=
    momentTyped.sizes_of_binds beginsOrEnds here.1 here.2
  exact ⟨cell, elements, found, valueEq, typed.sizes_eq sizedHere sized⟩

theorem MomentTyped.checksRanges (typed : SourceTyped (shaped source) source early globals)
    (momentTyped : MomentTyped (shaped source) moment) (named : moment.state.Named) {count : Nat}
    (sized : source.Sizes name count) : moment.ChecksRanges name count where
  read := by
    intro index span ty target i later taskEq indexed
    have taskTyped := momentTyped.task
    rw [taskEq] at taskTyped
    cases taskTyped with
    | expression exprTyped stateTyped =>
        cases exprTyped with
        | element indexTyped bound isList =>
            obtain ⟨first, _, firstBound, _⟩ := stateTyped.list_bound named bound isList
            have laterTyped := (stateTyped.after_expr indexTyped indexed).2
            obtain ⟨cell, elements, found, _, valueEq, sizedHere⟩ :=
              laterTyped.list_bound (named.after_expr indexed) bound isList
            rw [← typed.sizes_eq sizedHere sized]
            exact (Eval.expr_element_accesses firstBound indexed ⟨cell, found, valueEq⟩).checksRange
  write := by
    intro index place ty target value span i middle result last taskEq indexed evaluated
    have taskTyped := momentTyped.task
    rw [taskEq] at taskTyped
    cases taskTyped with
    | statement stmtTyped stateTyped =>
        cases stmtTyped with
        | assignElement indexTyped bound isList isMutable valueTyped accepts =>
            obtain ⟨first, _, firstBound, sameFirst, _⟩ :=
              stateTyped.list_bound named bound isList
            have firstMutable : first.binding.mutable = true := by
              rw [sameFirst]
              exact isMutable
            have middleTyped := (stateTyped.after_expr indexTyped indexed).2
            have lastTyped := (middleTyped.after_expr valueTyped evaluated).2
            have lastNamed := (named.after_expr indexed).after_expr evaluated
            obtain ⟨cell, elements, found, _, valueEq, sizedHere⟩ :=
              lastTyped.list_bound lastNamed bound isList
            rw [← typed.sizes_eq sizedHere sized]
            exact (Eval.assign_element_accesses firstBound firstMutable indexed evaluated
              ⟨cell, found, valueEq⟩ _).checksRange

end Runs

/-- From its definition until the run ends a list holds as many elements as its initial value, and
an element of it is read or stored exactly if its index is that of one of them. -/
theorem run_keepsLists {text file : String} (checked : Program.check text file = .ok source)
    (member : global ∈ source.globals) (isList : global.isList = true) :
    ∃ elements span ty, global.value = some (.list elements span ty) ∧
      ∀ fuel sink moment,
        (source.ReachesBehind fuel sink global moment →
          moment.HoldsList global.name elements.length) ∧
        (source.Reaches fuel sink moment →
          moment.ChecksRanges global.name elements.length) := by
  obtain ⟨early, globals, lenientTyped⟩ := Program.typed_of_check checked
  have typed := lenientTyped.transfer (shaped_takes source)
  obtain ⟨before, target, globalTyped, _⟩ := typed.globalsTyped.of_mem member
  obtain ⟨elements, span, ty, initial⟩ := globalTyped.initial_eq isList
  have sized : source.Sizes global.name elements.length :=
    ⟨global, member, rfl, isList, elements, span, ty, initial, rfl⟩
  refine ⟨elements, span, ty, initial, ?_⟩
  intro fuel sink moment
  constructor
  · intro behind
    exact behind.holdsList typed member isList sized
  · intro reaches
    exact (momentTyped_of_reaches typed reaches).checksRanges typed (named_of_reaches reaches)
      sized

def Expr.listLength? : Expr → Option Nat
  | .list elements _ _ => some elements.length
  | _ => none

/-- A list of two elements stays one of two elements. -/
theorem run_keepsLists_pair :
    ∃ source global moment,
      Program.check "LIST xs: Integer = [1, 2]; FUN main(): Integer DO xs[0] = 3; RETURN xs[2]; END"
        "pair" = .ok source ∧
      global ∈ source.globals ∧ global.isList = true ∧
      source.ReachesBehind 9 .unlimited global moment ∧ moment.HoldsList global.name 2 ∧
      moment.ChecksRanges global.name 2 := by
  have computed : ((Program.check
      "LIST xs: Integer = [1, 2]; FUN main(): Integer DO xs[0] = 3; RETURN xs[2]; END"
      "pair").toOption.bind fun source =>
        source.globals.head?.bind fun global =>
          ((Eval.load 9 source).yields (.initial .unlimited)).head?.map fun _ =>
            (global.isList, global.value.bind Expr.listLength?)) = some (true, some 2) := by
    decide +kernel
  obtain ⟨source, found, computed⟩ := Option.bind_eq_some_iff.mp computed
  have checked := eq_ok_of_toOption found
  obtain ⟨global, first, computed⟩ := Option.bind_eq_some_iff.mp computed
  have member := List.mem_of_mem_head? first
  obtain ⟨⟨main, state⟩, loaded, seen⟩ := Option.map_eq_some_iff.mp computed
  obtain ⟨isList, length⟩ := Prod.mk.inj seen
  obtain ⟨elements, _, _, initialEq, keeps⟩ := run_keepsLists checked member isList
  rw [initialEq] at length
  have two : elements.length = 2 := Option.some.inj length
  rw [two] at keeps
  have behind : source.ReachesBehind 9 .unlimited global _ := .main (Eval.ended_of_head? loaded)
  exact ⟨source, global, _, checked, member, isList, behind, (keeps 9 .unlimited _).1 behind,
    (keeps 9 .unlimited _).2 behind.reaches⟩

end ScriptLang
