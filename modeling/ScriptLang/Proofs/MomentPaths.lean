import ScriptLang.Program
import ScriptLang.Proofs.Moments
import ScriptLang.Proofs.Step

/-!
The moments of a run, one by one.

What a moment enters is listed in the order of evaluation, so a list of numbers leads from the
first moment of a run to any other.
-/

namespace ScriptLang

namespace Eval

def yields {α : Type} (step : Eval α) (state : State) : List (α × State) :=
  match step state with
  | .ok value after => [(value, after)]
  | .error _ _ => []

theorem mem_yields {α : Type} {step : Eval α} {state after : State} {value : α} :
    (value, after) ∈ step.yields state ↔ step state = .ok value after := by
  unfold yields
  cases step state with
  | ok found middle =>
      simp [eq_comm]
  | error stop middle =>
      simp

theorem ended_of_head? {α : Type} {step : Eval α} {state after : State} {value : α}
    (first : (step.yields state).head? = some (value, after)) : step state = .ok value after :=
  mem_yields.mp (List.mem_of_mem_head? first)

end Eval

open Eval

def Stmt.parts (fuel : Nat) (state : State) : Stmt → List (Task × State)
  | .expression value _ | .result value _ => [(.expression value, state)]
  | .declaration _ _ value _ _ => value.toList.map fun value => (.expression value, state)
  | .assignment (.access name place _ _) value span =>
      (yields (assignable name place.start span.start) state).map fun (_, middle) =>
        (.expression value, middle)
  | .assignment (.element name position place _ _) value span =>
      (yields (assignable name place.start span.start) state).flatMap fun (_, middle) =>
        (.expression position, middle) ::
          (yields (index (invoke fuel) position) middle).map fun (_, later) =>
            (.expression value, later)
  | .assignment _ _ _ => []
  | .conditional test thenBlock elseBlock _ =>
      (.expression test, state) ::
        (yields (condition (invoke fuel) test) state).map fun (truth, middle) =>
          (.block (if truth then thenBlock else elseBlock), middle.opened)
  | .switch subject cases _ =>
      (.expression subject, state) ::
        (yields (expr (invoke fuel) subject) state).map fun (value, middle) =>
          (.cases value cases, middle)
  | .loop test body _ => [(.rounds fuel test body, state)]

def Expr.parts (fuel : Nat) (state : State) : Expr → List (Task × State)
  | .literal _ _ _ | .access _ _ _ _ => []
  | .group inner _ _ => [(.expression inner, state)]
  | .binary op left right _ _ =>
      (.expression left, state) ::
        (yields (expr (invoke fuel) left) state).flatMap fun (leftValue, middle) =>
          if op.isLogical then
            match leftValue with
            | .boolean truth =>
                if truth = (op == .and) then [(.expression right, middle)] else []
            | _ => []
          else
            [(.expression right, middle)]
  | .element name index span _ _ =>
      (yields (lookupVariable name span.start) state).map fun (_, middle) =>
        (.expression index, middle)
  | .call name arguments span _ _ =>
      (.expressions arguments, state) ::
        (yields (exprs (invoke fuel) arguments) state).flatMap fun (values, middle) =>
          (yields (lookupFunction (name, values.length) span.start) middle).map
            fun (function, later) => (.call function values span.start, later)
  | .list elements _ _ => [(.expressions elements, state)]

def Task.parts (fuel : Nat) (state : State) : Task → List (Task × State)
  | .source program =>
      (.globals program.globals, state) ::
        ((yields (defineGlobals fuel program.globals) state).map (fun (_, middle) =>
            (.functions program.functions, middle)) ++
          (yields (load fuel program) state).map fun (main, middle) =>
            (.call main [] program.span.start, middle))
  | .globals [] | .functions [] | .block [] | .cases _ [] | .expressions [] => []
  | .globals (first :: rest) =>
      first.value.toList.map (fun value => (.expression value, state)) ++
        (yields (defineGlobal fuel first) state).map fun (_, middle) => (.globals rest, middle)
  | .functions (first :: rest) =>
      (yields (defineFunction (functionOf first) first.span.start) state).map fun (_, middle) =>
        (.functions rest, middle)
  | .call _ _ _ => []
  | .block (first :: rest) =>
      (.statement first, state) ::
        (yields (stmt (invoke fuel) fuel first) state).filterMap fun (flow, middle) =>
          match flow with
          | .normal => some (.block rest, middle)
          | .returned _ => none
  | .statement s => s.parts fuel state
  | .cases subject (.mk value body _ :: rest) =>
      value.toList.map (fun value => (.expression value, state)) ++
        (yields (matchesCase (invoke fuel) subject value) state).map fun (matched, middle) =>
          if matched then (.block body, middle.opened) else (.cases subject rest, middle)
  | .rounds 0 _ _ => []
  | .rounds (count + 1) test body =>
      (.expression test, state) ::
        (yields (condition (invoke fuel) test) state).flatMap fun (truth, middle) =>
          if truth then
            (.block body, middle.opened) ::
              (yields (inBlock (Eval.block (invoke fuel) fuel body)) middle).filterMap
                fun (flow, later) =>
                  match flow with
                  | .normal => some (.rounds count test body, later)
                  | .returned _ => none
          else
            []
  | .expression e => e.parts fuel state
  | .expressions (first :: rest) =>
      (.expression first, state) ::
        (yields (expr (invoke fuel) first) state).map fun (_, middle) =>
          (.expressions rest, middle)

section Parts

variable {fuel : Nat} {state after : State} {next : Task}

theorem Stmt.part_of_mem {statement : Stmt} (member : (next, after) ∈ statement.parts fuel state) :
    Part fuel (.statement statement) state next after := by
  cases statement with
  | expression value span =>
      obtain ⟨rfl, rfl⟩ := Prod.mk.inj (List.mem_singleton.mp member)
      exact .called
  | result value span =>
      obtain ⟨rfl, rfl⟩ := Prod.mk.inj (List.mem_singleton.mp member)
      exact .returned
  | declaration name typeName value span target =>
      obtain ⟨value, found, pairEq⟩ := List.mem_map.mp member
      cases pairEq
      cases Option.mem_toList.mp found
      exact .declared
  | assignment receiver value span =>
      cases receiver with
      | access name place ty target =>
          obtain ⟨⟨done, middle⟩, found, pairEq⟩ := List.mem_map.mp member
          cases pairEq
          exact .assigned (mem_yields.mp found)
      | element name position place ty target =>
          obtain ⟨⟨done, middle⟩, found, inside⟩ := List.mem_flatMap.mp member
          rcases List.mem_cons.mp inside with pairEq | inside
          · cases pairEq
            exact .position (mem_yields.mp found)
          · obtain ⟨⟨i, later⟩, indexed, pairEq⟩ := List.mem_map.mp inside
            cases pairEq
            exact .assignedElement (mem_yields.mp found) (mem_yields.mp indexed)
      | _ =>
          cases member
  | conditional test thenBlock elseBlock span =>
      rcases List.mem_cons.mp member with pairEq | inside
      · cases pairEq
        exact .test
      · obtain ⟨⟨truth, middle⟩, tested, pairEq⟩ := List.mem_map.mp inside
        cases pairEq
        exact .branch (mem_yields.mp tested)
  | switch subject cases span =>
      rcases List.mem_cons.mp member with pairEq | inside
      · cases pairEq
        exact .subject
      · obtain ⟨⟨value, middle⟩, evaluated, pairEq⟩ := List.mem_map.mp inside
        cases pairEq
        exact .cases (mem_yields.mp evaluated)
  | loop test body span =>
      obtain ⟨rfl, rfl⟩ := Prod.mk.inj (List.mem_singleton.mp member)
      exact .rounds

theorem Expr.part_of_mem {e : Expr} (member : (next, after) ∈ e.parts fuel state) :
    Part fuel (.expression e) state next after := by
  cases e with
  | literal value span ty =>
      cases member
  | access name span ty target =>
      cases member
  | group inner span ty =>
      obtain ⟨rfl, rfl⟩ := Prod.mk.inj (List.mem_singleton.mp member)
      exact .group
  | binary op left right span ty =>
      rcases List.mem_cons.mp member with pairEq | inside
      · cases pairEq
        exact .left
      · obtain ⟨⟨leftValue, middle⟩, evaluated, inside⟩ := List.mem_flatMap.mp inside
        dsimp only at inside
        split at inside
        · split at inside
          · split at inside
            · rename_i truthEq
              cases List.mem_singleton.mp inside
              exact .right (mem_yields.mp evaluated) fun _ => congrArg Value.boolean truthEq
            · cases inside
          · cases inside
        · rename_i notLogical
          cases List.mem_singleton.mp inside
          exact .right (mem_yields.mp evaluated) fun isLogical => absurd isLogical notLogical
  | element name index span ty target =>
      obtain ⟨⟨cell, middle⟩, found, pairEq⟩ := List.mem_map.mp member
      cases pairEq
      exact .index (mem_yields.mp found)
  | call name arguments span ty callee =>
      rcases List.mem_cons.mp member with pairEq | inside
      · cases pairEq
        exact .arguments
      · obtain ⟨⟨values, middle⟩, evaluated, inside⟩ := List.mem_flatMap.mp inside
        obtain ⟨⟨function, later⟩, found, pairEq⟩ := List.mem_map.mp inside
        cases pairEq
        exact .call (mem_yields.mp evaluated) (mem_yields.mp found)
  | list elements span ty =>
      obtain ⟨rfl, rfl⟩ := Prod.mk.inj (List.mem_singleton.mp member)
      exact .elements

theorem Task.part_of_mem {task : Task} (member : (next, after) ∈ task.parts fuel state) :
    Part fuel task state next after := by
  cases task with
  | source source =>
      rcases List.mem_cons.mp member with pairEq | inside
      · cases pairEq
        exact .globals
      · rcases List.mem_append.mp inside with inside | inside
        · obtain ⟨⟨done, middle⟩, bound, pairEq⟩ := List.mem_map.mp inside
          cases pairEq
          exact .functions (mem_yields.mp bound)
        · obtain ⟨⟨main, middle⟩, loaded, pairEq⟩ := List.mem_map.mp inside
          cases pairEq
          exact .main (mem_yields.mp loaded)
  | globals globals =>
      cases globals with
      | nil =>
          cases member
      | cons first rest =>
          rcases List.mem_append.mp member with inside | inside
          · obtain ⟨value, initial, pairEq⟩ := List.mem_map.mp inside
            cases pairEq
            exact .global (Option.mem_toList.mp initial)
          · obtain ⟨⟨done, middle⟩, bound, pairEq⟩ := List.mem_map.mp inside
            cases pairEq
            exact .nextGlobals (mem_yields.mp bound)
  | functions functions =>
      cases functions with
      | nil =>
          cases member
      | cons first rest =>
          obtain ⟨⟨done, middle⟩, bound, pairEq⟩ := List.mem_map.mp member
          cases pairEq
          exact .nextFunctions (mem_yields.mp bound)
  | call function arguments offset =>
      cases member
  | block statements =>
      cases statements with
      | nil =>
          cases member
      | cons first rest =>
          rcases List.mem_cons.mp member with pairEq | inside
          · cases pairEq
            exact .firstStatement
          · obtain ⟨⟨flow, middle⟩, ended, pairEq⟩ := List.mem_filterMap.mp inside
            cases flow with
            | normal =>
                cases pairEq
                exact .nextStatements (mem_yields.mp ended)
            | returned value =>
                cases pairEq
  | statement statement =>
      exact statement.part_of_mem member
  | cases subject cases =>
      match cases with
      | [] =>
          cases member
      | .mk value body span :: rest =>
          rcases List.mem_append.mp member with inside | inside
          · obtain ⟨value, found, pairEq⟩ := List.mem_map.mp inside
            cases pairEq
            cases Option.mem_toList.mp found
            exact .caseValue
          · obtain ⟨⟨matched, middle⟩, tested, pairEq⟩ := List.mem_map.mp inside
            cases matched with
            | true =>
                cases pairEq
                exact .chosen (mem_yields.mp tested)
            | false =>
                cases pairEq
                exact .nextCases (mem_yields.mp tested)
  | rounds count test body =>
      cases count with
      | zero =>
          cases member
      | succ count =>
          rcases List.mem_cons.mp member with pairEq | inside
          · cases pairEq
            exact .roundTest
          · obtain ⟨⟨truth, middle⟩, tested, inside⟩ := List.mem_flatMap.mp inside
            cases truth with
            | false =>
                cases inside
            | true =>
                have tested := mem_yields.mp tested
                rcases List.mem_cons.mp inside with pairEq | inside
                · cases pairEq
                  exact .round tested
                · obtain ⟨⟨flow, later⟩, ended, pairEq⟩ := List.mem_filterMap.mp inside
                  cases flow with
                  | normal =>
                      cases pairEq
                      exact .nextRounds tested (mem_yields.mp ended)
                  | returned value =>
                      cases pairEq
  | expression e =>
      exact e.part_of_mem member
  | expressions es =>
      cases es with
      | nil =>
          cases member
      | cons first rest =>
          rcases List.mem_cons.mp member with pairEq | inside
          · cases pairEq
            exact .first
          · obtain ⟨⟨value, middle⟩, evaluated, pairEq⟩ := List.mem_map.mp inside
            cases pairEq
            exact .others (mem_yields.mp evaluated)

theorem Task.mem_parts {task : Task} :
    (next, after) ∈ task.parts fuel state ↔ Part fuel task state next after := by
  constructor
  · exact Task.part_of_mem
  · intro part
    cases part with
    | @right op _ _ _ _ _ _ _ evaluated needed =>
        cases isLogical : op.isLogical with
        | true =>
            have decided := needed isLogical
            simp [Task.parts, Expr.parts, yields, evaluated, isLogical, decided]
        | false =>
            simp [Task.parts, Expr.parts, yields, evaluated, isLogical]
    | _ =>
        simp [Task.parts, Stmt.parts, Expr.parts, yields, *]

end Parts

namespace Moment

variable {moment next : Moment}

def bodies (moment : Moment) : List Moment :=
  match moment with
  | { task := .call function arguments _, fuel := fuel + 1, suspended, state } =>
      match function.body with
      | .declared declaration =>
          match bindArguments declaration.span.start
              { Frame.empty with returnType := some function.signature.returnType }
              (declaration.parameters.zip
                (arguments.zip function.signature.parameterTypes)) with
          | .ok frame =>
              [{ task := .block declaration.body
                 fuel := fuel
                 suspended := state.scope.locals ++ suspended
                 state := state.entered frame }]
          | .error _ => []
      | _ => []
  | _ => []

def entered (moment : Moment) : List Moment :=
  (moment.task.parts moment.fuel moment.state).map
      (fun (task, state) => { moment with task := task, state := state }) ++
    moment.bodies

theorem mem_bodies : next ∈ moment.bodies → moment.Enters next := by
  intro member
  unfold bodies at member
  split at member
  · rename_i function arguments offset fuel suspended state
    split at member
    · rename_i declaration bodyEq
      split at member
      · rename_i frame bound
        cases List.mem_singleton.mp member
        exact .body bodyEq bound
      · cases member
    · cases member
  · cases member

theorem mem_entered : next ∈ moment.entered ↔ moment.Enters next := by
  constructor
  · intro member
    rcases List.mem_append.mp member with inside | body
    · obtain ⟨⟨task, state⟩, isPart, rfl⟩ := List.mem_map.mp inside
      exact .part (Task.mem_parts.mp isPart)
    · exact mem_bodies body
  · intro enters
    cases enters with
    | part part =>
        exact List.mem_append_left _ (List.mem_map.mpr ⟨_, Task.mem_parts.mpr part, rfl⟩)
    | body bodyEq bound =>
        apply List.mem_append_right
        simp [bodies, bodyEq, bound]

/-- The moment at the end of a path, which says at each moment which of those it enters is
next. -/
def follow? (moment : Moment) : List Nat → Option Moment
  | [] => some moment
  | position :: path =>
      match moment.entered[position]? with
      | some next => next.follow? path
      | none => none

theorem follow?_append (path : List Nat) (position : Nat) :
    moment.follow? (path ++ [position]) =
      (moment.follow? path).bind fun last => last.entered[position]? := by
  induction path generalizing moment with
  | nil =>
      simp only [follow?, List.nil_append, Option.bind_some]
      cases moment.entered[position]? with
      | none => rfl
      | some next => rfl
  | cons first rest inductionHypothesis =>
      rw [List.cons_append, follow?, follow?]
      cases moment.entered[first]? with
      | none =>
          rfl
      | some next =>
          exact inductionHypothesis

theorem reflTransGen_iff_follow? :
    Relation.ReflTransGen Enters moment next ↔ ∃ path, moment.follow? path = some next := by
  constructor
  · intro reaches
    induction reaches with
    | refl =>
        exact ⟨[], rfl⟩
    | tail _ enters inductionHypothesis =>
        obtain ⟨path, followed⟩ := inductionHypothesis
        obtain ⟨position, found⟩ := List.mem_iff_getElem?.mp (mem_entered.mpr enters)
        refine ⟨path ++ [position], ?_⟩
        rw [follow?_append, followed]
        exact found
  · rintro ⟨path, followed⟩
    induction path generalizing moment with
    | nil =>
        cases followed
        exact .refl
    | cons position rest inductionHypothesis =>
        rw [follow?] at followed
        split at followed
        · rename_i middle found
          have enters := mem_entered.mp (List.mem_of_getElem? found)
          exact .head enters (inductionHypothesis followed)
        · cases followed

end Moment

def Source.start (source : Source) (fuel : Nat) (sink : Sink) : Moment :=
  { task := .source source, fuel := fuel, suspended := [], state := .initial sink }

/-- The moments of a run are those at the ends of the paths from its first moment. -/
theorem Source.reaches_iff {source : Source} {fuel : Nat} {sink : Sink} {moment : Moment} :
    source.Reaches fuel sink moment ↔ ∃ path, (source.start fuel sink).follow? path = some moment :=
  Moment.reflTransGen_iff_follow?

namespace Moment

variable {moment : Moment}

def evaluated? (moment : Moment) : Option (Expr × Value) :=
  match moment.task with
  | .expression e =>
      match Eval.expr (Eval.invoke moment.fuel) e moment.state with
      | .ok value _ => some (e, value)
      | .error _ _ => none
  | _ => none

theorem evaluated?_eq_some {e : Expr} {value : Value} :
    moment.evaluated? = some (e, value) ↔
      moment.task = .expression e ∧
        ∃ after, Eval.expr (Eval.invoke moment.fuel) e moment.state = .ok value after := by
  unfold evaluated?
  constructor
  · intro found
    split at found
    · rename_i taskEq
      split at found
      · rename_i evaluated
        cases found
        exact ⟨taskEq, _, evaluated⟩
      · cases found
    · cases found
  · rintro ⟨taskEq, after, evaluated⟩
    rw [taskEq]
    simp only [evaluated]

theorem lives_of_find {name : String} {cell : Cell}
    (found : moment.state.scope.findVariable? name = some cell) : moment.Lives cell := by
  obtain ⟨frame, member, found⟩ := List.exists_of_findSome?_eq_some found
  exact ⟨moment.state, .inl rfl, frame, List.mem_append_left _ member, name, found⟩

end Moment

/-- What is computed of a checked program and of a moment of its run. -/
theorem Program.exists_moment {α : Type} {text file : String} {fuel : Nat} {sink : Sink}
    (path : List Nat) (view : Source → Moment → α) {seen : α}
    (computed : ((Program.check text file).toOption.bind fun source =>
      ((source.start fuel sink).follow? path).map (view source)) = some seen) :
    ∃ source moment, Program.check text file = .ok source ∧ source.Reaches fuel sink moment ∧
      view source moment = seen := by
  obtain ⟨source, found, computed⟩ := Option.bind_eq_some_iff.mp computed
  obtain ⟨moment, followed, viewed⟩ := Option.map_eq_some_iff.mp computed
  exact ⟨source, moment, eq_ok_of_toOption found, Source.reaches_iff.mpr ⟨path, followed⟩, viewed⟩

end ScriptLang
