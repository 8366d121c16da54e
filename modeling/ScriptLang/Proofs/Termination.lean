import ScriptLang.Proofs.Finishing
import ScriptLang.Proofs.Fuel

/-!
Programs without loops and without recursion end.

Calls are resolved by name and number of arguments, and what they find is a built-in function or
one that the program declares.  Where the calls that are written in the bodies form no cycle, no
function is entered while its own body is being run, and so calls nest no deeper than there are
functions.
-/

namespace ScriptLang
namespace Eval

variable {declarations : List FunctionDecl}

/-! ### Calls -/

theorem functionEntries_of_bindArguments (offset : Nat) (bindings : List (Parameter × Value × Ty))
    {frame result : RunFrame} (bound : bindArguments offset frame bindings = .ok result) :
    result.functionEntries = frame.functionEntries := by
  induction bindings generalizing frame with
  | nil =>
      cases bound
      rfl
  | cons first rest inductionHypothesis =>
      obtain ⟨parameter, value, ty⟩ := first
      obtain ⟨wider, defined, restBound⟩ := bind_eq_ok.mp bound
      obtain ⟨_, rfl⟩ := (Frame.defineVariable_eq_ok_iff _ _ _ _ _).mp defined
      exact (inductionHypothesis restBound :)

theorem invoke_builtin_concludes {function : Function} {builtin : Builtin}
    (bodyEq : function.body = .builtin builtin) (fuel : Nat) (arguments : List Value)
    (offset : Nat) : Concludes declarations (invoke (fuel + 1) function arguments offset) := by
  intro state offers
  rw [invoke, bodyEq]
  unfold Leads
  dsimp only
  cases builtin.apply arguments state.sink with
  | mk result sink =>
      cases result with
      | ok value => exact ⟨trivial, offers⟩
      | error cause => exact Stop.noConfusion

theorem invoke_declared_concludes {fuel : Nat} {declaration : FunctionDecl}
    (tame : Tame declarations (invoke fuel) (.function declaration)) (arguments : List Value)
    (offset : Nat) :
    Concludes declarations (invoke (fuel + 1) (functionOf declaration) arguments offset) := by
  have bodyTame : ∀ s ∈ declaration.body, Tame declarations (invoke fuel) (.statement s) :=
    fun s member => tame.child (List.mem_map_of_mem member)
  rw [invoke]
  change Concludes declarations (do
    let frame ← ofExcept (bindArguments declaration.span.start _ _)
    let flow ← inCall frame (block (invoke fuel) fuel declaration.body)
    return flow.callValue)
  have bound : Finishes declarations (ofExcept (bindArguments declaration.span.start
      { Frame.empty with returnType := some (functionOf declaration).signature.returnType }
      (declaration.parameters.zip
        (arguments.zip (functionOf declaration).signature.parameterTypes))))
      fun frame => frame.functionEntries = [] :=
    .ofExcept _ fun frame bound => functionEntries_of_bindArguments _ _ bound
  refine bound.bind fun frame bindsNone => ?_
  exact ((block_concludes _ bodyTame).inCall bindsNone).bind fun _ _ => .pure trivial

/-- By induction on the fuel: a call enters a function that is not open yet, so that there is fuel
left as long as there are functions left. -/
theorem invoke_concludes {source : Source} (loopFree : source.LoopFree)
    (nonrecursive : source.Nonrecursive) {fuel : Nat} {opened : List FunctionDecl}
    (nested : source.Nested opened) (enough : source.functions.length < fuel + opened.length)
    {key : String × Nat} {function : Function} (offered : Offered source.functions key function)
    (opens : ∀ callee ∈ source.functions, callee.boundKey = key →
      source.Nested (callee :: opened)) (arguments : List Value) (offset : Nat) :
    Concludes source.functions (invoke fuel function arguments offset) := by
  induction fuel generalizing opened key function arguments offset with
  | zero =>
      have bounded := nested.length_le nonrecursive
      omega
  | succ fuel inductionHypothesis =>
      cases offered with
      | builtin bodyEq =>
          exact invoke_builtin_concludes bodyEq fuel arguments offset
      | @declared declaration member =>
          have nestedHere := opens declaration member rfl
          refine invoke_declared_concludes ⟨fun test body span contains => ?_,
            fun inner function calls offered arguments offset => ?_⟩ arguments offset
          · exact loopFree test body span
              ⟨_, List.mem_append_right _ (List.mem_map_of_mem member), contains⟩
          · refine inductionHypothesis nestedHere ?_ offered ?_ arguments offset
            · rw [List.length_cons]
              omega
            · rintro callee calleeMember rfl
              exact nestedHere.cons ⟨member, calleeMember, calls⟩

/-! ### Programs -/

theorem defineGlobals_concludes {fuel : Nat} {globals : List GlobalDecl}
    (loopFree : ∀ global ∈ globals, ∀ test body span,
      ¬(Node.global global).Contains (.statement (.loop test body span))) :
    Concludes [] (defineGlobals (fuel + 1) globals) := by
  induction globals with
  | nil => exact .pure trivial
  | cons first rest inductionHypothesis =>
      obtain ⟨firstFree, restFree⟩ := List.forall_mem_cons.mp loopFree
      have tame : Tame [] (invoke (fuel + 1)) (.global first) := by
        refine ⟨firstFree, fun key function _ offered arguments offset => ?_⟩
        cases offered with
        | builtin bodyEq => exact invoke_builtin_concludes bodyEq fuel arguments offset
        | declared member => exact absurd member List.not_mem_nil
      have valueConcludes := initialValue_concludes first.value fun e member =>
        tame.child (List.mem_map_of_mem (Option.mem_toList.mpr member))
      rw [defineGlobals]
      have firstConcludes : Concludes [] (defineGlobal (fuel + 1) first) :=
        valueConcludes.bind fun value _ => defineVariable_concludes _ value first.span.start
      exact firstConcludes.bind fun _ _ => inductionHypothesis restFree

theorem defineFunction_concludes {declaration : FunctionDecl}
    (member : declaration ∈ declarations) (offset : Nat) :
    Concludes declarations (defineFunction (functionOf declaration) offset) := by
  intro state offers
  refine (leads_bind _ _ _ _ _).mpr ((leads_get _ _ _).mpr ?_)
  unfold State.Offers at offers
  rw [Chain.frames_eq_cons, List.forall_mem_cons] at offers
  obtain ⟨innermostOffers, outerOffer⟩ := offers
  unfold Chain.defineFunction Frame.defineFunction
  cases state.scope.innermost.findFunction? (functionOf declaration).signature.key with
  | some found =>
      exact Stop.noConfusion
  | none =>
      refine ⟨trivial, ?_⟩
      change ∀ frame ∈ (state.scope.withInnermost _).frames, _
      rw [Chain.frames_withInnermost, List.forall_mem_cons]
      refine ⟨List.forall_mem_cons.mpr ⟨?_, innermostOffers⟩, outerOffer⟩
      exact .declared member

theorem defineFunctions_concludes {functions : List FunctionDecl}
    (declared : ∀ function ∈ functions, function ∈ declarations) :
    Concludes declarations (defineFunctions functions) := by
  induction functions with
  | nil => exact .pure trivial
  | cons first rest inductionHypothesis =>
      obtain ⟨firstDeclared, restDeclared⟩ := List.forall_mem_cons.mp declared
      rw [defineFunctions]
      exact (defineFunction_concludes firstDeclared first.span.start).bind fun _ _ =>
        inductionHypothesis restDeclared

theorem load_finishes {source : Source} (loopFree : source.LoopFree) (fuel : Nat) (sink : Sink) :
    Leads (load (fuel + 1) source) (.initial sink)
      (fun main after => Offered source.functions ("main", 0) main ∧
        after.Offers source.functions)
      fun stop _ => stop ≠ .outOfFuel := by
  have globalsFree : ∀ global ∈ source.globals, ∀ test body span,
      ¬(Node.global global).Contains (.statement (.loop test body span)) :=
    fun global member test body span contains => loopFree test body span
      ⟨_, List.mem_append_left _ (List.mem_map_of_mem member), contains⟩
  unfold load
  refine (defineGlobals_concludes globalsFree _ (.initial sink)).bind fun _ middle reached => ?_
  have offers : middle.Offers source.functions :=
    reached.2.mono fun _ member => absurd member List.not_mem_nil
  refine (defineFunctions_concludes (fun _ member => member) middle offers).bind
    fun _ last reached => ?_
  refine (leads_bind _ _ _ _ _).mpr ((leads_get _ _ _).mpr ?_)
  split
  · rename_i main found
    exact ⟨reached.2.found found, reached.2⟩
  · exact Stop.noConfusion

theorem program_concludes {source : Source} (loopFree : source.LoopFree)
    (nonrecursive : source.Nonrecursive) (sink : Sink) :
    Leads (program (source.functions.length + 1) source) (.initial sink) (fun _ _ => True)
      fun stop _ => stop ≠ .outOfFuel := by
  refine (load_finishes loopFree _ sink).bind fun main middle reached => ?_
  obtain ⟨offered, offers⟩ := reached
  have called := invoke_concludes loopFree nonrecursive (.nil source) (Nat.lt_succ_self _) offered
    (fun callee member _ => .singleton member) [] source.span.start middle offers
  exact called.imp (fun _ _ _ => trivial) fun _ _ stops => stops

end Eval

def Outcome.Ends (outcome : Outcome) : Prop :=
  (∃ value, outcome.result = .ok value) ∨ ∃ fault, outcome.result = .error (.fault fault)

theorem Outcome.ends_iff {outcome : Outcome} :
    outcome.Ends ↔ outcome.result ≠ .error .outOfFuel := by
  unfold Ends
  cases outcome.result with
  | ok value => simp
  | error stop =>
      cases stop with
      | fault fault => simp
      | outOfFuel => simp

/-- A program without loops whose functions do not call each other in a cycle ends with a value or a
fault, whatever sink it prints into.  Its calls nest no deeper than one more than it has functions;
any fuel beyond that changes nothing. -/
theorem Source.run_terminates {source : Source} (loopFree : source.LoopFree)
    (nonrecursive : source.Nonrecursive) (sink : Sink) :
    ∃ outcome : Outcome, outcome.Ends ∧
      ∀ fuel, source.functions.length < fuel → source.run fuel sink = outcome := by
  have ends : (source.run (source.functions.length + 1) sink).Ends := by
    have led := Eval.program_concludes loopFree nonrecursive sink
    rw [Outcome.ends_iff]
    unfold run
    cases ended : Eval.program (source.functions.length + 1) source (.initial sink) with
    | ok value after =>
        intro ranOut
        cases ranOut
    | error stop after =>
        have stops := led.of_error ended
        exact fun same => stops (Except.error.inj same)
  exact ⟨_, ends, fun fuel enough => run_of_le enough (Outcome.ends_iff.mp ends)⟩

/-- Two functions of one name, of which the one with two arguments calls the other one. -/
def overloadedText : String :=
  "FUN twice(n: Integer): Integer DO RETURN n + n; END "
    ++ "FUN twice(n: Integer, m: Integer): Integer DO "
    ++ "IF n < m DO print(m); RETURN twice(m); END RETURN twice(n); END "
    ++ "FUN main(): Integer DO RETURN twice(twice(2), 3); END"

def FunctionDecl.overloadedRank (function : FunctionDecl) : Nat :=
  if function.name = "main" then 3 else function.arity

theorem Source.run_terminates_overloaded :
    ∃ source, Source.parse overloadedText = .ok source ∧ source.LoopFree ∧
      source.Nonrecursive ∧ source.functions.length = 3 ∧
      ∃ outcome : Outcome, outcome.Ends ∧
        ∀ fuel, source.functions.length < fuel → source.run fuel .unlimited = outcome := by
  have computed : (Source.parse overloadedText).toOption.map (fun source =>
      (source.functions.length, (Node.below source.roots 9).isEmpty,
        (Node.listed source.roots 9).all (fun node => !node.isLoop),
        source.functions.all fun caller =>
          (Node.below [.function caller] 9).isEmpty &&
          source.functions.all fun callee =>
            !((Node.listed [.function caller] 9).filterMap Node.callKey?).contains
                callee.boundKey ||
              decide (callee.overloadedRank < caller.overloadedRank))) =
      some (3, true, true, true) := by
    decide +kernel
  obtain ⟨source, found, seen⟩ := Option.map_eq_some_iff.mp computed
  obtain ⟨count, seen⟩ := Prod.mk.inj seen
  obtain ⟨complete, seen⟩ := Prod.mk.inj seen
  obtain ⟨noLoops, ranked⟩ := Prod.mk.inj seen
  have loopFree := loopFree_of_listed (List.isEmpty_iff.mp complete) noLoops
  have nonrecursive : source.Nonrecursive := by
    refine nonrecursive_of_rank FunctionDecl.overloadedRank fun caller callee calls => ?_
    have rankedHere := List.all_eq_true.mp ranked caller calls.callerDeclared
    obtain ⟨completeHere, rankedHere⟩ := Bool.and_eq_true_iff.mp rankedHere
    have key := calls.key_listed (List.isEmpty_iff.mp completeHere)
    have falls := List.all_eq_true.mp rankedHere callee calls.calleeDeclared
    rw [List.contains_iff_mem.mpr key] at falls
    simpa using falls
  exact ⟨source, eq_ok_of_toOption found, loopFree, nonrecursive, count,
    run_terminates loopFree nonrecursive .unlimited⟩

end ScriptLang
