import ScriptLang.Proofs.CallGraph
import ScriptLang.Proofs.StatementScopes

/-!
Evaluation that finishes.

A loop may go on for ever, and so may calls.  A tree without loops is evaluated to an end as long as
the calls that are written in it are: all else is a recursion on the tree.  Which functions those
calls find does not change on the way, as no statement binds a function.
-/

namespace ScriptLang

/-! ### The functions that a state offers -/

/-- The function is a built-in one, or one of the declarations, bound under its own key. -/
inductive Offered (declarations : List FunctionDecl) : String × Nat → Function → Prop where
  | builtin {key : String × Nat} {function : Function} {builtin : Builtin}
      (bodyEq : function.body = .builtin builtin) : Offered declarations key function
  | declared {declaration : FunctionDecl} (member : declaration ∈ declarations) :
      Offered declarations declaration.boundKey (Eval.functionOf declaration)

/-- All functions that the frames bind are built-in ones or among the declarations. -/
def State.Offers (declarations : List FunctionDecl) (state : State) : Prop :=
  ∀ frame ∈ state.scope.frames, ∀ entry ∈ frame.functionEntries,
    Offered declarations entry.1 entry.2

namespace State.Offers

variable {declarations others : List FunctionDecl} {state after inner : State}

theorem initial (sink : Sink) : (State.initial sink).Offers [] := by
  refine List.forall_mem_singleton.mpr fun entry member => ?_
  obtain ⟨builtin, _, rfl⟩ := List.mem_map.mp (List.mem_reverse.mp member)
  have bodyEq : (Function.ofBuiltin builtin).body = .builtin builtin := rfl
  exact .builtin bodyEq

theorem mono (offers : state.Offers declarations)
    (wider : ∀ declaration ∈ declarations, declaration ∈ others) : state.Offers others := by
  intro frame frameMember entry member
  cases entry with
  | mk key function =>
      cases offers frame frameMember _ member with
      | builtin bodyEq => exact .builtin bodyEq
      | declared declared => exact .declared (wider _ declared)

theorem congr (offers : state.Offers declarations)
    (same : after.scope.frames.map Frame.functionEntries =
      state.scope.frames.map Frame.functionEntries) : after.Offers declarations := by
  intro frame member
  have entriesMember : frame.functionEntries ∈ state.scope.frames.map Frame.functionEntries := by
    rw [← same]
    exact List.mem_map_of_mem member
  obtain ⟨before, beforeMember, sameEntries⟩ := List.mem_map.mp entriesMember
  rw [← sameEntries]
  exact offers before beforeMember

theorem found (offers : state.Offers declarations) {key : String × Nat} {function : Function}
    (isFound : state.scope.findFunction? key = some function) :
    Offered declarations key function := by
  obtain ⟨frame, member, foundHere⟩ := List.exists_of_findSome?_eq_some isFound
  obtain ⟨before, behind, entriesEq, _⟩ := List.lookup_eq_some_iff.mp foundHere
  have entryMember : (key, function) ∈ frame.functionEntries := by
    rw [entriesEq]
    exact List.mem_append_right _ List.mem_cons_self
  exact offers frame member _ entryMember

theorem opened (offers : state.Offers declarations) : state.opened.Offers declarations :=
  List.forall_mem_cons.mpr ⟨fun _ member => absurd member List.not_mem_nil, offers⟩

theorem withLocals (offers : inner.Offers declarations) {locals : List RunFrame}
    (localsOffer : ∀ frame ∈ locals, ∀ entry ∈ frame.functionEntries,
      Offered declarations entry.1 entry.2) :
    State.Offers declarations { inner with scope := { inner.scope with locals := locals } } := by
  refine List.forall_mem_append.mpr ⟨localsOffer, List.forall_mem_singleton.mpr ?_⟩
  exact offers _ (List.mem_append_right _ (List.mem_singleton_self _))

theorem locals (offers : state.Offers declarations) :
    ∀ frame ∈ state.scope.locals, ∀ entry ∈ frame.functionEntries,
      Offered declarations entry.1 entry.2 :=
  fun frame member => offers frame (List.mem_append_left _ member)

end State.Offers

/-! ### Steps that finish -/

namespace Eval

variable {α β : Type} {declarations : List FunctionDecl}

/-- Where only the declarations and the built-in functions are offered, the step does not run out
of fuel, no others are offered behind it, and its value is as `good` says. -/
def Finishes (declarations : List FunctionDecl) (step : Eval α) (good : α → Prop) : Prop :=
  ∀ state : State, state.Offers declarations →
    Leads step state (fun value after => good value ∧ after.Offers declarations)
      fun stop _ => stop ≠ .outOfFuel

abbrev Concludes (declarations : List FunctionDecl) (step : Eval α) : Prop :=
  Finishes declarations step fun _ => True

namespace Finishes

variable {step : Eval α} {good : α → Prop} {best : β → Prop}

theorem pure {value : α} (holds : good value) :
    Finishes declarations (Pure.pure value) good :=
  fun _ offers => ⟨holds, offers⟩

theorem fail (cause : Cause) (offset : Nat) : Finishes declarations (Eval.fail cause offset) good :=
  fun _ _ => Stop.noConfusion

theorem ofExcept (result : Except Fault α) (holds : ∀ value, result = .ok value → good value) :
    Finishes declarations (Eval.ofExcept result) good := by
  intro state offers
  cases result with
  | ok value => exact ⟨holds value rfl, offers⟩
  | error fault => exact Stop.noConfusion

theorem bind {next : α → Eval β} (first : Finishes declarations step good)
    (second : ∀ value, good value → Finishes declarations (next value) best) :
    Finishes declarations (step >>= next) best := by
  intro state offers
  refine (first state offers).bind fun value middle reached => ?_
  exact second value reached.1 middle reached.2

theorem inBlock (finishes : Finishes declarations step good) :
    Finishes declarations (Eval.inBlock step) good := by
  intro state offers
  have led := finishes { state with scope := state.scope.child } offers.opened
  unfold Leads at led ⊢
  unfold Eval.inBlock
  dsimp only
  cases ended : step { state with scope := state.scope.child } with
  | ok value inner =>
      rw [ended] at led
      obtain ⟨holds, innerOffers⟩ := led
      refine ⟨holds, innerOffers.withLocals fun frame member => ?_⟩
      exact innerOffers.locals frame (List.mem_of_mem_tail member)
  | error stop inner =>
      rw [ended] at led
      exact led

theorem inCall {frame : RunFrame} (bindsNone : frame.functionEntries = [])
    (finishes : Finishes declarations step good) :
    Finishes declarations (Eval.inCall frame step) good := by
  intro state offers
  have frameOffers : ∀ entry ∈ frame.functionEntries, Offered declarations entry.1 entry.2 := by
    intro entry member
    rw [bindsNone] at member
    exact absurd member List.not_mem_nil
  have entered : (state.entered frame).Offers declarations :=
    offers.withLocals (List.forall_mem_singleton.mpr frameOffers)
  have led := finishes { state with scope := { state.scope with locals := [frame] } } entered
  unfold Leads at led ⊢
  unfold Eval.inCall
  dsimp only
  cases ended : step { state with scope := { state.scope with locals := [frame] } } with
  | ok value inner =>
      rw [ended] at led
      exact ⟨led.1, led.2.withLocals offers.locals⟩
  | error stop inner =>
      rw [ended] at led
      exact led

end Finishes

/-! ### Steps on the scopes -/

theorem lookupVariable_concludes (name : String) (offset : Nat) :
    Concludes declarations (lookupVariable name offset) :=
  fun state offers => Finishes.ofExcept (state.scope.lookupVariable name offset)
    (fun _ _ => trivial) state offers

theorem lookupFunction_finishes (key : String × Nat) (offset : Nat) :
    Finishes declarations (lookupFunction key offset) (Offered declarations key) :=
  fun state offers => Finishes.ofExcept (state.scope.lookupFunction key offset)
    (fun _ found => offers.found (Chain.lookupFunction_eq_ok.mp found)) state offers

theorem store_concludes (name : String) (value : Value) :
    Concludes declarations (store name value) := by
  intro state offers
  refine ⟨trivial, offers.congr ?_⟩
  exact Chain.map_frames_updateVariable (fun _ => rfl) state.scope

theorem defineVariable_concludes (binding : Variable) (value : Value) (offset : Nat) :
    Concludes declarations (defineVariable binding value offset) := by
  intro state offers
  refine (leads_bind _ _ _ _ _).mpr ((leads_get _ _ _).mpr ?_)
  dsimp only
  cases defined : state.scope.defineVariable binding.name { binding := binding, value := value }
      offset with
  | error fault =>
      exact Stop.noConfusion
  | ok scope =>
      obtain ⟨frame, outer, framesEq, _, afterEq⟩ := Chain.frames_of_defineVariable defined
      refine ⟨trivial, offers.congr ?_⟩
      change scope.frames.map _ = state.scope.frames.map _
      rw [framesEq, afterEq]
      rfl

theorem expectBoolean_concludes (operator : String) (offset : Nat) (value : Value) :
    Concludes declarations (expectBoolean operator offset value) := by
  unfold expectBoolean
  split
  · exact .pure trivial
  · exact .fail _ _

theorem expectIndex_concludes (offset : Nat) (value : Value) :
    Concludes declarations (expectIndex offset value) := by
  unfold expectIndex
  split
  · exact .pure trivial
  · exact .fail _ _

theorem elementAt_concludes (list : Value) (index : Int) (offset : Nat) :
    Concludes declarations (elementAt list index offset) := by
  unfold elementAt
  split
  · split
    · exact .pure trivial
    · exact .fail _ _
  · exact .fail _ _

theorem applyOperator_concludes (op : BinaryOp) (left right : Value) (offset : Nat) :
    Concludes declarations (applyOperator op left right offset) := by
  unfold applyOperator
  split
  · exact .pure trivial
  · exact .fail _ _

theorem logical_concludes (op : BinaryOp) (offset : Nat) (left : Value) {right : Eval Value}
    (rightConcludes : Concludes declarations right) :
    Concludes declarations (logical op offset left right) := by
  unfold logical
  refine (expectBoolean_concludes _ _ left).bind fun truth _ => ?_
  split
  · exact .pure trivial
  · refine rightConcludes.bind fun value _ => ?_
    exact (expectBoolean_concludes _ _ value).bind fun _ _ => .pure trivial

theorem assignable_concludes (name : String) (nameOffset offset : Nat) :
    Concludes declarations (assignable name nameOffset offset) := by
  unfold assignable
  refine (lookupVariable_concludes name nameOffset).bind fun cell _ => ?_
  split
  · exact .pure trivial
  · exact .fail _ _

theorem storeElement_concludes (name : String) (index : Int) (value : Value) (offset : Nat) :
    Concludes declarations (storeElement name index value offset) := by
  unfold storeElement
  refine (lookupVariable_concludes name offset).bind fun cell _ => ?_
  split
  · split
    · exact store_concludes _ _
    · exact .fail _ _
  · exact .fail _ _

/-! ### Trees -/

/-- No loop stands in the node, and calls that stand in it finish. -/
structure Tame (declarations : List FunctionDecl) (call : Invocation) (node : Node) : Prop where
  loopFree : ∀ test body span, ¬node.Contains (.statement (.loop test body span))
  calls : ∀ key function, node.Calls key → Offered declarations key function →
    ∀ arguments offset, Concludes declarations (call function arguments offset)

section Trees

variable {call : Invocation}

theorem Tame.child {node inner : Node} (tame : Tame declarations call node)
    (member : inner ∈ node.children) : Tame declarations call inner where
  loopFree test body span contains := tame.loopFree test body span (.head member contains)
  calls key function calls := by
    obtain ⟨name, arguments, span, ty, callee, contains, keyEq⟩ := calls
    exact tame.calls key function ⟨name, arguments, span, ty, callee, .head member contains, keyEq⟩

mutual

theorem expr_concludes (e : Expr) (tame : Tame declarations call (.expression e)) :
    Concludes declarations (expr call e) := by
  cases e with
  | literal value span ty =>
      rw [expr]
      exact .pure trivial
  | group inner span ty =>
      rw [expr]
      exact expr_concludes inner (tame.child List.mem_cons_self)
  | binary op left right span ty =>
      have leftConcludes := expr_concludes left (tame.child List.mem_cons_self)
      have rightConcludes := expr_concludes right
        (tame.child (List.mem_cons_of_mem _ List.mem_cons_self))
      rw [expr]
      refine leftConcludes.bind fun leftValue _ => ?_
      split
      · exact logical_concludes op span.start leftValue rightConcludes
      · exact rightConcludes.bind fun _ _ => applyOperator_concludes _ _ _ _
  | access name span ty target =>
      rw [expr]
      exact (lookupVariable_concludes name span.start).bind fun _ _ => .pure trivial
  | element name index span ty target =>
      have indexConcludes := expr_concludes index (tame.child List.mem_cons_self)
      rw [expr]
      refine (lookupVariable_concludes name span.start).bind fun _ _ => ?_
      refine indexConcludes.bind fun value _ => ?_
      refine (expectIndex_concludes index.start value).bind fun position _ => ?_
      refine (lookupVariable_concludes name span.start).bind fun cell _ => ?_
      exact elementAt_concludes cell.value position span.start
  | call name arguments span ty callee =>
      have argumentsFinish := exprs_finishes arguments fun e member =>
        tame.child (List.mem_map_of_mem member)
      rw [expr]
      refine argumentsFinish.bind fun values sameLength => ?_
      refine (lookupFunction_finishes _ span.start).bind fun function offered => ?_
      refine tame.calls _ function ?_ offered values span.start
      exact ⟨name, arguments, span, ty, callee, .refl, by rw [sameLength]⟩
  | list elements span ty =>
      have elementsFinish := exprs_finishes elements fun e member =>
        tame.child (List.mem_map_of_mem member)
      rw [expr]
      exact elementsFinish.bind fun _ _ => .pure trivial

theorem exprs_finishes (es : List Expr)
    (tame : ∀ e ∈ es, Tame declarations call (.expression e)) :
    Finishes declarations (exprs call es) fun values => values.length = es.length := by
  cases es with
  | nil =>
      rw [exprs]
      exact .pure rfl
  | cons first rest =>
      obtain ⟨firstTame, restTame⟩ := List.forall_mem_cons.mp tame
      rw [exprs]
      refine (expr_concludes first firstTame).bind fun value _ => ?_
      refine (exprs_finishes rest restTame).bind fun values sameLength => ?_
      exact .pure (congrArg Nat.succ sameLength)

end

theorem index_concludes (e : Expr) (tame : Tame declarations call (.expression e)) :
    Concludes declarations (index call e) :=
  (expr_concludes e tame).bind fun value _ => expectIndex_concludes e.start value

theorem condition_concludes (e : Expr) (tame : Tame declarations call (.expression e)) :
    Concludes declarations (condition call e) :=
  (expr_concludes e tame).bind fun value _ => expectBoolean_concludes "condition" e.start value

theorem initialValue_concludes (value : Option Expr)
    (tame : ∀ e ∈ value, Tame declarations call (.expression e)) :
    Concludes declarations (initialValue call value) := by
  cases value with
  | none => exact .pure trivial
  | some value => exact expr_concludes value (tame value rfl)

theorem matchesCase_concludes (subject : Value) (value : Option Expr)
    (tame : ∀ e ∈ value, Tame declarations call (.expression e)) :
    Concludes declarations (matchesCase call subject value) := by
  cases value with
  | none => exact .pure trivial
  | some value => exact (expr_concludes value (tame value rfl)).bind fun _ _ => .pure trivial

theorem assign_concludes (receiver value : Expr) (offset : Nat)
    (receiverTame : Tame declarations call (.expression receiver))
    (valueTame : Tame declarations call (.expression value)) :
    Concludes declarations (assign call receiver value offset) := by
  have valueConcludes := expr_concludes value valueTame
  unfold assign
  split
  · refine (assignable_concludes _ _ _).bind fun _ _ => ?_
    exact valueConcludes.bind fun result _ => store_concludes _ result
  · refine (assignable_concludes _ _ _).bind fun _ _ => ?_
    refine (index_concludes _ (receiverTame.child List.mem_cons_self)).bind fun position _ => ?_
    exact valueConcludes.bind fun result _ => storeElement_concludes _ position result _
  · exact .fail _ _

variable {fuel : Nat}

mutual

theorem stmt_concludes (s : Stmt) (tame : Tame declarations call (.statement s)) :
    Concludes declarations (stmt call fuel s) := by
  cases s with
  | expression value span =>
      rw [stmt]
      exact (expr_concludes value (tame.child List.mem_cons_self)).bind fun _ _ => .pure trivial
  | declaration name typeName value span target =>
      have valueConcludes := initialValue_concludes value fun e member =>
        tame.child (List.mem_map_of_mem (Option.mem_toList.mpr member))
      rw [stmt]
      refine valueConcludes.bind fun result _ => ?_
      exact (defineVariable_concludes _ result span.start).bind fun _ _ => .pure trivial
  | assignment receiver value span =>
      have assigned := assign_concludes receiver value span.start
        (tame.child List.mem_cons_self)
        (tame.child (List.mem_cons_of_mem _ List.mem_cons_self))
      rw [stmt]
      exact assigned.bind fun _ _ => .pure trivial
  | conditional test thenBlock elseBlock span =>
      have branches : ∀ s ∈ thenBlock ++ elseBlock, Tame declarations call (.statement s) := by
        intro s member
        apply tame.child
        refine List.mem_cons_of_mem _ ?_
        rw [← List.map_append]
        exact List.mem_map_of_mem member
      obtain ⟨thenTame, elseTame⟩ := List.forall_mem_append.mp branches
      rw [stmt]
      refine (condition_concludes test (tame.child List.mem_cons_self)).bind fun truth _ => ?_
      split
      · exact (block_concludes thenBlock thenTame).inBlock
      · exact (block_concludes elseBlock elseTame).inBlock
  | switch subject cases span =>
      rw [stmt]
      refine (expr_concludes subject (tame.child List.mem_cons_self)).bind fun value _ => ?_
      refine firstCase_concludes value cases fun c member => tame.child ?_
      exact List.mem_cons_of_mem _ (List.mem_map_of_mem member)
  | loop test body span =>
      exact absurd .refl (tame.loopFree test body span)
  | result value span =>
      rw [stmt]
      exact (expr_concludes value (tame.child List.mem_cons_self)).bind fun _ _ => .pure trivial

theorem block_concludes (b : List Stmt)
    (tame : ∀ s ∈ b, Tame declarations call (.statement s)) :
    Concludes declarations (block call fuel b) := by
  cases b with
  | nil =>
      rw [block]
      exact .pure trivial
  | cons first rest =>
      obtain ⟨firstTame, restTame⟩ := List.forall_mem_cons.mp tame
      rw [block]
      refine (stmt_concludes first firstTame).bind fun flow _ => ?_
      cases flow with
      | normal => exact block_concludes rest restTame
      | returned value => exact .pure trivial

theorem firstCase_concludes (subject : Value) (cs : List Case)
    (tame : ∀ c ∈ cs, Tame declarations call (.case c)) :
    Concludes declarations (firstCase call fuel subject cs) := by
  cases cs with
  | nil =>
      rw [firstCase]
      exact .pure trivial
  | cons first rest =>
      obtain ⟨firstTame, restTame⟩ := List.forall_mem_cons.mp tame
      obtain ⟨value, body, span⟩ := first
      have valueTame : ∀ e ∈ value, Tame declarations call (.expression e) := fun e member =>
        firstTame.child (List.mem_append_left _
          (List.mem_map_of_mem (Option.mem_toList.mpr member)))
      have bodyTame : ∀ s ∈ body, Tame declarations call (.statement s) := fun s member =>
        firstTame.child (List.mem_append_right _ (List.mem_map_of_mem member))
      rw [firstCase]
      refine (matchesCase_concludes subject value valueTame).bind fun matched _ => ?_
      split
      · exact (block_concludes body bodyTame).inBlock
      · exact firstCase_concludes subject rest restTame

end

end Trees

end Eval
end ScriptLang
