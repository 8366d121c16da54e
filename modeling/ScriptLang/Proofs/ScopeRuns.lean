import ScriptLang.Proofs.CallFrames
import ScriptLang.Proofs.ChainScopes

/-!
Runs among scopes.

A run keeps the chain of the scope that it is in.  The scopes of callers, and those that were left,
are not on that chain, and yet they are there.  Whatever is evaluated leads the scopes on by
operations that reach the parent chain alone, and a call reaches only the globals of it: its body
has a scope of its own inside the globals.  The frames that wait for a call to return are therefore
the frames of scopes that nothing meanwhile can change.
-/

namespace ScriptLang

variable {reach wider : List Nat → List Nat}

/-- Scopes that show the first state can be led on until the same scope shows the second one.  Only
those scopes change that `reach` picks out of the parent chain. -/
def State.Becomes (reach : List Nat → List Nat) (before after : State) : Prop :=
  ∀ (forest : Forest Cell Function) scope, forest.Shows scope before.scope →
    ∃ later, forest.Continues (reach (forest.ancestry scope)) later ∧
      later.Shows scope after.scope

def outermost (ancestry : List Nat) : List Nat :=
  ancestry.getLast?.toList

theorem outermost_ancestry {β φ : Type} (forest : Forest β φ) (id : Nat) :
    outermost (forest.ancestry id) = [forest.root id] := by
  unfold outermost Forest.root
  rw [List.getLastD_eq_getLast?, List.getLast?_eq_some_getLast (forest.ancestry_ne_nil id)]
  rfl

namespace State.Becomes

variable {before middle after state inner : State}

theorem of_scope (same : after.scope = before.scope) : before.Becomes reach after := by
  intro forest scope shows
  rw [← same] at shows
  exact ⟨forest, .refl _ _, shows⟩

theorem trans (first : before.Becomes reach middle) (second : middle.Becomes reach after) :
    before.Becomes reach after := by
  intro forest scope shows
  obtain ⟨next, toNext, showsNext⟩ := first forest scope shows
  obtain ⟨later, further, showsLater⟩ := second next scope showsNext
  rw [toNext.ancestry_eq shows.ordered shows.opened] at further
  exact ⟨later, toNext.followed further, showsLater⟩

instance : IsPreorder State (State.Becomes reach) where
  refl _ := of_scope rfl
  trans _ _ _ := trans

theorem mono (becomes : before.Becomes reach after)
    (within : ∀ ancestry, reach ancestry ⊆ wider ancestry) : before.Becomes wider after := by
  intro forest scope shows
  obtain ⟨later, continues, showsLater⟩ := becomes forest scope shows
  exact ⟨later, continues.mono fun _ _ member => within _ member, showsLater⟩

theorem of_outermost (becomes : before.Becomes outermost after) : before.Becomes id after :=
  becomes.mono fun _ _ member => List.mem_of_getLast? (Option.mem_toList.mp member)

theorem of_innermost {frame : RunFrame}
    (defines : ∀ (forest : Forest Cell Function) scope, forest.Shows scope state.scope →
      forest.Continues [scope] (forest.withFrame scope frame) ∧
        (forest.withFrame scope frame).Shows scope (state.scope.withInnermost frame)) :
    state.Becomes id { state with scope := state.scope.withInnermost frame } := by
  intro forest scope shows
  obtain ⟨continues, showsLater⟩ := defines forest scope shows
  refine ⟨_, continues.mono ?_, showsLater⟩
  rintro other _ isOther
  exact List.mem_singleton.mp isOther ▸ forest.self_mem_ancestry scope

theorem closed (becomes : state.opened.Becomes id inner) :
    state.Becomes id
      { inner with scope := { inner.scope with locals := inner.scope.locals.tail } } := by
  intro forest scope shows
  have child := shows.child
  obtain ⟨later, further, showsInner⟩ := becomes _ _ child.shows
  have isParent := further.parents _ child.shows.opened
  rw [child.parent] at isParent
  exact ⟨later,
    child.continues.widen.trans further fun _ => child.around shows.ordered shows.opened,
    showsInner.outer isParent⟩

end State.Becomes

open Forest in
theorem Eval.shows_bindArguments {offset : Nat} {bindings : List (Parameter × Value × Ty)}
    {forest : Forest Cell Function} {id : Nat} {chain : RunScope} {frame last : RunFrame}
    (bound : bindArguments offset frame bindings = .ok last)
    (shows : forest.Shows id (chain.push frame)) :
    ∃ later, forest.Continues [id] later ∧ later.Shows id (chain.push last) := by
  induction bindings generalizing forest frame with
  | nil =>
      cases bound
      exact ⟨forest, .refl _ _, shows⟩
  | cons first rest inductionHypothesis =>
      obtain ⟨next, defined, bound⟩ := bind_eq_ok.mp bound
      obtain ⟨toMiddle, showsMiddle⟩ := shows.definesVariable defined
      obtain ⟨later, further, showsLater⟩ := inductionHypothesis bound showsMiddle
      exact ⟨later, toMiddle.followed further, showsLater⟩

open Forest in
theorem Forest.Shows.entered {forest : Forest Cell Function} {scope : Nat} {state : State}
    {returnType : Ty} {frame : RunFrame} (shows : forest.Shows scope state.scope)
    (isBody : Eval.IsBodyFrame returnType frame) :
    ∃ later body, forest.Continues [] later ∧ later.Shows body (state.entered frame).scope ∧
      ¬ forest.Opened body ∧ later.ancestry body = [body, forest.root scope] := by
  obtain ⟨offset, bindings, bound⟩ := isBody
  have body := shows.root.functionBody returnType
  obtain ⟨later, binds, showsBody⟩ := Eval.shows_bindArguments bound body.shows
  refine ⟨later, forest.scopes.length, body.continues.trans binds ?_, showsBody,
    Nat.lt_irrefl _, ?_⟩
  · intro other opened member
    exact absurd (List.mem_singleton.mp member) (Nat.ne_of_lt opened)
  · rw [binds.ancestry_eq body.shows.ordered body.shows.opened,
      body.ancestry_eq shows.ordered shows.root.opened,
      ancestry_of_no_parent (shows.ordered.parent?_root scope)]

open Forest in
/-- When the body of a call ends, the scopes of the caller have the frames that they had. -/
theorem State.Becomes.left {returnType : Ty} {frame : RunFrame} {state inner : State}
    (isBody : Eval.IsBodyFrame returnType frame)
    (becomes : (state.entered frame).Becomes id inner) :
    state.Becomes outermost
      { inner with scope := { inner.scope with locals := state.scope.locals } } := by
  intro forest scope shows
  obtain ⟨middle, body, enters, showsBody, fresh, bodyAncestry⟩ := shows.entered isBody
  obtain ⟨later, further, showsInner⟩ := becomes middle body showsBody
  rw [id_eq, bodyAncestry] at further
  -- of the scopes that were there, the body can reach the outermost one alone
  have continues : forest.Continues [forest.root scope] later := by
    refine enters.widen.trans further fun other opened member => ?_
    rcases List.mem_cons.mp member with rfl | member
    · exact absurd opened fresh
    · exact member
  have globalsEq : later.frame? (forest.root scope) = some inner.scope.globals := by
    have isRoot : later.root body = forest.root scope := by
      unfold root
      rw [further.ancestry_eq showsBody.ordered showsBody.opened, bodyAncestry]
      rfl
    rw [← isRoot]
    exact showsInner.split_root.2
  rw [outermost_ancestry]
  refine ⟨later, continues, .of_split_root (continues.ordered shows.ordered)
    (continues.opened scope shows.opened) ?_ ?_⟩
  · rw [continues.blocks_eq shows.ordered shows.opened, continues.filterMap_frame?]
    · exact shows.split_root.1
    · intro other member
      rw [List.mem_singleton]
      exact shows.opened_of_mem_blocks member
  · rw [continues.root_eq shows.ordered shows.opened]
    exact globalsEq

namespace Eval

open State (Becomes)

theorem store_becomes (name : String) (value : Value) :
    Respects (Becomes id) (store name value) :=
  fun _ _ _ shows => shows.updateVariable name fun cell => { cell with value := value }

/-- Whatever is evaluated, scopes that show where it begins can be led on to where it ends. -/
theorem scopeLaws : FrameLaws (Becomes id) (Becomes id) where
  steadyPreorder := inferInstance
  widePreorder := inferInstance
  widens := fun _ _ becomes => becomes
  prints := fun _ _ => .of_scope rfl
  assigns := fun _ => assign_respects store_becomes
  definesVariable := fun binding value offset =>
    defineVariable_respects binding value offset fun _ free =>
      .of_innermost fun _ _ shows =>
        shows.definesVariable ((Frame.defineVariable_eq_ok_iff _ _ _ _ offset).mpr ⟨free, rfl⟩)
  definesFunction := fun function offset =>
    defineFunction_respects function offset fun _ free =>
      .of_innermost fun _ _ shows =>
        shows.definesFunction (Frame.defineFunction_of_free free _ offset)
  closesBlock := fun _ becomes => becomes.inBlock fun _ _ => Becomes.closed
  closesCall := fun _ _ isBody _ becomes =>
    becomes.inCall fun _ _ ended => (Becomes.left isBody ended).of_outermost

theorem invoke_becomes (fuel : Nat) : CallsRespect (Becomes outermost) (invoke fuel) := by
  intro function arguments offset
  cases fuel with
  | zero =>
      exact fun state => refl_of (Becomes outermost) state
  | succ fuel =>
      rw [invoke]
      split
      · intro state
        unfold Leads
        dsimp only
        cases Builtin.apply _ arguments state.sink with
        | mk result sink =>
            cases result with
            | ok value => exact .of_scope rfl
            | error cause => exact .of_scope rfl
      · refine .ofExcept_bind fun frame bound => ?_
        have blocks := scopeLaws.block_respects (scopeLaws.invoke_respects fuel) fuel
        exact (Respects.inCall (blocks _) fun _ _ => Becomes.left ⟨_, _, bound⟩).bind
          fun _ => .pure _
      · exact .fail _ _

end Eval

/-! ### Moments -/

/-- Scopes that show the first state can be led on until some scope shows the second one.  Of the
scopes that were there, only those change, and only those lie around it, that lay around the first
one. -/
def State.Moves (before after : State) : Prop :=
  ∀ (forest : Forest Cell Function) scope, forest.Shows scope before.scope →
    ∃ later inner, forest.Continues (forest.ancestry scope) later ∧
      later.Shows inner after.scope ∧
      ∀ other ∈ later.ancestry inner, forest.Opened other → other ∈ forest.ancestry scope

namespace State.Moves

variable {before middle after : State}

theorem of_becomes (becomes : before.Becomes id after) : before.Moves after := by
  intro forest scope shows
  obtain ⟨later, continues, showsLater⟩ := becomes forest scope shows
  refine ⟨later, scope, continues, showsLater, fun other member _ => ?_⟩
  rwa [continues.ancestry_eq shows.ordered shows.opened] at member

theorem trans (first : before.Moves middle) (second : middle.Moves after) :
    before.Moves after := by
  intro forest scope shows
  obtain ⟨next, inner, toNext, showsNext, around⟩ := first forest scope shows
  obtain ⟨later, innermost, further, showsLater, aroundNext⟩ := second next inner showsNext
  refine ⟨later, innermost, toNext.trans further fun other opened member =>
    around other member opened, showsLater, fun other member opened => ?_⟩
  exact around other (aroundNext other member (toNext.opened other opened)) opened

instance : IsPreorder State State.Moves where
  refl _ := of_becomes (.of_scope rfl)
  trans _ _ _ := trans

end State.Moves

theorem scopes_last : LastingLaws (State.Becomes id) State.Moves where
  preorder := inferInstance
  lasts := fun _ _ => .of_becomes
  opens := by
    intro state forest scope shows
    have child := shows.child
    exact ⟨_, _, child.continues.widen, child.shows, fun other member opened =>
      child.around shows.ordered shows.opened opened member⟩
  enters := by
    intro state returnType frame isBody forest scope shows
    obtain ⟨later, body, enters, showsBody, fresh, bodyAncestry⟩ := shows.entered isBody
    refine ⟨later, body, enters.widen, showsBody, fun other member opened => ?_⟩
    rw [bodyAncestry] at member
    rcases List.mem_cons.mp member with rfl | member
    · exact absurd opened fresh
    · exact List.mem_singleton.mp member ▸ forest.root_mem_ancestry scope

namespace Moment

variable {moment inner : Moment} {forest : Forest Cell Function} {scope : Nat}
  {waiting : List Nat}

/-- The scope shows the chain of the moment.  The frames that wait are those of other scopes, which
are not around it. -/
structure ShownIn (moment : Moment) (forest : Forest Cell Function) (scope : Nat)
    (waiting : List Nat) : Prop where
  shows : forest.Shows scope moment.state.scope
  waits : waiting.filterMap forest.frame? = moment.suspended
  apart : ∀ other ∈ waiting, forest.Opened other ∧ other ∉ forest.ancestry scope

theorem ShownIn.last (shown : moment.ShownIn forest scope waiting) :
    ∃ later, forest.Continues (forest.ancestry scope) later ∧
      later.Shows scope moment.last.scope ∧ waiting.filterMap later.frame? = moment.suspended := by
  have becomes := last_of_respects (Eval.scopeLaws.task_respects moment.fuel moment.task)
  obtain ⟨later, continues, showsLast⟩ := becomes forest scope shown.shows
  exact ⟨later, continues, showsLast, (continues.filterMap_frame? shown.apart).trans shown.waits⟩

/-- Where a call is entered, the scopes of its blocks go on to wait. -/
theorem Enters.shown (enters : moment.Enters inner)
    (shown : moment.ShownIn forest scope waiting) :
    ∃ later innerScope innerWaiting, forest.Continues (forest.ancestry scope) later ∧
      inner.ShownIn later innerScope innerWaiting := by
  obtain ⟨shows, waits, apart⟩ := shown
  cases enters with
  | part part =>
      obtain ⟨later, innerScope, continues, showsInner, around⟩ :=
        scopes_last.part Eval.scopeLaws part forest scope shows
      refine ⟨later, innerScope, waiting, continues, showsInner,
        (continues.filterMap_frame? apart).trans waits, fun other member => ?_⟩
      obtain ⟨opened, outside⟩ := apart other member
      exact ⟨continues.opened other opened, fun inside => outside (around other inside opened)⟩
  | body bodyEq bound =>
      obtain ⟨later, body, continues, showsBody, fresh, bodyAncestry⟩ :=
        shows.entered ⟨_, _, bound⟩
      have opened : ∀ other ∈ forest.blocks scope ++ waiting,
          forest.Opened other ∧ other ≠ forest.root scope := by
        intro other member
        rcases List.mem_append.mp member with member | member
        · exact shows.opened_of_mem_blocks member
        · refine ⟨(apart other member).1, ?_⟩
          rintro rfl
          exact (apart _ member).2 (forest.root_mem_ancestry scope)
      refine ⟨later, body, forest.blocks scope ++ waiting, continues.widen, showsBody, ?_, ?_⟩
      · rw [continues.filterMap_frame? fun other member =>
          ⟨(opened other member).1, List.not_mem_nil⟩, List.filterMap_append, waits,
          shows.split_root.1]
      · intro other member
        obtain ⟨isOpened, notRoot⟩ := opened other member
        refine ⟨continues.opened other isOpened, fun inside => ?_⟩
        rw [bodyAncestry] at inside
        rcases List.mem_cons.mp inside with rfl | inside
        · exact fresh isOpened
        · exact notRoot (List.mem_singleton.mp inside)

end Moment

namespace Forest

variable {β φ : Type}

theorem run_concat {operations : List (Operation β φ)} {operation : Operation β φ}
    (opened : ∀ scope ∈ operation.scope?, (run operations).Opened scope) :
    run (operations ++ [operation]) = (run operations).perform operation := by
  unfold run at opened ⊢
  rw [List.foldl_append, List.foldl_cons, List.foldl_nil, if_pos opened]

theorem run_of_performed {operations : List (Operation β φ)} {later : Forest β φ}
    (performed : Relation.ReflTransGen Performs (run operations) later) :
    ∃ more, run (operations ++ more) = later := by
  induction performed with
  | refl => exact ⟨[], by rw [List.append_nil]⟩
  | tail _ performs inductionHypothesis =>
      obtain ⟨operation, opened, rfl⟩ := performs
      obtain ⟨more, rfl⟩ := inductionHypothesis
      refine ⟨more ++ [operation], ?_⟩
      rw [← List.append_assoc]
      exact run_concat opened

theorem shows_initial (sink : Sink) :
    ∃ operations, (run operations).Shows 0 (State.initial sink).scope := by
  let builtins := Builtin.all.map fun builtin =>
    (builtin.signature.key, Function.ofBuiltin builtin)
  have runEq : run ([] ++ [.withFunctions builtins]) =
      (empty : Forest Cell Function).perform (.withFunctions builtins) :=
    run_concat fun _ impossible => nomatch impossible
  refine ⟨[] ++ [.withFunctions builtins], ?_⟩
  rw [runEq]
  exact shows_withFunctions builtins

end Forest

/-- At every moment of a run, the chain that the run keeps and the frames that wait are those of
scopes that operations have made. -/
theorem Source.shown_of_reaches {source : Source} {fuel : Nat} {sink : Sink} {moment : Moment}
    (reaches : source.Reaches fuel sink moment) :
    ∃ operations scope waiting, moment.ShownIn (Forest.run operations) scope waiting := by
  induction reaches with
  | refl =>
      obtain ⟨operations, shows⟩ := Forest.shows_initial sink
      exact ⟨operations, 0, [], shows, rfl, fun _ impossible => absurd impossible List.not_mem_nil⟩
  | tail _ enters inductionHypothesis =>
      obtain ⟨operations, scope, waiting, shown⟩ := inductionHypothesis
      obtain ⟨later, innerScope, innerWaiting, continues, shownInner⟩ := enters.shown shown
      obtain ⟨more, rfl⟩ := Forest.run_of_performed continues.performed
      exact ⟨operations ++ more, innerScope, innerWaiting, shownInner⟩

/-- What a run looks up at a moment is what nested maps give. -/
theorem Source.lookups_of_reaches {source : Source} {fuel : Nat} {sink : Sink} {moment : Moment}
    (reaches : source.Reaches fuel sink moment) :
    ∃ (forest : Forest Cell Function) (scope : Nat), forest.NestedMaps ∧
      (∀ name offset, moment.state.scope.lookupVariable name offset =
        forest.lookupVariable scope name offset) ∧
      ∀ key offset, moment.state.scope.lookupFunction key offset =
        forest.lookupFunction scope key offset := by
  obtain ⟨operations, scope, waiting, shown⟩ := Source.shown_of_reaches reaches
  exact ⟨_, scope, shown.shows.ordered.nestedMaps,
    fun name offset => (shown.shows.lookupVariable name offset).symm,
    fun key offset => (shown.shows.lookupFunction key offset).symm⟩

/-- A call leaves all scopes that are there as they are, those of its caller included, but for the
globals. -/
theorem call_keepsScopes {moment : Moment} {function : Function} {arguments : List Value}
    {offset scope : Nat} {forest : Forest Cell Function}
    (calls : moment.task = .call function arguments offset)
    (shows : forest.Shows scope moment.state.scope) :
    ∃ later, forest.Continues [forest.root scope] later ∧ later.Shows scope moment.last.scope := by
  have becomes : moment.state.Becomes outermost moment.last := by
    apply Moment.last_of_respects
    rw [calls]
    exact (Eval.invoke_becomes moment.fuel function arguments offset).bind fun _ => .pure _
  rw [← outermost_ancestry]
  exact becomes forest scope shows

end ScriptLang
