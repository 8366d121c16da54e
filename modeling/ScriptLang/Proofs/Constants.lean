import ScriptLang.Proofs.Definitions
import ScriptLang.Proofs.Failures
import ScriptLang.Proofs.ListShapes

/-!
Constants.

A global that may not change keeps the value that it is defined with: whatever is assigned and
whatever hides its name, no store reaches its cell.  An assignment looks at its variable before
anything else, and nothing that is evaluated until the store can make the name mean another one.
-/

namespace ScriptLang

/-! ### Cells that no step changes -/

/-- Globals that may not change have the cells that they had. -/
def State.KeepsConstants (before after : State) : Prop :=
  ∀ name cell, before.scope.globals.findVariable? name = some cell →
    cell.binding.mutable = false → after.scope.globals.findVariable? name = some cell

/-- Nothing is bound anew, and constants are kept. -/
structure State.Settled (before after : State) : Prop where
  outlines : before.SameOutlines after
  constants : before.KeepsConstants after

/-- Only the innermost block may have more bindings, and constants are kept. -/
structure State.Extended (before after : State) : Prop where
  outlines : before.WiderOutlines after
  constants : before.KeepsConstants after

namespace State

variable {before after state : State} {name : String}

theorem KeepsConstants.of_globals (same : after.scope.globals = before.scope.globals) :
    before.KeepsConstants after := by
  intro name cell bound _
  rw [same]
  exact bound

instance : IsPreorder State KeepsConstants where
  refl _ := .of_globals rfl
  trans _ _ _ first second name cell bound isConstant :=
    second name cell (first name cell bound isConstant) isConstant

instance : IsPreorder State Settled where
  refl state := ⟨refl_of SameOutlines state, refl_of KeepsConstants state⟩
  trans _ _ _ first second :=
    ⟨trans_of SameOutlines first.outlines second.outlines,
      trans_of KeepsConstants first.constants second.constants⟩

instance : IsPreorder State Extended where
  refl state := ⟨.refl state, refl_of KeepsConstants state⟩
  trans _ _ _ first second :=
    ⟨trans_of WiderOutlines first.outlines second.outlines,
      trans_of KeepsConstants first.constants second.constants⟩

theorem Settled.extended (settled : before.Settled after) : before.Extended after :=
  ⟨settled.outlines.wider, settled.constants⟩

/-- The variable that the name means. -/
def meaning? (state : State) (name : String) : Option Variable :=
  (state.scope.findVariable? name).map Cell.binding

theorem findSome?_outlines (state : State) (name : String) :
    state.outlines.findSome? (fun outline => outline name) = state.meaning? name := by
  unfold outlines meaning? Chain.findVariable?
  rw [List.findSome?_map, List.map_findSome?]
  rfl

theorem SameOutlines.meaning?_eq (same : before.SameOutlines after) (name : String) :
    after.meaning? name = before.meaning? name := by
  rw [← findSome?_outlines, ← findSome?_outlines, same]

end State

namespace State

variable {state : State} {name : String}

theorem store_keepsConstants {target : Variable} (means : state.meaning? name = some target)
    (isMutable : target.mutable = true) (value : Value) :
    state.KeepsConstants { state with
      scope := state.scope.updateVariable name fun cell => { cell with value := value } } := by
  unfold Chain.updateVariable
  split
  · exact .of_globals rfl
  · rename_i unbound
    obtain ⟨found, foundHere, rfl⟩ := Option.map_eq_some_iff.mp means
    unfold Chain.findVariable? Chain.frames at foundHere
    rw [List.findSome?_append, Chain.findSome?_of_updateFirst unbound] at foundHere
    have inGlobals : state.scope.globals.findVariable? name = some found := by
      simpa using foundHere
    intro other cell bound isConstant
    dsimp only
    rw [Frame.findVariable?_updateVariable]
    by_cases same : other = name
    · subst same
      rw [inGlobals] at bound
      cases bound
      rw [isMutable] at isConstant
      cases isConstant
    · rw [if_neg same]
      exact bound

end State

namespace Eval

variable {call : Invocation} {name : String} {state : State}

theorem store_settled {target : Variable} (means : state.meaning? name = some target)
    (isMutable : target.mutable = true) (value : Value) :
    Leads (store name value) state (fun _ after => state.Settled after) fun _ _ => False :=
  ⟨state.store_sameOutlines name value, state.store_keepsConstants means isMutable value⟩

theorem assignable_leads (name : String) (nameOffset offset : Nat) (state : State) :
    Leads (assignable name nameOffset offset) state
      (fun _ after => after = state ∧ ∃ target, state.meaning? name = some target ∧
        target.mutable = true)
      fun _ after => after = state := by
  unfold assignable State.meaning?
  cases found : state.scope.findVariable? name with
  | none =>
      have missing : lookupVariable name nameOffset state =
          .error (.fault { cause := .variableNotDeclared name, offset := nameOffset }) state := by
        change ofExcept (state.scope.lookupVariable name nameOffset) state = _
        unfold Chain.lookupVariable
        rw [found]
        rfl
      refine (leads_bind _ _ _ _ _).mpr ?_
      unfold Leads
      rw [missing]
  | some cell =>
      rw [leads_bind_of_ok (lookupVariable_of_found found nameOffset)]
      by_cases isMutable : cell.binding.mutable = true
      · rw [if_pos isMutable]
        exact ⟨rfl, cell.binding, rfl, isMutable⟩
      · rw [if_neg isMutable]
        rfl

theorem storeElement_settled {target : Variable} (means : state.meaning? name = some target)
    (isMutable : target.mutable = true) (index : Int) (value : Value) (offset : Nat) :
    Leads (storeElement name index value offset) state (fun _ after => state.Settled after)
      fun _ after => state.Settled after := by
  obtain ⟨cell, found, _⟩ := Option.map_eq_some_iff.mp means
  unfold storeElement
  rw [leads_bind_of_ok (lookupVariable_of_found found offset)]
  split
  · split
    · exact (store_settled means isMutable _).imp (fun _ _ => id) fun _ _ => False.elim
    · exact refl_of State.Settled state
  · exact refl_of State.Settled state

theorem assign_settled (calls : CallsRespect State.Settled call) (receiver value : Expr)
    (offset : Nat) : Respects State.Settled (assign call receiver value offset) := by
  intro state
  unfold assign
  split
  · rename_i name place ty target
    refine (assignable_leads name place.start offset state).imp (fun _ _ => id)
      (fun _ _ same => same ▸ refl_of State.Settled state) |>.bind ?_
    rintro _ _ ⟨rfl, found, means, isMutable⟩
    refine (expr_respects calls value _).bind fun result behind settled => ?_
    have meansBehind := (settled.outlines.meaning?_eq name).trans means
    exact (store_settled meansBehind isMutable result).imp
      (fun _ _ stored => trans_of State.Settled settled stored) fun _ _ => False.elim
  · rename_i name position place ty target
    refine (assignable_leads name place.start offset state).imp (fun _ _ => id)
      (fun _ _ same => same ▸ refl_of State.Settled state) |>.bind ?_
    rintro _ _ ⟨rfl, found, means, isMutable⟩
    refine (index_respects calls position _).bind fun i middle toIndex => ?_
    refine ((expr_respects calls value middle).imp
      (fun _ _ => trans_of State.Settled toIndex)
      fun _ _ => trans_of State.Settled toIndex).bind fun result behind settled => ?_
    have meansBehind := (settled.outlines.meaning?_eq name).trans means
    exact (storeElement_settled meansBehind isMutable i result place.start).imp
      (fun _ _ => trans_of State.Settled settled) fun _ _ => trans_of State.Settled settled
  · exact refl_of State.Settled state

theorem defineVariable_keepsConstants (binding : Variable) (value : Value) (offset : Nat) :
    Respects State.KeepsConstants (defineVariable binding value offset) := by
  apply defineVariable_respects
  intro state unbound
  obtain ⟨⟨locals, globals⟩, sink⟩ := state
  cases locals with
  | nil =>
      intro other cell bound _
      refine (Frame.findVariable?_addVariable _ _ _ _).trans ?_
      rw [if_neg]
      · exact bound
      · rintro rfl
        exact Option.some_ne_none cell (bound.symm.trans unbound)
  | cons frame outer =>
      exact .of_globals rfl

theorem defineFunction_keepsConstants (function : Function) (offset : Nat) :
    Respects State.KeepsConstants (defineFunction function offset) := by
  apply defineFunction_respects
  intro state _
  obtain ⟨⟨locals, globals⟩, sink⟩ := state
  cases locals with
  | nil => exact fun _ _ bound _ => bound
  | cons frame outer => exact .of_globals rfl

theorem constantLaws : FrameLaws State.Settled State.Extended where
  steadyPreorder := inferInstance
  widePreorder := inferInstance
  widens := fun _ _ => State.Settled.extended
  prints := fun _ _ => ⟨rfl, .of_globals rfl⟩
  assigns := fun _ => assign_settled
  definesVariable := fun binding value offset =>
    (defineVariable_widensOutlines binding value offset).and
      (defineVariable_keepsConstants binding value offset) |>.imp fun _ _ both => ⟨both.1, both.2⟩
  definesFunction := fun function offset =>
    (defineFunction_keepsOutlines function offset).and
      (defineFunction_keepsConstants function offset) |>.imp fun _ _ both =>
        ⟨both.1.wider, both.2⟩
  closesBlock := fun _ respects => respects.inBlock fun _ _ extended =>
    ⟨State.closed_sameOutlines extended.outlines, extended.constants⟩
  closesCall := fun _ _ _ _ respects => respects.inCall fun _ _ extended =>
    ⟨State.left_sameOutlines extended.outlines, extended.constants⟩

end Eval

theorem keepsConstants_lasts : LastingLaws State.Extended State.KeepsConstants where
  preorder := inferInstance
  lasts := fun _ _ => State.Extended.constants
  opens := fun _ => .of_globals rfl
  enters := fun _ _ _ _ => .of_globals rfl

/-! ### Constants in a run -/

section Runs

variable {source : Source} {fuel : Nat} {sink : Sink} {global : GlobalDecl} {moment : Moment}
  {before after state : State} {value : Value}

theorem Source.DefinesAt.keepsConstants_of_globals
    (defines : source.DefinesAt fuel sink global before after)
    (ended : Eval.defineGlobals fuel source.globals (.initial sink) = .ok () state) :
    after.KeepsConstants state := by
  obtain ⟨earlier, rest, split, endedBefore⟩ := defines.placed
  rw [split, Eval.defineGlobals_append endedBefore, Eval.defineGlobals,
    step_bind_of_ok defines.defined] at ended
  exact ((Eval.constantLaws.defineGlobals_respects fuel rest).of_ok ended).constants

theorem Source.DefinesAt.keepsConstants
    (defines : source.DefinesAt fuel sink global before after)
    (behind : source.ReachesBehind fuel sink global moment) :
    after.KeepsConstants moment.state := by
  induction behind with
  | @defined moment rest state reaches taskEq bound =>
      have loads := reaches.loads
      unfold Source.Loads at loads
      rw [taskEq] at loads
      obtain ⟨sameFuel, earlier, split, ended⟩ := loads
      rw [sameFuel] at bound
      cases (defines.unique ⟨⟨earlier, rest, split, ended⟩, bound⟩).2
      exact refl_of State.KeepsConstants after
  | functions bound =>
      exact defines.keepsConstants_of_globals bound
  | main loaded =>
      obtain ⟨_, middle, endedGlobals, loaded⟩ := step_bind_eq_ok.mp loaded
      obtain ⟨_, last, endedFunctions, loaded⟩ := step_bind_eq_ok.mp loaded
      obtain ⟨_, _, got, loaded⟩ := step_bind_eq_ok.mp loaded
      cases got
      have toFunctions := defines.keepsConstants_of_globals endedGlobals
      have toMain := ((Eval.constantLaws.defineFunctions_respects _).of_ok
        endedFunctions).constants
      cases found : last.scope.findFunction? ("main", 0) with
      | none =>
          rw [found] at loaded
          cases loaded
      | some function =>
          rw [found] at loaded
          cases loaded
          exact trans_of State.KeepsConstants toFunctions toMain
  | enters _ enters inductionHypothesis =>
      exact trans_of State.KeepsConstants inductionHypothesis
        (keepsConstants_lasts.entered Eval.constantLaws enters)

/-- Where the task of this moment begins and where it ends, the global of that name has that
cell. -/
def Moment.HoldsCell (moment : Moment) (name : String) (cell : Cell) : Prop :=
  ∀ state, state = moment.state ∨ state = moment.last →
    state.scope.globals.findVariable? name = some cell

theorem Moment.holdsCell_of_keepsConstants {name : String} {cell : Cell}
    (bound : after.scope.globals.findVariable? name = some cell)
    (isConstant : cell.binding.mutable = false) (keeps : after.KeepsConstants moment.state) :
    moment.HoldsCell name cell := by
  intro state beginsOrEnds
  rcases beginsOrEnds with rfl | rfl
  · exact keeps name cell bound isConstant
  · exact keepsConstants_lasts.last Eval.constantLaws moment name cell
      (keeps name cell bound isConstant) isConstant

def Expr.assigned? : Expr → Option String
  | .access name _ _ _ => some name
  | .element name _ _ _ _ => some name
  | _ => none

/-- The statement assigns to the name, or to an element of it, where no open block hides the
global of that name. -/
structure Moment.AssignsGlobal (moment : Moment) (name : String) (receiver value : Expr)
    (span : Span) : Prop where
  task : moment.task = .statement (.assignment receiver value span)
  assigned : receiver.assigned? = some name
  unhidden : ∀ frame ∈ moment.state.scope.locals, frame.findVariable? name = none

theorem Moment.AssignsGlobal.fails {name : String} {receiver assigned : Expr} {span : Span}
    {cell : Cell} (assigns : moment.AssignsGlobal name receiver assigned span)
    (bound : moment.state.scope.globals.findVariable? name = some cell)
    (isConstant : cell.binding.mutable = false) :
    Eval.task moment.fuel moment.task moment.state = .error
      (.fault { cause := .immutableAssignment cell.binding.name, offset := span.start })
      moment.state := by
  have found : moment.state.scope.findVariable? name = some cell := by
    unfold Chain.findVariable? Chain.frames
    rw [List.findSome?_append, List.findSome?_eq_none_iff.mpr assigns.unhidden]
    exact (List.findSome?_singleton).trans bound
  have refused : ∀ nameOffset, Eval.assignable name nameOffset span.start moment.state = .error
      (.fault { cause := .immutableAssignment cell.binding.name, offset := span.start })
      moment.state := by
    intro nameOffset
    unfold Eval.assignable
    rw [step_bind_of_ok (Eval.lookupVariable_of_found found nameOffset), isConstant]
    rfl
  rw [assigns.task]
  have named := assigns.assigned
  cases receiver with
  | access other place ty target =>
      cases named
      refine step_bind_of_error ?_
      rw [Eval.stmt]
      exact step_bind_of_error (step_bind_of_error (refused place.start))
  | element other position place ty target =>
      cases named
      refine step_bind_of_error ?_
      rw [Eval.stmt]
      exact step_bind_of_error (step_bind_of_error (refused place.start))
  | _ =>
      cases named

/-- A constant holds the value that it is defined with until the run ends, and an assignment to it
ends the run. -/
theorem run_keepsConstants (isConstant : global.mutable = false)
    (defines : source.Defines fuel sink global value)
    (behind : source.ReachesBehind fuel sink global moment) :
    moment.HoldsCell global.name (global.cell value) ∧
      ∀ receiver assigned span, moment.AssignsGlobal global.name receiver assigned span →
        source.run fuel sink =
          { result := .error (.fault
              { cause := .immutableAssignment global.name, offset := span.start })
            sink := moment.state.sink } := by
  obtain ⟨before, after, definesAt, bound⟩ := defines.bound
  have holds := Moment.holdsCell_of_keepsConstants bound isConstant
    (definesAt.keepsConstants behind)
  refine ⟨holds, ?_⟩
  intro receiver assigned span assigns
  exact behind.reaches.run_eq (assigns.fails (holds _ (.inl rfl)) isConstant)

theorem Source.ReachesBehind.follow {path : List Nat} {next : Moment}
    (behind : source.ReachesBehind fuel sink global moment)
    (followed : moment.follow? path = some next) :
    source.ReachesBehind fuel sink global next := by
  have reaches := Moment.reflTransGen_iff_follow?.mpr ⟨path, followed⟩
  clear followed
  induction reaches with
  | refl => exact behind
  | tail _ enters inductionHypothesis => exact .enters inductionHypothesis enters

end Runs

/-- A program that assigns to a variable that hides a constant, and then to the constant. -/
def hiddenConstantText : String :=
  "VAL k: Integer = 3; FUN main(): Integer DO LET n = k; IF TRUE DO LET k = 1; k = 2; END "
    ++ "k = n; RETURN k; END"

def Value.integer? : Value → Option Int
  | .integer value => some value
  | _ => none

theorem Value.eq_of_integer? {value : Value} {i : Int} (isInteger : value.integer? = some i) :
    value = .integer i := by
  cases value with
  | integer found => exact congrArg Value.integer (Option.some.inj isInteger)
  | _ => cases isInteger

def Moment.assignment? (moment : Moment) : Option (Expr × Expr × Span) :=
  match moment.task with
  | .statement (.assignment receiver value span) => some (receiver, value, span)
  | _ => none

theorem Moment.task_of_assignment? {moment : Moment} {receiver value : Expr} {span : Span}
    (found : moment.assignment? = some (receiver, value, span)) :
    moment.task = .statement (.assignment receiver value span) := by
  unfold assignment? at found
  split at found
  · rename_i taskEq
    cases found
    exact taskEq
  · cases found

/-- The second assignment ends the run, in which the constant has kept its value. -/
theorem run_keepsConstants_hidden :
    ∃ source global moment receiver assigned span,
      Source.parse hiddenConstantText = .ok source ∧ global.mutable = false ∧
      source.Defines 9 .unlimited global (.integer 3) ∧
      source.ReachesBehind 9 .unlimited global moment ∧
      moment.AssignsGlobal global.name receiver assigned span ∧
      moment.HoldsCell global.name (global.cell (.integer 3)) ∧
      source.run 9 .unlimited =
        { result := .error (.fault
            { cause := .immutableAssignment global.name, offset := span.start })
          sink := moment.state.sink } := by
  have computed : ((Source.parse hiddenConstantText).toOption.bind fun source =>
      source.globals.head?.bind fun global =>
        ((Eval.initialValue (Eval.invoke 9) global.value).yields
            (.initial .unlimited)).head?.bind fun initial =>
          ((Eval.defineGlobal 9 global).yields (.initial .unlimited)).head?.bind fun _ =>
            ((Eval.load 9 source).yields (.initial .unlimited)).head?.bind fun loaded =>
              (Moment.follow? { source.start 9 .unlimited with
                  task := .call loaded.1 [] source.span.start
                  state := loaded.2 } [0, 1, 1, 0]).bind fun moment =>
                moment.assignment?.map fun assignment =>
                  (global.mutable, initial.1.integer?, assignment.1.assigned? == some global.name,
                    moment.state.scope.locals.all fun frame =>
                      (frame.findVariable? global.name).isNone)) =
      some (false, some 3, true, true) := by
    decide +kernel
  obtain ⟨source, found, computed⟩ := Option.bind_eq_some_iff.mp computed
  obtain ⟨global, first, computed⟩ := Option.bind_eq_some_iff.mp computed
  obtain ⟨⟨value, middle⟩, evaluated, computed⟩ := Option.bind_eq_some_iff.mp computed
  obtain ⟨⟨_, after⟩, defined, computed⟩ := Option.bind_eq_some_iff.mp computed
  obtain ⟨⟨main, state⟩, loaded, computed⟩ := Option.bind_eq_some_iff.mp computed
  obtain ⟨moment, followed, computed⟩ := Option.bind_eq_some_iff.mp computed
  obtain ⟨⟨receiver, assigned, span⟩, assignment, seen⟩ := Option.map_eq_some_iff.mp computed
  simp only [Prod.mk.injEq, beq_iff_eq, List.all_eq_true, Option.isNone_iff_eq_none] at seen
  obtain ⟨isConstant, isInteger, named, unhidden⟩ := seen
  cases Value.eq_of_integer? isInteger
  have split : source.globals = [] ++ global :: source.globals.tail :=
    (List.cons_head?_tail first).symm
  have defines : source.Defines 9 .unlimited global (.integer 3) :=
    ⟨_, _, _, ⟨⟨[], _, split, rfl⟩, Eval.ended_of_head? defined⟩, Eval.ended_of_head? evaluated⟩
  have behind : source.ReachesBehind 9 .unlimited global moment :=
    Source.ReachesBehind.follow (.main (Eval.ended_of_head? loaded)) followed
  have assigns : moment.AssignsGlobal global.name receiver assigned span :=
    ⟨Moment.task_of_assignment? assignment, named, unhidden⟩
  have keeps := run_keepsConstants isConstant defines behind
  exact ⟨source, global, moment, receiver, assigned, span, eq_ok_of_toOption found, isConstant,
    defines, behind, assigns, keeps.1, keeps.2 receiver assigned span assigns⟩

end ScriptLang
