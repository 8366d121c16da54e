import Mathlib.Data.List.Basic
import ScriptLang.Evaluation.Statement
import ScriptLang.Proofs.Step

/-!
Accesses to elements of lists.

An element is read by one test of the index and written by another one.  Both accept the indices of
the list and no others, and fail alike.  A write that succeeds stores a list with one element
changed into one variable: the first one of its name, from the innermost scope outwards.
-/

namespace ScriptLang

/-- The index is that of one of so many elements. -/
def InRange (index : Int) (count : Nat) : Prop :=
  0 ≤ index ∧ index < count

instance (index : Int) (count : Nat) : Decidable (InRange index count) :=
  inferInstanceAs (Decidable (_ ∧ _))

/-- The variable that the name means holds a list of these elements. -/
def State.HoldsList (state : State) (name : String) (elements : List Value) : Prop :=
  ∃ cell, state.scope.findVariable? name = some cell ∧ cell.value = .list elements

/-! ### Stores -/

structure RunFrame.Stores (name : String) (value : Value) (before after : RunFrame) : Prop where
  stored : ∃ cell, before.findVariable? name = some cell ∧
    after.findVariable? name = some { cell with value := value }
  others : ∀ other, other ≠ name → after.findVariable? other = before.findVariable? other
  functions : after.functionEntries = before.functionEntries
  returnType : after.returnType = before.returnType

/-- Of the frames, the first one that binds the name has the new value, and the others are the
same. -/
inductive StoresFirst (name : String) (value : Value) : List RunFrame → List RunFrame → Prop where
  | here {before after : RunFrame} {outer : List RunFrame}
      (stores : RunFrame.Stores name value before after) :
      StoresFirst name value (before :: outer) (after :: outer)
  | further {frame : RunFrame} {before after : List RunFrame}
      (unbound : frame.findVariable? name = none) (stores : StoresFirst name value before after) :
      StoresFirst name value (frame :: before) (frame :: after)

/-- The variable that the name means has the new value, and no other variable of any scope has
changed. -/
structure State.Stores (name : String) (value : Value) (before after : State) : Prop where
  frames : StoresFirst name value before.scope.frames after.scope.frames
  sink : after.sink = before.sink

variable {name : String} {value : Value}

theorem RunFrame.stores_updateVariable {frame : RunFrame} {cell : Cell}
    (bound : frame.findVariable? name = some cell) :
    RunFrame.Stores name value frame
      (frame.updateVariable name fun cell => { cell with value := value }) where
  stored := by
    refine ⟨cell, bound, ?_⟩
    rw [Frame.findVariable?_updateVariable, if_pos rfl, bound]
    rfl
  others other different := by rw [Frame.findVariable?_updateVariable, if_neg different]
  functions := rfl
  returnType := rfl

namespace StoresFirst

theorem append_right {before after : List RunFrame} (stores : StoresFirst name value before after)
    (outer : List RunFrame) : StoresFirst name value (before ++ outer) (after ++ outer) := by
  induction stores with
  | here stores => exact .here stores
  | further unbound _ inductionHypothesis => exact .further unbound inductionHypothesis

theorem append_left {inner before after : List RunFrame}
    (unbound : inner.findSome? (fun frame => frame.findVariable? name) = none)
    (stores : StoresFirst name value before after) :
    StoresFirst name value (inner ++ before) (inner ++ after) := by
  induction inner with
  | nil =>
      exact stores
  | cons frame inner inductionHypothesis =>
      rw [List.findSome?_eq_none_iff] at unbound inductionHypothesis
      obtain ⟨unboundHere, unboundFurther⟩ := List.forall_mem_cons.mp unbound
      exact .further unboundHere (inductionHypothesis unboundFurther)

theorem of_updateFirst {before after : List RunFrame}
    (updates : Chain.updateFirst name (fun cell => { cell with value := value }) before =
      some after) : StoresFirst name value before after := by
  induction before generalizing after with
  | nil =>
      cases updates
  | cons frame outer inductionHypothesis =>
      unfold Chain.updateFirst at updates
      split at updates
      · rename_i bound
        cases updates
        exact .here (RunFrame.stores_updateVariable bound)
      · rename_i unbound
        obtain ⟨rest, updatesRest, rfl⟩ := Option.map_eq_some_iff.mp updates
        exact .further unbound (inductionHypothesis updatesRest)

theorem findSome?_eq {before after : List RunFrame} (stores : StoresFirst name value before after) :
    ∃ cell : Cell, after.findSome? (fun frame => frame.findVariable? name) =
      some { cell with value := value } := by
  induction stores with
  | here stores =>
      obtain ⟨cell, _, stored⟩ := stores.stored
      refine ⟨cell, ?_⟩
      rw [List.findSome?_cons, stored]
  | further unbound _ inductionHypothesis =>
      rw [List.findSome?_cons, unbound]
      exact inductionHypothesis

end StoresFirst

theorem Chain.findSome?_of_updateFirst {β φ : Type} {name : String} {change : β → β}
    {frames : List (Frame β φ)} (unbound : Chain.updateFirst name change frames = none) :
    frames.findSome? (fun frame => frame.findVariable? name) = none := by
  induction frames with
  | nil =>
      rfl
  | cons frame outer inductionHypothesis =>
      unfold Chain.updateFirst at unbound
      split at unbound
      · cases unbound
      · rename_i missing
        rw [List.findSome?_cons, missing]
        exact inductionHypothesis (Option.map_eq_none_iff.mp unbound)

theorem State.stores_updateVariable {state : State} {cell : Cell}
    (found : state.scope.findVariable? name = some cell) :
    State.Stores name value state { state with
      scope := state.scope.updateVariable name fun cell => { cell with value := value } } := by
  refine ⟨?_, rfl⟩
  unfold Chain.updateVariable
  split
  · rename_i updates
    exact (StoresFirst.of_updateFirst updates).append_right [state.scope.globals]
  · rename_i unbound
    have unboundInBlocks := Chain.findSome?_of_updateFirst unbound
    unfold Chain.findVariable? Chain.frames at found
    rw [List.findSome?_append, unboundInBlocks] at found
    have boundGlobally : state.scope.globals.findVariable? name = some cell := by
      simpa using found
    exact StoresFirst.append_left unboundInBlocks
      (.here (RunFrame.stores_updateVariable boundGlobally))

theorem State.Stores.holdsList {elements : List Value} {before after : State}
    (stores : State.Stores name (.list elements) before after) : after.HoldsList name elements := by
  obtain ⟨cell, found⟩ := stores.frames.findSome?_eq
  exact ⟨_, found, rfl⟩

/-! ### Accesses -/

/-- The result of a step that accesses an element: it succeeds exactly with an index of one of so
many elements, and then ends as `good` says; otherwise it fails at the offset for the range of the
index, and leaves the state that is given. -/
structure AccessesElement {α : Type} (result : EStateM.Result Stop State α) (index : Int)
    (count offset : Nat) (good : α → State → Prop) (last : State) : Prop where
  succeeds : (∃ value after, result = .ok value after) ↔ InRange index count
  good : ∀ value after, result = .ok value after → good value after
  fails : ¬InRange index count → result = .error (.fault
    { cause := .indexOutOfRange (toString index) count, offset := offset }) last

namespace AccessesElement

variable {α : Type} {result : EStateM.Result Stop State α} {index : Int} {count offset : Nat}
  {good : α → State → Prop} {last : State}

theorem inside {value : α} {after : State} (inRange : InRange index count)
    (ended : result = .ok value after) (holds : good value after) :
    AccessesElement result index count offset good last where
  succeeds := ⟨fun _ => inRange, fun _ => ⟨value, after, ended⟩⟩
  good other behind endedSo := by
    rw [ended] at endedSo
    cases endedSo
    exact holds
  fails outside := absurd inRange outside

theorem outside (notInRange : ¬InRange index count)
    (ended : result = .error (.fault
      { cause := .indexOutOfRange (toString index) count, offset := offset }) last) :
    AccessesElement result index count offset good last where
  succeeds := by
    constructor
    · rintro ⟨value, after, succeeded⟩
      rw [ended] at succeeded
      cases succeeded
    · intro inRange
      exact absurd inRange notInRange
  good value after endedSo := by
    rw [ended] at endedSo
    cases endedSo
  fails _ := ended

theorem bind {β : Type} {step : Eval α} {next : α → Eval β} {better : β → State → Prop}
    {state : State} (accesses : AccessesElement (step state) index count offset good last)
    (continues : ∀ value after, good value after →
      ∃ other behind, next value after = .ok other behind ∧ better other behind) :
    AccessesElement ((step >>= next) state) index count offset better last := by
  by_cases inRange : InRange index count
  · obtain ⟨value, after, ended⟩ := accesses.succeeds.mpr inRange
    obtain ⟨other, behind, endedNext, holds⟩ := continues value after (accesses.good _ _ ended)
    exact .inside inRange ((step_bind_of_ok ended).trans endedNext) holds
  · exact .outside inRange (step_bind_of_error (accesses.fails inRange))

end AccessesElement

namespace Eval

theorem lookupVariable_of_found {state : State} {cell : Cell}
    (found : state.scope.findVariable? name = some cell) (offset : Nat) :
    lookupVariable name offset state = .ok cell state := by
  change ofExcept (state.scope.lookupVariable name offset) state = _
  rw [Chain.lookupVariable_eq_ok.mpr found]
  rfl

theorem elementAt_accesses (elements : List Value) (index : Int) (offset : Nat) (state : State) :
    AccessesElement (elementAt (.list elements) index offset state) index elements.length offset
      (fun element after => after = state ∧ elements[index.toNat]? = some element) state := by
  unfold elementAt
  dsimp only
  by_cases inRange : InRange index elements.length
  · obtain ⟨nonNegative, below⟩ := inRange
    obtain ⟨element, found⟩ : ∃ element, elements[index.toNat]? = some element :=
      ⟨_, List.getElem?_eq_getElem (by omega)⟩
    rw [if_neg (Int.not_lt.mpr nonNegative), found]
    exact .inside ⟨nonNegative, below⟩ rfl ⟨rfl, rfl⟩
  · have missing : (if index < 0 then none else elements[index.toNat]?) = none := by
      unfold InRange at inRange
      split
      · rfl
      · exact List.getElem?_eq_none (by omega)
    rw [missing]
    exact .outside inRange rfl

theorem storeElement_accesses {elements : List Value} {state : State}
    (holds : state.HoldsList name elements) (index : Int) (value : Value) (offset : Nat) :
    AccessesElement (storeElement name index value offset state) index elements.length offset
      (fun _ after => State.Stores name (.list (elements.set index.toNat value)) state after)
      state := by
  obtain ⟨cell, found, isList⟩ := holds
  unfold storeElement
  rw [step_bind_of_ok (lookupVariable_of_found found offset), isList]
  dsimp only
  by_cases inRange : InRange index elements.length
  · have accepted : 0 ≤ index ∧ index.toNat < elements.length := by
      unfold InRange at inRange
      omega
    rw [if_pos accepted]
    exact .inside inRange rfl (State.stores_updateVariable found)
  · have rejected : ¬(0 ≤ index ∧ index.toNat < elements.length) := by
      unfold InRange at inRange
      omega
    rw [if_neg rejected]
    exact .outside inRange rfl

variable {call : Invocation} {state middle later : State} {first : Cell} {elements : List Value}
  {index : Expr} {place span : Span} {ty : Option Ty} {target : Option Variable} {i : Int}

theorem expr_element_accesses (bound : state.scope.findVariable? name = some first)
    (indexed : expr call index state = .ok (.integer i) later)
    (holds : later.HoldsList name elements) :
    AccessesElement (expr call (.element name index span ty target) state) i elements.length
      span.start (fun element after => after = later ∧ elements[i.toNat]? = some element)
      later := by
  obtain ⟨cell, found, isList⟩ := holds
  have reads : expr call (.element name index span ty target) state =
      elementAt (.list elements) i span.start later := by
    rw [expr, step_bind_of_ok (lookupVariable_of_found bound span.start),
      step_bind_of_ok indexed]
    change ((do
      let cell ← lookupVariable name span.start
      elementAt cell.value i span.start) : Eval Value) later = _
    rw [step_bind_of_ok (lookupVariable_of_found found span.start), isList]
  rw [reads]
  exact elementAt_accesses elements i span.start later

theorem index_of_expr (evaluated : expr call index state = .ok (.integer i) later) :
    Eval.index call index state = .ok i later := by
  unfold Eval.index
  rw [step_bind_of_ok evaluated]
  rfl

theorem assignable_of_found (found : state.scope.findVariable? name = some first)
    (isMutable : first.binding.mutable = true) (nameOffset offset : Nat) :
    assignable name nameOffset offset state = .ok () state := by
  unfold assignable
  rw [step_bind_of_ok (lookupVariable_of_found found nameOffset), if_pos isMutable]
  rfl

theorem assign_element_accesses {right : Expr} {last : State}
    (bound : state.scope.findVariable? name = some first)
    (isMutable : first.binding.mutable = true)
    (indexed : expr call index state = .ok (.integer i) middle)
    (evaluated : expr call right middle = .ok value last) (holds : last.HoldsList name elements)
    (offset : Nat) :
    AccessesElement (assign call (.element name index place ty target) right offset state) i
      elements.length place.start
      (fun _ after => State.Stores name (.list (elements.set i.toNat value)) last after) last := by
  have stores : assign call (.element name index place ty target) right offset state =
      storeElement name i value place.start last := by
    unfold assign
    dsimp only
    rw [step_bind_of_ok (assignable_of_found bound isMutable place.start offset),
      step_bind_of_ok (index_of_expr indexed), step_bind_of_ok evaluated]
  rw [stores]
  exact storeElement_accesses holds i value place.start

end Eval
end ScriptLang
