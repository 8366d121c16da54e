import ScriptLang.Proofs.FrameLaws

/-!
Which names are bound while a run goes on.

The outline of a frame says which variable each name is bound to, and not what its value is.
Expressions, blocks and calls leave the outlines of all frames as they are; a declaration binds
one more name in the innermost frame.
-/

namespace ScriptLang

/-- The variables that names are bound to. -/
abbrev Outline := String → Option Variable

def RunFrame.outline (frame : RunFrame) : Outline :=
  fun name => (frame.findVariable? name).map Cell.binding

def State.outlines (state : State) : List Outline :=
  state.scope.frames.map RunFrame.outline

namespace Outline

def Grows (before after : Outline) : Prop :=
  ∀ name, after name = before name ∨
    before name = none ∧ ∃ target, after name = some target ∧ target.name = name

def Named (outline : Outline) : Prop :=
  ∀ name target, outline name = some target → target.name = name

variable {before middle after : Outline}

theorem Grows.refl (outline : Outline) : outline.Grows outline :=
  fun _ => .inl rfl

theorem Grows.of_bound (grows : before.Grows after) {name : String} {target : Variable}
    (bound : before name = some target) : after name = some target := by
  rcases grows name with same | ⟨unbound, _⟩
  · rw [same, bound]
  · rw [unbound] at bound
    cases bound

theorem Grows.trans (first : before.Grows middle) (second : middle.Grows after) :
    before.Grows after := by
  intro name
  rcases first name with same | ⟨unbound, target, bound, named⟩
  · rw [← same]
    exact second name
  · exact .inr ⟨unbound, target, second.of_bound bound, named⟩

theorem Grows.named (grows : before.Grows after) (named : before.Named) : after.Named := by
  intro name target bound
  rcases grows name with same | ⟨_, found, foundEq, foundNamed⟩
  · rw [same] at bound
    exact named name target bound
  · rw [foundEq] at bound
    cases bound
    exact foundNamed

end Outline

/-- The innermost of the frames comes to bind more names, and the others stay as they are. -/
inductive Widens : List Outline → List Outline → Prop where
  | innermost {before after : Outline} {outer : List Outline} (grows : before.Grows after) :
      Widens (before :: outer) (after :: outer)

theorem Widens.tail_eq {before after : List Outline} (widens : Widens before after) :
    after.tail = before.tail := by
  cases widens with
  | innermost grows => rfl

theorem Widens.length_eq {before after : List Outline} (widens : Widens before after) :
    after.length = before.length := by
  cases widens with
  | innermost grows => rfl

theorem Widens.trans {first second third : List Outline} (toSecond : Widens first second)
    (toThird : Widens second third) : Widens first third := by
  cases toSecond with
  | innermost grows =>
      cases toThird with
      | innermost grows' => exact .innermost (grows.trans grows')

theorem Widens.last {outer outer' : List Outline} {first last : Outline}
    (widens : Widens (outer ++ [first]) (outer' ++ [last])) :
    first.Grows last ∧ (outer ≠ [] → last = first) := by
  have tails := widens.tail_eq
  cases outer with
  | nil =>
      cases outer' with
      | nil =>
          cases widens with
          | innermost grows => exact ⟨grows, fun isEmpty => absurd rfl isEmpty⟩
      | cons head rest =>
          exact absurd tails (List.append_ne_nil_of_right_ne_nil rest (List.cons_ne_nil _ _))
  | cons head rest =>
      cases outer' with
      | nil =>
          exact absurd tails.symm
            (List.append_ne_nil_of_right_ne_nil rest (List.cons_ne_nil _ _))
      | cons head' rest' =>
          cases (List.append_inj' tails rfl).2
          exact ⟨.refl _, fun _ => rfl⟩

def State.SameOutlines (before after : State) : Prop :=
  after.outlines = before.outlines

def State.WiderOutlines (before after : State) : Prop :=
  Widens before.outlines after.outlines

/-! ### Frames -/

namespace RunFrame

theorem outline_updateVariable (frame : RunFrame) (name : String) (value : Value) :
    RunFrame.outline (frame.updateVariable name fun cell => { cell with value := value }) =
      RunFrame.outline frame := by
  funext other
  unfold outline
  rw [Frame.findVariable?_updateVariable]
  by_cases same : other = name
  · rw [if_pos same]
    cases frame.findVariable? other with
    | none => rfl
    | some cell => rfl
  · rw [if_neg same]

theorem outline_addVariable {frame : RunFrame} {name : String} (cell : Cell)
    (unbound : frame.findVariable? name = none) (named : cell.binding.name = name) :
    Outline.Grows (RunFrame.outline frame) (RunFrame.outline (frame.addVariable name cell)) := by
  intro other
  unfold outline
  rw [Frame.findVariable?_addVariable]
  by_cases same : other = name
  · subst same
    rw [if_pos rfl, unbound]
    exact .inr ⟨rfl, cell.binding, rfl, named⟩
  · rw [if_neg same]
    exact .inl rfl

theorem outline_bindArguments (offset : Nat) (bindings : List (Parameter × Value × Ty))
    {frame result : RunFrame} (bound : Eval.bindArguments offset frame bindings = .ok result) :
    Outline.Grows (RunFrame.outline frame) (RunFrame.outline result) := by
  induction bindings generalizing frame with
  | nil =>
      cases bound
      exact .refl _
  | cons first rest inductionHypothesis =>
      obtain ⟨parameter, value, ty⟩ := first
      obtain ⟨wider, defined, restBound⟩ := bind_eq_ok.mp bound
      obtain ⟨unbound, rfl⟩ := (Frame.defineVariable_eq_ok_iff _ _ _ _ _).mp defined
      exact (outline_addVariable _ unbound rfl).trans (inductionHypothesis restBound)

end RunFrame

/-! ### States -/

namespace State

variable {before after : State}

theorem outlines_eq (state : State) :
    state.outlines =
      state.scope.locals.map RunFrame.outline ++ [RunFrame.outline state.scope.globals] := by
  unfold outlines Chain.frames
  rw [List.map_append, List.map_cons, List.map_nil]

instance : IsPreorder State SameOutlines where
  refl _ := rfl
  trans _ _ _ first second := second.trans first

theorem WiderOutlines.refl (state : State) : state.WiderOutlines state := by
  unfold WiderOutlines
  rw [outlines_eq]
  cases state.scope.locals with
  | nil => exact .innermost (.refl _)
  | cons frame outer => exact .innermost (.refl _)

theorem SameOutlines.wider (same : before.SameOutlines after) : before.WiderOutlines after := by
  have wider := WiderOutlines.refl before
  unfold WiderOutlines at wider ⊢
  rw [same]
  exact wider

/-- No block is left open or closed too often. -/
theorem WiderOutlines.length_locals (wider : before.WiderOutlines after) :
    after.scope.locals.length = before.scope.locals.length := by
  have same := Widens.length_eq wider
  rw [outlines_eq, outlines_eq, List.length_append, List.length_append, List.length_map,
    List.length_map] at same
  exact Nat.succ.inj same

instance : IsPreorder State WiderOutlines where
  refl := WiderOutlines.refl
  trans _ _ _ first second := Widens.trans first second

theorem store_sameOutlines (state : State) (name : String) (value : Value) :
    state.SameOutlines { state with
      scope := state.scope.updateVariable name fun cell => { cell with value := value } } :=
  Chain.map_frames_updateVariable
    (fun frame => RunFrame.outline_updateVariable frame name value) state.scope

theorem addVariable_widerOutlines {state : State} (cell : Cell)
    (unbound : state.scope.innermost.findVariable? cell.binding.name = none) :
    state.WiderOutlines { state with
      scope := state.scope.withInnermost
        (state.scope.innermost.addVariable cell.binding.name cell) } := by
  unfold WiderOutlines
  rw [outlines_eq, outlines_eq]
  obtain ⟨⟨locals, globals⟩, sink⟩ := state
  cases locals with
  | nil => exact .innermost (RunFrame.outline_addVariable cell unbound rfl)
  | cons frame outer => exact .innermost (RunFrame.outline_addVariable cell unbound rfl)

theorem addFunction_sameOutlines (state : State) (key : String × Nat) (function : Function) :
    state.SameOutlines { state with
      scope := state.scope.withInnermost (state.scope.innermost.addFunction key function) } := by
  obtain ⟨⟨locals, globals⟩, sink⟩ := state
  cases locals with
  | nil => rfl
  | cons frame outer => rfl

/-- What a block binds is gone when the block is closed. -/
theorem closed_sameOutlines {state inner : State} (wider : state.opened.WiderOutlines inner) :
    state.SameOutlines
      { inner with scope := { inner.scope with locals := inner.scope.locals.tail } } := by
  unfold WiderOutlines at wider
  have opened : state.opened.outlines =
      RunFrame.outline .empty :: state.outlines := rfl
  rw [opened, outlines_eq inner] at wider
  unfold SameOutlines
  rw [outlines_eq]
  generalize inner.scope.locals = locals at wider ⊢
  generalize outlinesEq : state.outlines = outlines at wider ⊢
  cases locals with
  | nil =>
      cases wider
      rw [outlines_eq] at outlinesEq
      exact absurd outlinesEq (List.append_ne_nil_of_right_ne_nil _ (List.cons_ne_nil _ _))
  | cons frame outer =>
      cases wider
      rfl

theorem left_sameOutlines {state inner : State} {frame : RunFrame}
    (wider : (state.entered frame).WiderOutlines inner) :
    state.SameOutlines
      { inner with scope := { inner.scope with locals := state.scope.locals } } := by
  have wider : Widens ([RunFrame.outline frame] ++ [RunFrame.outline state.scope.globals])
      (inner.scope.locals.map RunFrame.outline ++ [RunFrame.outline inner.scope.globals]) := by
    rw [← outlines_eq inner]
    exact wider
  have sameGlobals := wider.last.2 (List.cons_ne_nil _ _)
  unfold SameOutlines
  rw [outlines_eq, outlines_eq]
  dsimp only
  rw [sameGlobals]

end State

namespace Eval

theorem store_keepsOutlines (name : String) (value : Value) :
    Respects State.SameOutlines (store name value) :=
  fun state => state.store_sameOutlines name value

theorem defineVariable_widensOutlines (binding : Variable) (value : Value) (offset : Nat) :
    Respects State.WiderOutlines (defineVariable binding value offset) :=
  defineVariable_respects binding value offset fun _ unbound =>
    State.addVariable_widerOutlines ⟨binding, value⟩ unbound

theorem defineFunction_keepsOutlines (function : Function) (offset : Nat) :
    Respects State.SameOutlines (defineFunction function offset) :=
  defineFunction_respects function offset fun state _ => state.addFunction_sameOutlines _ function

/-- Only declarations change outlines, and those only the innermost one. -/
theorem outlineLaws : FrameLaws State.SameOutlines State.WiderOutlines where
  steadyPreorder := inferInstance
  widePreorder := inferInstance
  widens := fun _ _ => State.SameOutlines.wider
  prints := fun _ _ => rfl
  assigns := fun _ => assign_respects store_keepsOutlines
  definesVariable := defineVariable_widensOutlines
  definesFunction := fun function offset =>
    (defineFunction_keepsOutlines function offset).imp fun _ _ => State.SameOutlines.wider
  closesBlock := fun _ widens => widens.inBlock fun _ _ => State.closed_sameOutlines
  closesCall := fun _ _ _ _ widens => widens.inCall fun _ _ => State.left_sameOutlines

end Eval

/-! ### What lasts -/

namespace State

/-- What the names of globals are bound to lasts, and unbound names may come to be bound. -/
def GlobalsGrow (before after : State) : Prop :=
  Outline.Grows (RunFrame.outline before.scope.globals) (RunFrame.outline after.scope.globals)

def Named (state : State) : Prop :=
  ∀ outline ∈ state.outlines, outline.Named

theorem initial_named (sink : Sink) : (State.initial sink).Named := by
  intro outline member
  cases List.mem_singleton.mp member
  intro name target bound
  cases bound

instance : IsPreorder State GlobalsGrow where
  refl _ := .refl _
  trans _ _ _ first second := first.trans second

instance : IsPreorder State fun before after => before.Named → after.Named where
  refl _ := id
  trans _ _ _ first second := second ∘ first

theorem WiderOutlines.globalsGrow {before after : State} (wider : before.WiderOutlines after) :
    before.GlobalsGrow after := by
  unfold WiderOutlines at wider
  rw [outlines_eq, outlines_eq] at wider
  exact wider.last.1

theorem WiderOutlines.named {before after : State} (wider : before.WiderOutlines after)
    (named : before.Named) : after.Named := by
  unfold WiderOutlines at wider
  unfold Named at named ⊢
  generalize before.outlines = first at wider named
  generalize after.outlines = last at wider ⊢
  cases wider with
  | innermost grows =>
      obtain ⟨innermostNamed, outerNamed⟩ := List.forall_mem_cons.mp named
      exact List.forall_mem_cons.mpr ⟨grows.named innermostNamed, outerNamed⟩

theorem Named.entered {state : State} {frame : RunFrame} (named : state.Named)
    (frameNamed : (RunFrame.outline frame).Named) : (state.entered frame).Named := by
  unfold Named at named ⊢
  rw [outlines_eq] at named ⊢
  obtain ⟨_, globalsNamed⟩ := List.forall_mem_append.mp named
  exact List.forall_mem_append.mpr ⟨List.forall_mem_singleton.mpr frameNamed, globalsNamed⟩

end State

theorem RunFrame.empty_named (returns : Option Ty) :
    (RunFrame.outline { Frame.empty with returnType := returns }).Named := by
  intro name target bound
  cases bound

theorem globalsGrow_lasts : LastingLaws State.WiderOutlines State.GlobalsGrow where
  preorder := inferInstance
  lasts := fun _ _ => State.WiderOutlines.globalsGrow
  opens := fun _ => .refl _
  enters := fun _ _ _ _ => .refl _

theorem named_lasts :
    LastingLaws State.WiderOutlines fun before after => before.Named → after.Named where
  preorder := inferInstance
  lasts := fun _ _ => State.WiderOutlines.named
  opens := fun state named =>
    List.forall_mem_cons.mpr ⟨RunFrame.empty_named none, named⟩
  enters := by
    rintro state returnType frame ⟨offset, bindings, bound⟩ named
    exact named.entered ((RunFrame.outline_bindArguments offset bindings bound).named
      (RunFrame.empty_named (some returnType)))

theorem named_of_reaches {source : Source} {fuel : Nat} {sink : Sink} {moment : Moment}
    (reaches : source.Reaches fuel sink moment) : moment.state.Named := by
  induction reaches with
  | refl =>
      exact State.initial_named sink
  | tail _ enters inductionHypothesis =>
      exact named_lasts.entered Eval.outlineLaws enters inductionHypothesis

theorem State.Named.name_eq {state : State} (named : state.Named) {name : String} {cell : Cell}
    (found : state.scope.findVariable? name = some cell) : cell.binding.name = name := by
  obtain ⟨frame, member, foundHere⟩ := List.exists_of_findSome?_eq_some found
  have bound : RunFrame.outline frame name = some cell.binding := by
    unfold RunFrame.outline
    rw [foundHere]
    rfl
  exact named _ (List.mem_map_of_mem member) name cell.binding bound

end ScriptLang
