import ScriptLang.Proofs.CallFrames
import ScriptLang.Proofs.FunctionOrder
import ScriptLang.Proofs.UndecoratedRuns

/-!
Running a program with its functions in another order.

The globals are evaluated first, and meanwhile only the built-in functions are bound.  Then every
function of an accepted program can be bound, in whatever order; from there on, both runs are in
states that answer look-ups alike, and the same bodies are run.
-/

namespace ScriptLang

/-! ### A function is like itself -/

theorem FunctionAlike.refl (function : Function) : FunctionAlike Eq function function := by
  refine ⟨rfl, rfl, ?_⟩
  cases function.body with
  | builtin builtin => exact .builtin builtin
  | declared declaration => exact .declared declaration.alike_refl
  | absent => exact .absent

theorem CellAlike.refl (cell : Cell) : CellAlike cell cell :=
  ⟨rfl, rfl, rfl⟩

theorem State.Alike.refl (state : State) : state.Alike Eq state := by
  have frames (frame : RunFrame) : frame.Alike Eq frame := .refl CellAlike.refl FunctionAlike.refl _
  exact ⟨⟨List.forall₂_same.mpr fun frame _ => frames frame, frames _⟩, rfl⟩

theorem Stop.Alike.refl (stop : Stop) : stop.Alike Eq stop := by
  cases stop with
  | fault fault => exact .fault ⟨rfl, rfl⟩
  | outOfFuel => exact .outOfFuel

/-! ### The functions that are bound while the globals are evaluated -/

theorem Frame.findFunction?_ofFunctions_eq_none_iff {β φ : Type}
    {functions : List ((String × Nat) × φ)} {key : String × Nat} :
    (Frame.ofFunctions functions : Frame β φ).findFunction? key = none ↔
      key ∉ functions.map Prod.fst := by
  unfold findFunction? ofFunctions
  rw [List.lookup_eq_none_iff]
  constructor
  · intro differ member
    obtain ⟨entry, entryMember, rfl⟩ := List.mem_map.mp member
    simpa using differ entry (List.mem_reverse.mpr entryMember)
  · intro absent entry member
    have entryMember : entry.1 ∈ functions.map Prod.fst :=
      List.mem_map_of_mem (List.mem_reverse.mp member)
    exact bne_iff_ne.mpr fun same => absent (same ▸ entryMember)

/-- A run starts with functions of the names and arities that checking starts with. -/
theorem State.findFunction?_builtinFrame_eq_none_iff {key : String × Nat} :
    State.builtinFrame.findFunction? key = none ↔
      Typing.builtinFrame.findFunction? key = none := by
  unfold State.builtinFrame Typing.builtinFrame
  rw [Frame.findFunction?_ofFunctions_eq_none_iff, Frame.findFunction?_ofFunctions_eq_none_iff,
    List.map_map, List.map_map]
  rfl

theorem Typing.functionEntries_of_checkGlobals {list decorated : List GlobalDecl}
    {frame after : StaticFrame}
    (checked : checkEach (fun global => binding (checkGlobal · global)) list frame =
      .ok decorated after) :
    after.functionEntries = frame.functionEntries := by
  induction list generalizing frame decorated with
  | nil =>
      cases checked
      rfl
  | cons first rest inductionHypothesis =>
      rw [checkEach] at checked
      obtain ⟨first', middle, firstChecked, checked⟩ := step_bind_eq_ok.mp checked
      obtain ⟨rest', last, restChecked, checked⟩ := step_bind_eq_ok.mp checked
      cases checked
      obtain ⟨scope, isChecked, rfl⟩ := binding_eq_ok firstChecked
      obtain ⟨⟨value, ty⟩, _, isChecked⟩ := bind_eq_ok.mp isChecked
      obtain ⟨wider, defined, isChecked⟩ := bind_eq_ok.mp isChecked
      cases isChecked
      obtain ⟨_, rfl⟩ := Chain.defineVariable_ofGlobals_eq_ok.mp defined
      exact (inductionHypothesis restChecked :)

def State.KeepsFunctions (before after : State) : Prop :=
  before.scope.locals = [] → after.scope.locals = [] ∧
    after.scope.globals.functionEntries = before.scope.globals.functionEntries

instance : IsPreorder State State.KeepsFunctions where
  refl _ outside := ⟨outside, rfl⟩
  trans _ _ _ first second outside := by
    obtain ⟨outsideNext, same⟩ := first outside
    obtain ⟨outsideLast, sameLast⟩ := second outsideNext
    exact ⟨outsideLast, sameLast.trans same⟩

theorem State.SparesFrames.keepsFunctions {before after : State}
    (spares : before.SparesFrames after) : before.KeepsFunctions after :=
  fun outside => ⟨spares.locals.trans outside,
    congrArg (fun declared => declared.functionEntries) spares.globals⟩

namespace Eval

theorem defineVariable_keepsFunctions (binding : Variable) (value : Value) (offset : Nat) :
    Respects State.KeepsFunctions (defineVariable binding value offset) := by
  apply defineVariable_respects
  intro state _ outside
  obtain ⟨⟨locals, globals⟩, sink⟩ := state
  cases outside
  exact ⟨rfl, rfl⟩

theorem defineGlobals_keepsFunctions (fuel : Nat) (globals : List GlobalDecl) :
    Respects State.KeepsFunctions (defineGlobals fuel globals) := by
  have calls : CallsRespect State.KeepsFunctions (invoke fuel) :=
    fun function arguments offset => (invoke_sparesFrames fuel function arguments offset).imp
      fun _ _ => State.SparesFrames.keepsFunctions
  induction globals with
  | nil =>
      exact .pure _
  | cons first rest inductionHypothesis =>
      rw [defineGlobals]
      have firstKeeps : Respects State.KeepsFunctions (defineGlobal fuel first) :=
        (initialValue_respects calls first.value).bind fun _ =>
          defineVariable_keepsFunctions _ _ _
      exact firstKeeps.bind fun _ => inductionHypothesis

/-! ### Binding the functions -/

theorem functionOf_key {declaration : FunctionDecl} (fits : declaration.Fits) :
    (functionOf declaration).signature.key = declaration.key :=
  Prod.ext (functionOf_name declaration) (functionOf_arity fits)

def bindings (declarations : List FunctionDecl) : List ((String × Nat) × Function) :=
  declarations.map fun declaration => (declaration.key, functionOf declaration)

theorem keys_bindings (declarations : List FunctionDecl) :
    (bindings declarations).map Prod.fst = declarations.map FunctionDecl.key :=
  List.map_map

theorem defineFunction_ofGlobals {function : Function} {frame : RunFrame}
    (free : frame.findFunction? function.signature.key = none) (offset : Nat) (sink : Sink) :
    defineFunction function offset ⟨.ofGlobals frame, sink⟩ =
      .ok () ⟨.ofGlobals (frame.addFunction function.signature.key function), sink⟩ := by
  have defined : (Chain.ofGlobals frame).defineFunction function.signature.key function offset =
      .ok _ := Chain.defineFunction_ofGlobals_eq_ok.mpr ⟨free, rfl⟩
  unfold defineFunction
  refine step_bind_eq_ok.mpr ⟨_, _, rfl, ?_⟩
  dsimp only
  rw [defined]
  rfl

theorem defineFunctions_of_admits {declarations : List FunctionDecl} {frame : RunFrame}
    {sink : Sink} (fit : ∀ declaration ∈ declarations, declaration.Fits)
    (admits : frame.Admits (declarations.map FunctionDecl.key)) :
    defineFunctions declarations ⟨.ofGlobals frame, sink⟩ =
      .ok () ⟨.ofGlobals (frame.addFunctions (bindings declarations)), sink⟩ := by
  induction declarations generalizing frame with
  | nil =>
      rfl
  | cons first rest inductionHypothesis =>
      obtain ⟨firstFits, restFit⟩ := List.forall_mem_cons.mp fit
      rw [List.map_cons, Frame.admits_cons_iff (functionOf first)] at admits
      obtain ⟨free, restAdmits⟩ := admits
      rw [← functionOf_key firstFits] at free
      have firstEnded := defineFunction_ofGlobals free first.span.start sink
      rw [functionOf_key firstFits] at firstEnded
      rw [defineFunctions, step_bind_of_ok firstEnded]
      exact inductionHypothesis restFit restAdmits

theorem addFunctions_alike {declarations declarations' : List FunctionDecl}
    (perm : declarations.Perm declarations') {frame : RunFrame}
    (admits : frame.Admits (declarations.map FunctionDecl.key)) :
    RunFrame.Alike Eq (frame.addFunctions (bindings declarations))
      (frame.addFunctions (bindings declarations')) := by
  have distinct : ((bindings declarations).map Prod.fst).Nodup := by
    rw [keys_bindings]
    exact admits.distinct
  refine (Frame.Related.addFunctions_perm (perm.map _) distinct frame).imp ?_ ?_
  · rintro cell _ rfl
    exact .refl cell
  · rintro function _ rfl
    exact .refl function

end Eval

/-! ### Programs in another order -/

variable {source reordered : Source} {fuel : Nat} {sink : Sink}

theorem Eval.load_reordered (reorders : source.Reorders reordered)
    (fit : ∀ function ∈ source.functions, function.Fits)
    (admits : State.builtinFrame.Admits (source.functions.map FunctionDecl.key)) :
    EndsAlike Eq (FunctionAlike Eq) (load fuel source (.initial sink))
      (load fuel reordered (.initial sink)) := by
  unfold load
  rw [reorders.globals, reorders.span]
  have keeps := defineGlobals_keepsFunctions fuel source.globals (.initial sink)
  unfold Leads at keeps
  cases ended : defineGlobals fuel source.globals (.initial sink) with
  | error stop after =>
      rw [step_bind_of_error ended, step_bind_of_error ended]
      exact .error (.refl stop) (.refl after)
  | ok value after =>
      rw [ended] at keeps
      rw [step_bind_of_ok ended, step_bind_of_ok ended]
      obtain ⟨outside, sameEntries⟩ := keeps rfl
      obtain ⟨⟨locals, globals⟩, sink'⟩ := after
      cases outside
      have admitsNow : globals.Admits (source.functions.map FunctionDecl.key) := by
        refine admits.of_fresh fun key free => ?_
        unfold Frame.findFunction?
        rw [sameEntries]
        exact free
      have fit' : ∀ function ∈ reordered.functions, function.Fits :=
        fun function member => fit function (reorders.functions.mem_iff.mpr member)
      have ends : EndsAlike Eq Eq
          (defineFunctions source.functions ⟨.ofGlobals globals, sink'⟩)
          (defineFunctions reordered.functions ⟨.ofGlobals globals, sink'⟩) := by
        rw [defineFunctions_of_admits fit admitsNow,
          defineFunctions_of_admits fit' (admitsNow.perm (reorders.functions.map _))]
        exact .ok rfl ⟨.ofGlobals (addFunctions_alike reorders.functions admitsNow), rfl⟩
      exact ends.bind fun _ _ _ => findMain_alike rfl

theorem Source.run_reordered (reorders : source.Reorders reordered)
    (fit : ∀ function ∈ source.functions, function.Fits)
    (admits : State.builtinFrame.Admits (source.functions.map FunctionDecl.key)) :
    source.run fuel sink = reordered.run fuel sink := by
  apply Outcome.Alike.eq
  apply Source.run_alike_of_ends
  unfold Eval.program
  rw [reorders.span]
  apply (Eval.load_reordered reorders fit admits).bind
  intro main main' functions
  exact Eval.invoke_alike fuel main main' [] _ _ functions rfl

theorem Source.admits_of_check {checked : Source} (accepted : source.check = .ok checked) :
    State.builtinFrame.Admits (checked.functions.map FunctionDecl.key) := by
  obtain ⟨globals, early, accepts, rfl⟩ := Source.check_eq_ok.mp accepted
  have sameKeys : FunctionDecl.key ∘ Typing.decorated (Typing.bodyFrame early source.functions) =
      FunctionDecl.key := funext (Typing.key_decorated _)
  rw [List.map_map, sameKeys]
  refine accepts.admits.of_fresh fun key free => ?_
  unfold Frame.findFunction? at free
  rw [Typing.functionEntries_of_checkGlobals accepts.globals] at free
  exact State.findFunction?_builtinFrame_eq_none_iff.mpr free

/-- The order of functions does not matter.  In another order a program is accepted if it was, and
only then; each declaration gets the decorations that it had, and every run ends as it did, with
the same output. -/
theorem Source.check_run_reordered (source reordered : Source)
    (reorders : source.Reorders reordered) :
    ((∃ checked, source.check = .ok checked) ↔ ∃ checked, reordered.check = .ok checked) ∧
      ∀ checked checked', source.check = .ok checked → reordered.check = .ok checked' →
        checked.Reorders checked' ∧
        (∃ decorate : FunctionDecl → FunctionDecl,
          checked.functions = source.functions.map decorate ∧
          checked'.functions = reordered.functions.map decorate) ∧
        ∀ fuel sink, checked.run fuel sink = checked'.run fuel sink := by
  constructor
  · constructor
    · rintro ⟨checked, accepted⟩
      obtain ⟨decorate, _, acceptedToo⟩ := Source.check_reordered reorders accepted
      exact ⟨_, acceptedToo⟩
    · rintro ⟨checked, accepted⟩
      obtain ⟨decorate, _, acceptedToo⟩ := Source.check_reordered reorders.symm accepted
      exact ⟨_, acceptedToo⟩
  · intro checked checked' accepted accepted'
    obtain ⟨decorate, decorations, acceptedToo⟩ := Source.check_reordered reorders accepted
    rw [accepted'] at acceptedToo
    cases acceptedToo
    have checkedReorders : checked.Reorders
        { checked with functions := reordered.functions.map decorate } := by
      refine ⟨rfl, ?_, rfl⟩
      rw [decorations]
      exact reorders.functions.map decorate
    refine ⟨checkedReorders, ⟨decorate, decorations, rfl⟩, ?_⟩
    intro fuel sink
    exact Source.run_reordered checkedReorders (Source.fit_of_check accepted)
      (Source.admits_of_check accepted)

def evenOddText : String :=
  "FUN even(n: Integer): Boolean DO IF n == 0 DO RETURN TRUE; END RETURN odd(n - 1); END "
    ++ "FUN odd(n: Integer): Boolean DO IF n == 0 DO RETURN FALSE; END RETURN even(n - 1); END "
    ++ "FUN odd(): Boolean DO RETURN odd(3); END "
    ++ "FUN main(): Integer DO print(odd()); print(even(3)); RETURN 4; END"

/-- The functions may stand the other way round, although both orders call what comes later. -/
theorem Source.check_run_reordered_evenOdd :
    ∃ source reordered checked checked' value,
      Source.parse evenOddText = .ok source ∧ source.Reorders reordered ∧
        reordered.functions.map FunctionDecl.key =
          [("main", 0), ("odd", 0), ("odd", 1), ("even", 1)] ∧
        source.check = .ok checked ∧ reordered.check = .ok checked' ∧
        (checked.run 9 .unlimited).result = .ok value ∧ value.display = "4" ∧
        (checked.run 9 .unlimited).sink.text = "true\nfalse\n" ∧
        checked.run 9 .unlimited = checked'.run 9 .unlimited := by
  have computed : ((Source.parse evenOddText).toOption.bind fun source =>
      source.check.toOption.bind fun checked =>
        (checked.run 9 .unlimited).result.toOption.map fun value =>
          (source.functions.reverse.map FunctionDecl.key, value.display,
            (checked.run 9 .unlimited).sink.text)) =
      some ([("main", 0), ("odd", 0), ("odd", 1), ("even", 1)], "4", "true\nfalse\n") := by
    decide +kernel
  obtain ⟨source, parsed, computed⟩ := Option.bind_eq_some_iff.mp computed
  obtain ⟨checked, accepted, computed⟩ := Option.bind_eq_some_iff.mp computed
  obtain ⟨value, returned, seen⟩ := Option.map_eq_some_iff.mp computed
  obtain ⟨keys, seen⟩ := Prod.mk.inj seen
  obtain ⟨shown, printed⟩ := Prod.mk.inj seen
  have accepted := eq_ok_of_toOption accepted
  have reorders : source.Reorders { source with functions := source.functions.reverse } :=
    ⟨rfl, (List.reverse_perm source.functions).symm, rfl⟩
  obtain ⟨alsoAccepted, sameRuns⟩ := Source.check_run_reordered source _ reorders
  obtain ⟨checked', accepted'⟩ := alsoAccepted.mp ⟨checked, accepted⟩
  obtain ⟨_, _, sameRun⟩ := sameRuns checked checked' accepted accepted'
  exact ⟨source, _, checked, checked', value, eq_ok_of_toOption parsed, reorders, keys, accepted,
    accepted', eq_ok_of_toOption returned, shown, printed, sameRun 9 .unlimited⟩

end ScriptLang
