import ScriptLang.Proofs.Checked
import ScriptLang.Proofs.RelocatedChecks

/-!
The order of functions.

Functions are bound before any body is checked or run, each under its name and number of
parameters.  That they can be bound says that no two of them share these, and that nothing else has
them; whoever looks one up then finds the same one, whatever order they were bound in.
-/

namespace ScriptLang

variable {β φ : Type}

/-! ### Many functions at once -/

namespace Frame

def addFunctions (frame : Frame β φ) : List ((String × Nat) × φ) → Frame β φ
  | [] => frame
  | (key, entry) :: rest => (frame.addFunction key entry).addFunctions rest

/-- Functions of these names and arities can be bound: they differ, and none of them is bound. -/
structure Admits (frame : Frame β φ) (keys : List (String × Nat)) : Prop where
  distinct : keys.Nodup
  fresh : ∀ key ∈ keys, frame.findFunction? key = none

variable {frame : Frame β φ} {key : String × Nat} {keys keys' : List (String × Nat)}

theorem admits_nil : frame.Admits [] :=
  ⟨List.nodup_nil, List.forall_mem_nil _⟩

theorem admits_cons_iff (entry : φ) :
    frame.Admits (key :: keys) ↔
      frame.findFunction? key = none ∧ (frame.addFunction key entry).Admits keys := by
  constructor
  · rintro ⟨distinct, fresh⟩
    obtain ⟨absent, restDistinct⟩ := List.nodup_cons.mp distinct
    obtain ⟨keyFresh, restFresh⟩ := List.forall_mem_cons.mp fresh
    refine ⟨keyFresh, restDistinct, ?_⟩
    intro other member
    have different : other ≠ key := fun same => absent (same ▸ member)
    rw [findFunction?_addFunction, if_neg different]
    exact restFresh other member
  · rintro ⟨keyFresh, distinct, fresh⟩
    have absent : key ∉ keys := by
      intro member
      have bound := fresh key member
      rw [findFunction?_addFunction, if_pos rfl] at bound
      cases bound
    refine ⟨List.nodup_cons.mpr ⟨absent, distinct⟩, List.forall_mem_cons.mpr ⟨keyFresh, ?_⟩⟩
    intro other member
    have different : other ≠ key := fun same => absent (same ▸ member)
    have free := fresh other member
    rw [findFunction?_addFunction, if_neg different] at free
    exact free

theorem Admits.perm (admits : frame.Admits keys) (perm : keys.Perm keys') : frame.Admits keys' :=
  ⟨perm.nodup_iff.mp admits.distinct, fun key member => admits.fresh key (perm.mem_iff.mpr member)⟩

theorem Admits.of_fresh {γ ψ : Type} {other : Frame γ ψ} (admits : frame.Admits keys)
    (alsoFresh : ∀ key, frame.findFunction? key = none → other.findFunction? key = none) :
    other.Admits keys :=
  ⟨admits.distinct, fun key member => alsoFresh key (admits.fresh key member)⟩

theorem findVariable?_addFunctions (frame : Frame β φ) (entries : List ((String × Nat) × φ))
    (name : String) :
    (frame.addFunctions entries).findVariable? name = frame.findVariable? name := by
  induction entries generalizing frame with
  | nil => rfl
  | cons first rest inductionHypothesis => exact inductionHypothesis _

theorem findFunction?_addFunctions_congr {first second : Frame β φ}
    (same : ∀ key, first.findFunction? key = second.findFunction? key)
    (entries : List ((String × Nat) × φ)) (key : String × Nat) :
    (first.addFunctions entries).findFunction? key =
      (second.addFunctions entries).findFunction? key := by
  induction entries generalizing first second with
  | nil =>
      exact same key
  | cons entry rest inductionHypothesis =>
      apply inductionHypothesis
      intro other
      rw [findFunction?_addFunction, findFunction?_addFunction, same]

/-- In whatever order functions are bound, the same ones are found. -/
theorem findFunction?_addFunctions_perm {entries entries' : List ((String × Nat) × φ)}
    (perm : entries.Perm entries') (distinct : (entries.map Prod.fst).Nodup)
    (frame : Frame β φ) (key : String × Nat) :
    (frame.addFunctions entries).findFunction? key =
      (frame.addFunctions entries').findFunction? key := by
  induction perm generalizing frame with
  | nil =>
      rfl
  | cons entry _ inductionHypothesis =>
      exact inductionHypothesis (List.nodup_cons.mp distinct).2 _
  | swap first second rest =>
      obtain ⟨firstKey, firstEntry⟩ := first
      obtain ⟨secondKey, secondEntry⟩ := second
      have different : firstKey ≠ secondKey := by
        rintro rfl
        exact (List.nodup_cons.mp distinct).1 List.mem_cons_self
      rw [addFunctions, addFunctions, addFunctions, addFunctions]
      apply findFunction?_addFunctions_congr
      intro other
      rw [findFunction?_addFunction, findFunction?_addFunction, findFunction?_addFunction,
        findFunction?_addFunction]
      by_cases isFirst : other = firstKey
      · subst isFirst
        rw [if_pos rfl, if_neg different, if_pos rfl]
      · rw [if_neg isFirst, if_neg isFirst]
  | trans first _ hypothesis hypothesis' =>
      exact (hypothesis distinct frame).trans
        (hypothesis' ((first.map Prod.fst).nodup_iff.mp distinct) frame)

theorem Related.addFunctions_perm {entries entries' : List ((String × Nat) × φ)}
    (perm : entries.Perm entries') (distinct : (entries.map Prod.fst).Nodup)
    (frame : Frame β φ) :
    Frame.Related Eq Eq (frame.addFunctions entries) (frame.addFunctions entries') := by
  constructor
  · intro name
    rw [findVariable?_addFunctions, findVariable?_addFunctions]
    exact rel_of_refl (fun _ => rfl) _
  · intro key
    rw [findFunction?_addFunctions_perm perm distinct]
    exact rel_of_refl (fun _ => rfl) _

end Frame

/-! ### Declaring functions -/

def FunctionDecl.key (function : FunctionDecl) : String × Nat :=
  (function.name, function.arity)

namespace Typing

/-- The signature that a declaration writes down. -/
def signatureOf (function : FunctionDecl) : Except Fault Signature := do
  let offset := function.span.start
  let parameterTypes ← resolveAll offset (function.parameters.map Parameter.typeName)
  let returnType ← resolveReturn function.returnTypeName offset
  return Signature.plain function.name parameterTypes returnType

/-- The function that a declaration is bound to, if the types that it names are known. -/
def announced (function : FunctionDecl) : Callee :=
  { signature := (signatureOf function).toOption.getD default, kind := .signature }

def withAnnounced (function : FunctionDecl) : FunctionDecl :=
  { function with callee := some (announced function) }

variable {function declared : FunctionDecl} {frame after : StaticFrame}

theorem signatureOf_key {signature : Signature} (resolved : signatureOf function = .ok signature) :
    signature.key = function.key := by
  obtain ⟨types, typesResolved, resolved⟩ := bind_eq_ok.mp resolved
  obtain ⟨returns, _, resolved⟩ := bind_eq_ok.mp resolved
  cases resolved
  have sameLength := (resolveAll_length typesResolved).trans (List.length_map _)
  exact Prod.ext rfl sameLength

theorem announced_of_resolved {signature : Signature}
    (resolved : signatureOf function = .ok signature) :
    announced function = ⟨signature, .signature⟩ := by
  unfold announced
  rw [resolved]
  rfl

theorem declareFunction_eq (scope : StaticScope) (function : FunctionDecl) :
    declareFunction scope function = (do
      let signature ← signatureOf function
      let callee : Callee := { signature := signature, kind := .signature }
      let scope ← scope.defineFunction signature.key callee function.span.start
      return ({ function with callee := some callee }, scope)) := by
  unfold declareFunction signatureOf
  dsimp only
  cases resolveAll function.span.start (function.parameters.map Parameter.typeName) with
  | error fault => rfl
  | ok types =>
      cases resolveReturn function.returnTypeName function.span.start with
      | error fault => rfl
      | ok returns => rfl

/-- A function is declared when its types are known and its name and arity are free. -/
theorem binding_declareFunction_eq_ok :
    binding (declareFunction · function) frame = .ok declared after ↔
      (∃ signature, signatureOf function = .ok signature) ∧
        frame.findFunction? function.key = none ∧ declared = withAnnounced function ∧
          after = frame.addFunction function.key (announced function) := by
  constructor
  · intro ended
    obtain ⟨scope, isDeclared, rfl⟩ := binding_eq_ok ended
    rw [declareFunction_eq] at isDeclared
    obtain ⟨signature, resolved, isDeclared⟩ := bind_eq_ok.mp isDeclared
    obtain ⟨wider, defined, isDeclared⟩ := bind_eq_ok.mp isDeclared
    cases isDeclared
    rw [signatureOf_key resolved] at defined
    obtain ⟨free, rfl⟩ := Chain.defineFunction_ofGlobals_eq_ok.mp defined
    unfold withAnnounced
    rw [announced_of_resolved resolved]
    exact ⟨⟨signature, resolved⟩, free, rfl, rfl⟩
  · rintro ⟨⟨signature, resolved⟩, free, rfl, rfl⟩
    unfold withAnnounced
    rw [announced_of_resolved resolved]
    have defined : (Chain.ofGlobals frame).defineFunction signature.key ⟨signature, .signature⟩
        function.span.start = .ok _ :=
      Chain.defineFunction_ofGlobals_eq_ok.mpr ⟨signatureOf_key resolved ▸ free, rfl⟩
    rw [signatureOf_key resolved] at defined
    have isDeclared : declareFunction (.ofGlobals frame) function =
        .ok ({ function with callee := some ⟨signature, .signature⟩ },
          .ofGlobals (frame.addFunction function.key ⟨signature, .signature⟩)) := by
      rw [declareFunction_eq, resolved]
      change ((Chain.ofGlobals frame).defineFunction signature.key _ _ >>= _) = _
      rw [signatureOf_key resolved, defined]
      rfl
    exact binding_of_ok (declareFunction · function) isDeclared

theorem declareEach_eq_ok {functions announcements : List FunctionDecl} :
    checkEach (fun function => binding (declareFunction · function)) functions frame =
        .ok announcements after ↔
      (∀ function ∈ functions, ∃ signature, signatureOf function = .ok signature) ∧
        frame.Admits (functions.map FunctionDecl.key) ∧
          announcements = functions.map withAnnounced ∧
            after = frame.addFunctions
              (functions.map fun function => (function.key, announced function)) := by
  induction functions generalizing frame announcements with
  | nil =>
      constructor
      · intro ended
        cases ended
        exact ⟨List.forall_mem_nil _, Frame.admits_nil, rfl, rfl⟩
      · rintro ⟨_, _, rfl, rfl⟩
        rfl
  | cons first rest inductionHypothesis =>
      rw [checkEach, List.forall_mem_cons, List.map_cons, List.map_cons, List.map_cons,
        Frame.admits_cons_iff (announced first), Frame.addFunctions]
      constructor
      · intro ended
        obtain ⟨first', middle, firstDeclared, ended⟩ := step_bind_eq_ok.mp ended
        obtain ⟨rest', last, restDeclared, ended⟩ := step_bind_eq_ok.mp ended
        cases ended
        obtain ⟨known, free, rfl, rfl⟩ := binding_declareFunction_eq_ok.mp firstDeclared
        obtain ⟨restKnown, admits, rfl, rfl⟩ := inductionHypothesis.mp restDeclared
        exact ⟨⟨known, restKnown⟩, ⟨free, admits⟩, rfl, rfl⟩
      · rintro ⟨⟨known, restKnown⟩, ⟨free, admits⟩, rfl, rfl⟩
        have firstDeclared := binding_declareFunction_eq_ok.mpr ⟨known, free, rfl, rfl⟩
        have restDeclared := inductionHypothesis.mpr ⟨restKnown, admits, rfl, rfl⟩
        exact step_bind_eq_ok.mpr ⟨_, _, firstDeclared,
          step_bind_eq_ok.mpr ⟨_, _, restDeclared, rfl⟩⟩

/-! ### Checking bodies -/

theorem checkFunction_congr {scope scope' : StaticScope}
    (scopes : Chain.Related Eq Eq scope scope') (function : FunctionDecl) :
    checkFunction scope function = checkFunction scope' function := by
  have checks : RelocatedAs id _ _ (checkFunction scope' (function.relocated id)) :=
    checkFunction_relocated scopes function
  rw [function.relocated_id] at checks
  generalize checkFunction scope function = result at checks ⊢
  generalize checkFunction scope' function = result' at checks ⊢
  cases checks with
  | ok same => rw [same, FunctionDecl.relocated_id]
  | error faults => rw [FaultsAlike.relocates_iff.mp faults]; rfl

/-- The frame of the globals that bodies are checked in. -/
def bodyFrame (early : StaticFrame) (functions : List FunctionDecl) : StaticFrame :=
  early.addFunctions (functions.map fun function => (function.key, announced function))

/-- What checking makes of a declaration, if it accepts the body. -/
def decorated (frame : StaticFrame) (function : FunctionDecl) : FunctionDecl :=
  (checkFunction (.ofGlobals frame) (withAnnounced function)).toOption.getD function

theorem key_decorated (frame : StaticFrame) (function : FunctionDecl) :
    (decorated frame function).key = function.key := by
  unfold decorated
  cases isChecked : checkFunction (.ofGlobals frame) (withAnnounced function) with
  | error fault =>
      rfl
  | ok checked =>
      obtain ⟨callee, _, isChecked⟩ := bind_eq_ok.mp isChecked
      obtain ⟨inner, _, isChecked⟩ := bind_eq_ok.mp isChecked
      obtain ⟨body, _, isChecked⟩ := bind_eq_ok.mp isChecked
      cases isChecked
      rfl

theorem checkEach_checkFunction_eq_ok {functions decorations : List FunctionDecl} :
    checkEach (fun function => reading (checkFunction · function)) (functions.map withAnnounced)
        frame = .ok decorations after ↔
      (∀ function ∈ functions, ∃ checked,
        checkFunction (.ofGlobals frame) (withAnnounced function) = .ok checked) ∧
          decorations = functions.map (decorated frame) ∧ after = frame := by
  induction functions generalizing decorations with
  | nil =>
      constructor
      · intro ended
        cases ended
        exact ⟨List.forall_mem_nil _, rfl, rfl⟩
      · rintro ⟨_, rfl, rfl⟩
        rfl
  | cons first rest inductionHypothesis =>
      rw [List.map_cons, List.map_cons, checkEach, List.forall_mem_cons]
      constructor
      · intro ended
        obtain ⟨first', middle, firstEnded, ended⟩ := step_bind_eq_ok.mp ended
        obtain ⟨rest', last, restEnded, ended⟩ := step_bind_eq_ok.mp ended
        cases ended
        obtain ⟨firstChecked, rfl⟩ := reading_eq_ok firstEnded
        obtain ⟨restChecked, rfl, rfl⟩ := inductionHypothesis.mp restEnded
        refine ⟨⟨⟨first', firstChecked⟩, restChecked⟩, ?_, rfl⟩
        unfold decorated
        rw [firstChecked]
        rfl
      · rintro ⟨⟨⟨first', firstChecked⟩, restChecked⟩, rfl, rfl⟩
        have firstEnded := reading_of_ok (checkFunction · (withAnnounced first)) firstChecked
        have restEnded := inductionHypothesis.mpr ⟨restChecked, rfl, rfl⟩
        have first_eq : decorated after first = first' := by
          unfold decorated
          rw [firstChecked]
          rfl
        rw [first_eq]
        exact step_bind_eq_ok.mpr ⟨_, _, firstEnded, step_bind_eq_ok.mpr ⟨_, _, restEnded, rfl⟩⟩

/-- What a program is that checking accepts: all its types are known, no function clashes with
another one, every body is well typed, and there is a function `main`. -/
structure Accepts (source : Source) (globals : List GlobalDecl) (early : StaticFrame) : Prop where
  globals : checkEach (fun global => binding (checkGlobal · global)) source.globals builtinFrame =
    .ok globals early
  known : ∀ function ∈ source.functions, ∃ signature, signatureOf function = .ok signature
  admits : early.Admits (source.functions.map FunctionDecl.key)
  bodies : ∀ function ∈ source.functions, ∃ checked,
    checkFunction (.ofGlobals (bodyFrame early source.functions)) (withAnnounced function) =
      .ok checked
  main : requireMain (.ofGlobals (bodyFrame early source.functions)) source.span.stop = .ok ()

end Typing

open Typing

theorem Source.check_eq_ok {source checked : Source} :
    source.check = .ok checked ↔
      ∃ globals early, Accepts source globals early ∧
        checked =
          { globals := globals
            functions := source.functions.map (decorated (bodyFrame early source.functions))
            span := source.span } := by
  have unfolded : source.check = .ok checked ↔
      ∃ last, checkSource source builtinFrame = .ok checked last := by
    unfold Source.check
    cases checkSource source builtinFrame with
    | ok found last => simp
    | error fault last => simp
  rw [unfolded]
  constructor
  · rintro ⟨last, ended⟩
    obtain ⟨globals, early, globalsEnded, ended⟩ := step_bind_eq_ok.mp ended
    obtain ⟨declared, middle, declaredEnded, ended⟩ := step_bind_eq_ok.mp ended
    obtain ⟨known, admits, rfl, rfl⟩ := declareEach_eq_ok.mp declaredEnded
    obtain ⟨functions, behind, functionsEnded, ended⟩ := step_bind_eq_ok.mp ended
    obtain ⟨bodies, rfl, rfl⟩ := checkEach_checkFunction_eq_ok.mp functionsEnded
    obtain ⟨_, _, mainEnded, ended⟩ := step_bind_eq_ok.mp ended
    cases ended
    exact ⟨globals, early, ⟨globalsEnded, known, admits, bodies, (reading_eq_ok mainEnded).1⟩, rfl⟩
  · rintro ⟨globals, early, accepts, rfl⟩
    have declaredEnded := declareEach_eq_ok.mpr ⟨accepts.known, accepts.admits, rfl, rfl⟩
    have functionsEnded := checkEach_checkFunction_eq_ok.mpr ⟨accepts.bodies, rfl, rfl⟩
    have mainEnded := reading_of_ok (requireMain · source.span.stop) accepts.main
    refine ⟨bodyFrame early source.functions, ?_⟩
    refine step_bind_eq_ok.mpr ⟨_, _, accepts.globals, ?_⟩
    refine step_bind_eq_ok.mpr ⟨_, _, declaredEnded, ?_⟩
    refine step_bind_eq_ok.mpr ⟨_, _, functionsEnded, ?_⟩
    exact step_bind_eq_ok.mpr ⟨_, _, mainEnded, rfl⟩

/-! ### Checking in another order -/

/-- Programs that differ in the order of their functions alone. -/
structure Source.Reorders (source reordered : Source) : Prop where
  globals : reordered.globals = source.globals
  functions : source.functions.Perm reordered.functions
  span : reordered.span = source.span

theorem Source.Reorders.symm {source reordered : Source} (reorders : source.Reorders reordered) :
    reordered.Reorders source :=
  ⟨reorders.globals.symm, reorders.functions.symm, reorders.span.symm⟩

namespace Typing

variable {source reordered : Source} {globals : List GlobalDecl} {early : StaticFrame}

theorem decorated_congr {frame frame' : StaticFrame} (related : Frame.Related Eq Eq frame frame') :
    decorated frame = decorated frame' := by
  funext function
  unfold decorated
  rw [checkFunction_congr (.ofGlobals related)]

theorem Accepts.bodyFrame_related (accepts : Accepts source globals early)
    (reorders : source.Reorders reordered) :
    Frame.Related Eq Eq (bodyFrame early source.functions)
      (bodyFrame early reordered.functions) := by
  apply Frame.Related.addFunctions_perm (reorders.functions.map _)
  rw [List.map_map]
  exact accepts.admits.distinct

theorem Accepts.reorders (accepts : Accepts source globals early)
    (reorders : source.Reorders reordered) : Accepts reordered globals early := by
  have related := accepts.bodyFrame_related reorders
  refine ⟨?_, ?_, accepts.admits.perm (reorders.functions.map _), ?_, ?_⟩
  · rw [reorders.globals]
    exact accepts.globals
  · intro function member
    exact accepts.known function (reorders.functions.mem_iff.mpr member)
  · intro function member
    obtain ⟨checked, isChecked⟩ := accepts.bodies function (reorders.functions.mem_iff.mpr member)
    rw [checkFunction_congr (.ofGlobals related)] at isChecked
    exact ⟨checked, isChecked⟩
  · have mains := requireMain_alike (.ofGlobals related) (Eq.refl source.span.stop)
    rw [accepts.main] at mains
    rw [reorders.span]
    generalize requireMain _ _ = result at mains ⊢
    cases mains with
    | ok _ => rfl

end Typing

/-- A program is accepted in any order of its functions, with the same decorations on each. -/
theorem Source.check_reordered {source reordered checked : Source}
    (reorders : source.Reorders reordered) (accepted : source.check = .ok checked) :
    ∃ decorate : FunctionDecl → FunctionDecl, checked.functions = source.functions.map decorate ∧
      reordered.check = .ok { checked with functions := reordered.functions.map decorate } := by
  obtain ⟨globals, early, accepts, rfl⟩ := Source.check_eq_ok.mp accepted
  refine ⟨decorated (bodyFrame early source.functions), rfl, ?_⟩
  refine Source.check_eq_ok.mpr ⟨globals, early, accepts.reorders reorders, ?_⟩
  rw [decorated_congr (accepts.bodyFrame_related reorders), reorders.span]

end ScriptLang
