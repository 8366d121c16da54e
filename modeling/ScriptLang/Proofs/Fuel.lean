import ScriptLang.Evaluation.Source
import ScriptLang.Proofs.Step

/-!
More fuel.

Fuel bounds how deep calls nest and how often loops go round, and decides nothing else.  What is
evaluated with some fuel therefore ends as it does with more of it, unless the fuel runs out.  So a
run that does not run out of fuel is the run of the program, whatever fuel it was given.
-/

namespace ScriptLang
namespace Eval

variable {α β : Type}

/-- Where the first step does not run out of fuel, the second one does the same. -/
def Persists (step longer : Eval α) : Prop :=
  ∀ state, (∃ after, step state = .error .outOfFuel after) ∨ longer state = step state

def CallsPersist (call longer : Invocation) : Prop :=
  ∀ function arguments offset,
    Persists (call function arguments offset) (longer function arguments offset)

namespace Persists

variable {step longer : Eval α}

theorem refl (step : Eval α) : Persists step step :=
  fun _ => .inr rfl

theorem outOfFuel (longer : Eval α) : Persists (throw .outOfFuel) longer :=
  fun state => .inl ⟨state, rfl⟩

theorem bind {next nextLonger : α → Eval β} (first : Persists step longer)
    (second : ∀ value, Persists (next value) (nextLonger value)) :
    Persists (step >>= next) (longer >>= nextLonger) := by
  intro state
  obtain ⟨after, ranOut⟩ | same := first state
  · exact .inl ⟨after, step_bind_of_error ranOut⟩
  cases ended : step state with
  | error stop after =>
      rw [ended] at same
      exact .inr ((step_bind_of_error same).trans (step_bind_of_error ended).symm)
  | ok value middle =>
      rw [ended] at same
      rw [step_bind_of_ok same, step_bind_of_ok ended]
      exact second value middle

theorem inBlock (persists : Persists step longer) :
    Persists (Eval.inBlock step) (Eval.inBlock longer) := by
  intro state
  unfold Eval.inBlock
  obtain ⟨after, ranOut⟩ | same := persists { state with scope := state.scope.child }
  · rw [ranOut]
    exact .inl ⟨_, rfl⟩
  · rw [same]
    exact .inr rfl

theorem inCall (frame : RunFrame) (persists : Persists step longer) :
    Persists (Eval.inCall frame step) (Eval.inCall frame longer) := by
  intro state
  unfold Eval.inCall
  obtain ⟨after, ranOut⟩ | same :=
    persists { state with scope := { state.scope with locals := [frame] } }
  · rw [ranOut]
    exact .inl ⟨_, rfl⟩
  · rw [same]
    exact .inr rfl

end Persists

/-! ### Expressions -/

section Expressions

variable {call longer : Invocation}

mutual

theorem expr_persists (calls : CallsPersist call longer) (e : Expr) :
    Persists (expr call e) (expr longer e) := by
  cases e with
  | literal value span ty =>
      rw [expr, expr]
      exact .refl _
  | group inner span ty =>
      rw [expr, expr]
      exact expr_persists calls inner
  | binary op left right span ty =>
      rw [expr, expr]
      refine (expr_persists calls left).bind fun leftValue => ?_
      split
      · unfold logical
        refine (Persists.refl _).bind fun truth => ?_
        split
        · exact .refl _
        · exact (expr_persists calls right).bind fun _ => .refl _
      · exact (expr_persists calls right).bind fun _ => .refl _
  | access name span ty target =>
      rw [expr, expr]
      exact .refl _
  | element name index span ty target =>
      rw [expr, expr]
      refine (Persists.refl _).bind fun _ => ?_
      exact (expr_persists calls index).bind fun _ => .refl _
  | call name arguments span ty callee =>
      rw [expr, expr]
      refine (exprs_persists calls arguments).bind fun values => ?_
      refine (Persists.refl _).bind fun function => ?_
      exact calls function values span.start
  | list elements span ty =>
      rw [expr, expr]
      exact (exprs_persists calls elements).bind fun _ => .refl _

theorem exprs_persists (calls : CallsPersist call longer) (es : List Expr) :
    Persists (exprs call es) (exprs longer es) := by
  cases es with
  | nil =>
      rw [exprs, exprs]
      exact .refl _
  | cons first rest =>
      rw [exprs, exprs]
      refine (expr_persists calls first).bind fun value => ?_
      exact (exprs_persists calls rest).bind fun _ => .refl _

end

theorem index_persists (calls : CallsPersist call longer) (e : Expr) :
    Persists (index call e) (index longer e) :=
  (expr_persists calls e).bind fun _ => .refl _

theorem condition_persists (calls : CallsPersist call longer) (e : Expr) :
    Persists (condition call e) (condition longer e) :=
  (expr_persists calls e).bind fun _ => .refl _

theorem initialValue_persists (calls : CallsPersist call longer) (value : Option Expr) :
    Persists (initialValue call value) (initialValue longer value) := by
  cases value with
  | none => exact .refl _
  | some value => exact expr_persists calls value

theorem matchesCase_persists (calls : CallsPersist call longer) (subject : Value)
    (value : Option Expr) :
    Persists (matchesCase call subject value) (matchesCase longer subject value) := by
  cases value with
  | none => exact .refl _
  | some value => exact (expr_persists calls value).bind fun _ => .refl _

theorem assign_persists (calls : CallsPersist call longer) (receiver value : Expr)
    (offset : Nat) :
    Persists (assign call receiver value offset) (assign longer receiver value offset) := by
  unfold assign
  split
  · refine (Persists.refl _).bind fun _ => ?_
    exact (expr_persists calls value).bind fun _ => .refl _
  · refine (Persists.refl _).bind fun _ => ?_
    refine (index_persists calls _).bind fun position => ?_
    exact (expr_persists calls value).bind fun _ => .refl _
  · exact .refl _

end Expressions

/-! ### Statements -/

section Statements

variable {call longer : Invocation} {fuel more : Nat}

theorem rounds_persists {test testLonger : Eval Bool} {body bodyLonger : Eval Flow}
    (enough : fuel ≤ more) (tests : Persists test testLonger)
    (bodies : Persists body bodyLonger) :
    Persists (rounds fuel test body) (rounds more testLonger bodyLonger) := by
  -- By induction on the rounds that are left to the first loop.
  induction fuel generalizing more with
  | zero =>
      exact .outOfFuel _
  | succ fuel inductionHypothesis =>
      cases more with
      | zero =>
          exact absurd enough (Nat.not_succ_le_zero fuel)
      | succ more =>
          rw [rounds_succ, rounds_succ]
          refine tests.bind fun truth => ?_
          split
          · refine bodies.bind fun flow => ?_
            cases flow with
            | normal => exact inductionHypothesis (Nat.le_of_succ_le_succ enough)
            | returned value => exact .refl _
          · exact .refl _

mutual

theorem stmt_persists (calls : CallsPersist call longer) (enough : fuel ≤ more) (s : Stmt) :
    Persists (stmt call fuel s) (stmt longer more s) := by
  cases s with
  | expression value span =>
      rw [stmt, stmt]
      exact (expr_persists calls value).bind fun _ => .refl _
  | declaration name typeName value span target =>
      rw [stmt, stmt]
      exact (initialValue_persists calls value).bind fun _ => .refl _
  | assignment receiver value span =>
      rw [stmt, stmt]
      exact (assign_persists calls receiver value span.start).bind fun _ => .refl _
  | conditional test thenBlock elseBlock span =>
      rw [stmt, stmt]
      refine (condition_persists calls test).bind fun truth => ?_
      split
      · exact (block_persists calls enough thenBlock).inBlock
      · exact (block_persists calls enough elseBlock).inBlock
  | switch subject cases span =>
      rw [stmt, stmt]
      refine (expr_persists calls subject).bind fun value => ?_
      exact firstCase_persists calls enough value cases
  | loop test body span =>
      rw [stmt, stmt]
      have bodies := (block_persists calls enough body).inBlock
      exact rounds_persists enough (condition_persists calls test) bodies
  | result value span =>
      rw [stmt, stmt]
      exact (expr_persists calls value).bind fun _ => .refl _

theorem block_persists (calls : CallsPersist call longer) (enough : fuel ≤ more)
    (b : List Stmt) : Persists (block call fuel b) (block longer more b) := by
  cases b with
  | nil =>
      rw [block, block]
      exact .refl _
  | cons first rest =>
      rw [block, block]
      refine (stmt_persists calls enough first).bind fun flow => ?_
      cases flow with
      | normal => exact block_persists calls enough rest
      | returned value => exact .refl _

theorem firstCase_persists (calls : CallsPersist call longer) (enough : fuel ≤ more)
    (subject : Value) (cs : List Case) :
    Persists (firstCase call fuel subject cs) (firstCase longer more subject cs) := by
  cases cs with
  | nil =>
      rw [firstCase, firstCase]
      exact .refl _
  | cons first rest =>
      obtain ⟨value, body, span⟩ := first
      rw [firstCase, firstCase]
      refine (matchesCase_persists calls subject value).bind fun matched => ?_
      split
      · exact (block_persists calls enough body).inBlock
      · exact firstCase_persists calls enough subject rest

end

end Statements

/-! ### Calls and programs -/

section Programs

variable {fuel more : Nat}

theorem invoke_persists (enough : fuel ≤ more) : CallsPersist (invoke fuel) (invoke more) := by
  -- By induction on the depth of calls.
  induction fuel generalizing more with
  | zero =>
      intro function arguments offset
      exact .outOfFuel _
  | succ fuel inductionHypothesis =>
      cases more with
      | zero =>
          exact absurd enough (Nat.not_succ_le_zero fuel)
      | succ more =>
          have fewer := Nat.le_of_succ_le_succ enough
          intro function arguments offset
          rw [invoke, invoke]
          split
          · exact .refl _
          · refine (Persists.refl _).bind fun frame => ?_
            have bodies := block_persists (inductionHypothesis fewer) fewer
            exact (Persists.inCall frame (bodies _)).bind fun _ => .refl _
          · exact .refl _

theorem defineGlobals_persists (enough : fuel ≤ more) (globals : List GlobalDecl) :
    Persists (defineGlobals fuel globals) (defineGlobals more globals) := by
  induction globals with
  | nil => exact .refl _
  | cons first rest inductionHypothesis =>
      rw [defineGlobals, defineGlobals]
      have firstPersists : Persists (defineGlobal fuel first) (defineGlobal more first) :=
        (initialValue_persists (invoke_persists enough) first.value).bind fun _ => .refl _
      exact firstPersists.bind fun _ => inductionHypothesis

theorem program_persists (enough : fuel ≤ more) (source : Source) :
    Persists (program fuel source) (program more source) := by
  unfold program load
  refine Persists.bind ?_ fun main => invoke_persists enough main [] source.span.start
  exact (defineGlobals_persists enough source.globals).bind fun _ => .refl _

end Programs

end Eval

/-- A run that does not run out of fuel is the same with more fuel. -/
theorem Source.run_of_le {source : Source} {fuel more : Nat} {sink : Sink}
    (enough : fuel ≤ more) (ends : (source.run fuel sink).result ≠ .error .outOfFuel) :
    source.run more sink = source.run fuel sink := by
  obtain ⟨after, ranOut⟩ | same := Eval.program_persists enough source (.initial sink)
  · unfold run at ends
    rw [ranOut] at ends
    exact absurd rfl ends
  · unfold run
    rw [same]

end ScriptLang
