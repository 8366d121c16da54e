import ScriptLang.Proofs.Spelled

/-!
The places in a tree.

Faults are reported where a node of the tree starts, or where the whole program ends.  A tree
is said to stand at some places when all of its nodes start at one of them; a tree that is read
stands at the places where its tokens start.
-/

namespace ScriptLang

/-- The step fails at one of the places, or yields a value as `good` says. -/
def Confined {α : Type} (place : Nat → Prop) (step : Except Fault α) (good : α → Prop) : Prop :=
  match step with
  | .ok value => good value
  | .error fault => place fault.offset

namespace Confined

variable {α β : Type} {place : Nat → Prop} {good : α → Prop} {best : β → Prop}

theorem bind {step : Except Fault α} {next : α → Except Fault β}
    (confined : Confined place step good)
    (continues : ∀ value, good value → Confined place (next value) best) :
    Confined place (step >>= next) best := by
  cases step with
  | ok value => exact continues value confined
  | error fault => exact confined

theorem map {step : Except Fault α} {change : α → β} (confined : Confined place step good)
    (changes : ∀ value, good value → best (change value)) :
    Confined place (step.map change) best := by
  cases step with
  | ok value => exact changes value confined
  | error fault => exact confined

theorem of_ok {step : Except Fault α} {value : α} (confined : Confined place step good)
    (ended : step = .ok value) : good value := by
  subst ended
  exact confined

theorem of_error {step : Except Fault α} {fault : Fault} (confined : Confined place step good)
    (ended : step = .error fault) : place fault.offset := by
  subst ended
  exact confined

theorem demand {condition : Prop} [Decidable condition] {value : α} {cause : Cause}
    {offset : Nat} (here : place offset) (holds : good value) :
    Confined place
      (if condition then .ok value else .error { cause := cause, offset := offset }) good := by
  split
  · exact holds
  · exact here

end Confined

variable (place : Nat → Prop)

/-! ### Trees at places -/

mutual

/-- Every node of the expression starts at one of the places. -/
def Expr.Placed : Expr → Prop
  | .literal _ span _ => place span.start
  | .group inner span _ => place span.start ∧ inner.Placed
  | .binary _ left right span _ => place span.start ∧ left.Placed ∧ right.Placed
  | .access _ span _ _ => place span.start
  | .element _ index span _ _ => place span.start ∧ index.Placed
  | .call _ arguments span _ _ => place span.start ∧ AllPlaced arguments
  | .list elements span _ => place span.start ∧ AllPlaced elements

def AllPlaced : List Expr → Prop
  | [] => True
  | first :: rest => first.Placed ∧ AllPlaced rest

end

def OptionPlaced (value : Option Expr) : Prop :=
  ∀ e, value = some e → e.Placed place

mutual

def Stmt.Placed : Stmt → Prop
  | .expression value span => place span.start ∧ value.Placed place
  | .declaration _ _ value span _ => place span.start ∧ OptionPlaced place value
  | .assignment receiver value span =>
      place span.start ∧ receiver.Placed place ∧ value.Placed place
  | .conditional condition thenBlock elseBlock span =>
      place span.start ∧ condition.Placed place ∧ BlockPlaced thenBlock ∧ BlockPlaced elseBlock
  | .switch condition cases span =>
      place span.start ∧ condition.Placed place ∧ CasesPlaced cases
  | .loop condition body span => place span.start ∧ condition.Placed place ∧ BlockPlaced body
  | .result value span => place span.start ∧ value.Placed place

def BlockPlaced : List Stmt → Prop
  | [] => True
  | first :: rest => first.Placed ∧ BlockPlaced rest

def Case.Placed : Case → Prop
  | .mk value body span => place span.start ∧ OptionPlaced place value ∧ BlockPlaced body

def CasesPlaced : List Case → Prop
  | [] => True
  | first :: rest => first.Placed ∧ CasesPlaced rest

end

structure GlobalDecl.Placed (global : GlobalDecl) : Prop where
  start : place global.span.start
  value : OptionPlaced place global.value

structure FunctionDecl.Placed (function : FunctionDecl) : Prop where
  start : place function.span.start
  body : BlockPlaced place function.body

structure Source.Placed (source : Source) : Prop where
  globals : ∀ global ∈ source.globals, global.Placed place
  functions : ∀ function ∈ source.functions, function.Placed place
  start : place source.span.start
  stop : place source.span.stop

variable {place}

theorem Expr.Placed.start {e : Expr} (placed : e.Placed place) : place e.start := by
  cases e with
  | literal | access => exact placed
  | _ => exact placed.1

theorem Case.Placed.start {c : Case} (placed : c.Placed place) : place c.span.start := by
  cases c
  exact placed.1

theorem OptionPlaced.none : OptionPlaced place none := by
  intro e impossible
  cases impossible

theorem OptionPlaced.some {e : Expr} (placed : e.Placed place) : OptionPlaced place (some e) := by
  intro e' eq
  cases eq
  exact placed

theorem CasesPlaced.of_mem {cases : List Case} (placed : CasesPlaced place cases) {c : Case}
    (member : c ∈ cases) : c.Placed place := by
  induction cases with
  | nil => cases member
  | cons first rest inductionHypothesis =>
      rcases List.mem_cons.mp member with rfl | member
      · exact placed.1
      · exact inductionHypothesis placed.2 member

/-! ### Trees that are read -/

def Piece.Placed (place : Nat → Prop) : Piece → Prop
  | .expression _ e => e.Placed place
  | .items es | .moreItems es => AllPlaced place es
  | .initializer value => OptionPlaced place value
  | .statement s => s.Placed place
  | .block b | .alternative b => BlockPlaced place b
  | .cases cs => CasesPlaced place cs

def StartAt (place : Nat → Prop) (tokens : List Token) : Prop :=
  ∀ token ∈ tokens, place token.span.start

theorem startAt_cons {token : Token} {ts : List Token} :
    StartAt place (token :: ts) ↔ place token.span.start ∧ StartAt place ts :=
  List.forall_mem_cons

theorem startAt_append {ts us : List Token} :
    StartAt place (ts ++ us) ↔ StartAt place ts ∧ StartAt place us :=
  List.forall_mem_append

theorem StartAt.cover {ts : List Token} (starts : StartAt place ts) (nonempty : ts ≠ []) :
    place (Token.cover ts).start := by
  obtain ⟨first, others, rfl⟩ := List.exists_cons_of_ne_nil nonempty
  exact (startAt_cons.mp starts).1

theorem Spelled.placed {piece : Piece} {ts : List Token} (spelled : Spelled piece ts)
    (starts : StartAt place ts) : piece.Placed place := by
  induction spelled with
  | literal | access => exact (startAt_cons.mp starts).1
  | element _ _ _ _ inner =>
      simp only [startAt_cons, startAt_append] at starts
      exact ⟨starts.1, inner starts.2.2.1⟩
  | call _ _ _ _ inner =>
      simp only [startAt_cons, startAt_append] at starts
      exact ⟨starts.1, inner starts.2.2.1⟩
  | group _ _ _ inner =>
      simp only [startAt_cons, startAt_append] at starts
      exact ⟨starts.1, inner starts.2.1⟩
  | binary _ _ leftSpelled _ left right =>
      have here := starts.cover (List.append_ne_nil_of_right_ne_nil _ (List.cons_ne_nil _ _))
      simp only [startAt_cons, startAt_append] at starts
      exact ⟨here, left starts.1, right starts.2.2⟩
  | noItems | noMoreItems | noStatements | noAlternative => trivial
  | items _ _ first others =>
      rw [startAt_append] at starts
      exact ⟨first starts.1, others starts.2⟩
  | moreItems _ _ _ first others =>
      simp only [startAt_cons, startAt_append] at starts
      exact ⟨first starts.2.1, others starts.2.2⟩
  | noInitializer => exact .none
  | initializer _ _ value =>
      rw [startAt_cons] at starts
      exact .some (value starts.2)
  | declaration _ _ _ _ _ initial =>
      simp only [startAt_cons, startAt_append] at starts
      exact ⟨starts.1, initial starts.2.2.2.1⟩
  | expressionStatement _ _ value =>
      have here := starts.cover (List.append_ne_nil_of_right_ne_nil _ (List.cons_ne_nil _ _))
      rw [startAt_append] at starts
      exact ⟨here, value starts.1⟩
  | assignment _ _ _ _ receiver value =>
      have here := starts.cover (List.append_ne_nil_of_right_ne_nil _ (List.cons_ne_nil _ _))
      simp only [startAt_cons, startAt_append] at starts
      exact ⟨here, receiver starts.1, value starts.2.2.1⟩
  | conditional _ _ _ _ _ _ test thenBlock elseBlock =>
      simp only [startAt_cons, startAt_append] at starts
      obtain ⟨here, inTest, _, inThen, inElse, _⟩ := starts
      exact ⟨here, test inTest, thenBlock inThen, elseBlock inElse⟩
  | switch _ _ _ _ subject cases =>
      simp only [startAt_cons, startAt_append] at starts
      exact ⟨starts.1, subject starts.2.1, cases starts.2.2.1⟩
  | loop _ _ _ _ _ test body =>
      simp only [startAt_cons, startAt_append] at starts
      exact ⟨starts.1, test starts.2.1, body starts.2.2.2.1⟩
  | result _ _ _ value =>
      simp only [startAt_cons, startAt_append] at starts
      exact ⟨starts.1, value starts.2.1⟩
  | statements _ _ first others =>
      rw [startAt_append] at starts
      exact ⟨first starts.1, others starts.2⟩
  | defaultCase _ _ body =>
      rw [startAt_cons] at starts
      exact ⟨⟨starts.1, .none, body starts.2⟩, trivial⟩
  | case _ _ _ _ _ value body others =>
      simp only [List.cons_append, startAt_cons, startAt_append] at starts
      obtain ⟨here, ⟨inValue, _, inBody⟩, inOthers⟩ := starts
      exact ⟨⟨here, .some (value inValue), body inBody⟩, others inOthers⟩
  | alternative _ _ body =>
      rw [startAt_cons] at starts
      exact body starts.2

theorem GlobalBodySpelled.placed {word : Kind} {typeName : Option String} {value : Option Expr}
    {ts : List Token} (spelled : GlobalBodySpelled word typeName value ts)
    (starts : StartAt place ts) : OptionPlaced place value := by
  cases spelled with
  | list _ _ _ _ inner _ =>
      simp only [startAt_cons, startAt_append] at starts
      obtain ⟨_, _, _, here, inElements, _⟩ := starts
      exact .some ⟨here, inner.placed inElements⟩
  | mutable _ initial =>
      rw [startAt_append] at starts
      exact initial.placed starts.2
  | immutable _ _ initial =>
      simp only [startAt_cons, startAt_append] at starts
      exact .some (initial.placed starts.2.2)

theorem GlobalSpelled.placed {global : GlobalDecl} {ts : List Token}
    (spelled : GlobalSpelled global ts) (starts : StartAt place ts) : global.Placed place := by
  cases spelled with
  | mk _ body _ =>
      simp only [startAt_cons, startAt_append] at starts
      exact ⟨starts.1, body.placed starts.2.2.1⟩

theorem FunctionSpelled.placed {function : FunctionDecl} {ts : List Token}
    (spelled : FunctionSpelled function ts) (starts : StartAt place ts) :
    function.Placed place := by
  cases spelled with
  | mk _ _ _ _ _ _ _ body _ =>
      simp only [startAt_cons, startAt_append] at starts
      obtain ⟨here, _, _, _, _, _, _, inBody, _⟩ := starts
      exact ⟨here, body.placed inBody⟩

theorem EachSpelled.placed {α : Type} {spelled : α → List Token → Prop} {good : α → Prop}
    (each : ∀ value ts, spelled value ts → StartAt place ts → good value) {values : List α}
    {ts : List Token} (allSpelled : EachSpelled spelled values ts) (starts : StartAt place ts) :
    ∀ value ∈ values, good value := by
  induction allSpelled with
  | nil => exact fun value member => absurd member List.not_mem_nil
  | cons first _ inductionHypothesis =>
      rw [startAt_append] at starts
      exact List.forall_mem_cons.mpr
        ⟨each _ _ first starts.1, inductionHypothesis starts.2⟩

/-- A program that is read stands at the places of its tokens; it starts at offset zero and ends
with its last token, or at offset zero where it has none. -/
theorem SourceSpelled.placed {source : Source} {ts : List Token}
    (spelled : SourceSpelled source ts) (starts : StartAt place ts)
    (stops : ∀ token ∈ ts, place token.span.stop) (atZero : place 0) : source.Placed place := by
  cases spelled with
  | @mk globals functions ts us globalsSpelled functionsSpelled =>
      have startsBoth := startAt_append.mp starts
      refine ⟨?_, ?_, atZero, ?_⟩
      · exact globalsSpelled.placed (fun _ _ spelled => spelled.placed) startsBoth.1
      · exact functionsSpelled.placed (fun _ _ spelled => spelled.placed) startsBoth.2
      · change place (Token.cover (ts ++ us)).stop
        unfold Token.cover
        cases lastEq : (ts ++ us).getLast? with
        | none => exact atZero
        | some last => exact stops last (List.mem_of_getLast? lastEq)

end ScriptLang
