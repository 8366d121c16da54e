import ScriptLang.Proofs.Accesses
import ScriptLang.Proofs.Constants

/-!
Elements of lists are read and written alike.

Whatever is evaluated for an index or a value, be it calls that change the same list, reading and
writing come to accept the same indices.  A write that succeeds changes one element of one variable:
lists are values, and no other variable, be it a copy of the list, changes with it.
-/

namespace ScriptLang
namespace Eval

variable {name : String} {value : Value}

theorem found_before_expr {fuel : Nat} {e : Expr} {result : Value} {state after : State}
    {cell : Cell} (evaluated : expr (invoke fuel) e state = .ok result after)
    (found : after.scope.findVariable? name = some cell) :
    ∃ first, state.scope.findVariable? name = some first ∧ first.binding = cell.binding := by
  have same := (expr_respects (outlineLaws.invoke_respects fuel) e).of_ok evaluated
  have means := same.meaning?_eq name
  unfold State.meaning? at means
  rw [found] at means
  exact Option.map_eq_some_iff.mp means.symm

variable {fuel : Nat} {position right : Expr} {span : Span} {ty : Option Ty}
  {target : Option Variable} {state middle after : State} {cell : Cell} {i : Int}
  {elements : List Value}

/-- Where the variable holds a list behind index and right-hand side, the assignment to an element
succeeds exactly with an index of that list, and then changes this element alone; a read of an
element succeeds with the same indices, wherever the variable holds a list of that length behind the
index.  Both fail alike, and only after index and right-hand side have been evaluated. -/
theorem element_write_read (count : Nat) (place : Span)
    (found : state.scope.findVariable? name = some cell)
    (isMutable : cell.binding.mutable = true)
    (indexed : expr (invoke fuel) position state = .ok (.integer i) middle)
    (evaluated : expr (invoke fuel) right middle = .ok value after)
    (holds : after.HoldsList name elements) :
    AccessesElement
      (stmt (invoke fuel) count (.assignment (.element name position span ty target) right place)
        state) i elements.length span.start
      (fun flow behind => flow = .normal ∧ behind.HoldsList name (elements.set i.toNat value) ∧
        State.Stores name (.list (elements.set i.toNat value)) after behind) after ∧
    ∀ (index : Expr) (here there : State) (seen : List Value),
      expr (invoke fuel) index here = .ok (.integer i) there → there.HoldsList name seen →
      seen.length = elements.length →
      AccessesElement (expr (invoke fuel) (.element name index span ty target) here) i
        elements.length span.start
        (fun element behind => behind = there ∧ seen[i.toNat]? = some element) there := by
  constructor
  · have assigns : AccessesElement
        (assign (invoke fuel) (.element name position span ty target) right place.start state) i
        elements.length span.start
        (fun _ behind => State.Stores name (.list (elements.set i.toNat value)) after behind)
        after :=
      assign_element_accesses found isMutable indexed evaluated holds place.start
    rw [stmt]
    exact assigns.bind fun _ behind stores => ⟨.normal, behind, rfl, rfl, stores.holdsList, stores⟩
  · intro index here there seen indexedHere holdsThere sameLength
    obtain ⟨cellThere, foundThere, isList⟩ := holdsThere
    obtain ⟨first, bound, _⟩ := found_before_expr indexedHere foundThere
    rw [← sameLength]
    exact expr_element_accesses bound indexedHere ⟨cellThere, foundThere, isList⟩

/-- A global list of two elements, and a copy of it in a block. -/
def copiedListState : State :=
  let pair : Value := .list [.integer 1, .integer 2]
  { scope :=
      { locals := [Frame.empty.addVariable "copy" ⟨.plain "copy" .any true false, pair⟩]
        globals := Frame.empty.addVariable "xs" ⟨.plain "xs" .integer true true, pair⟩ }
    sink := .unlimited }

def numeral (i : Int) : Expr :=
  .literal (.integer i) default none

/-- The second element can be replaced, and the copy keeps it; there is no third one to be read or
replaced. -/
theorem element_write_read_copied :
    (∃ behind, stmt (invoke 1) 1
        (.assignment (.element "xs" (numeral 1) default none none) (numeral 7) default)
        copiedListState = .ok .normal behind ∧
      behind.HoldsList "xs" [.integer 1, .integer 7] ∧
      State.Stores "xs" (.list [.integer 1, .integer 7]) copiedListState behind) ∧
    ∀ result after, expr (invoke 1) (.element "xs" (numeral 2) default none none)
      copiedListState ≠ .ok result after := by
  have found : copiedListState.scope.findVariable? "xs" =
      some ⟨.plain "xs" .integer true true, .list [.integer 1, .integer 2]⟩ := rfl
  have holds : copiedListState.HoldsList "xs" [.integer 1, .integer 2] := ⟨_, found, rfl⟩
  have evaluates : ∀ i, expr (invoke 1) (numeral i) copiedListState =
      .ok (.integer i) copiedListState := fun _ => rfl
  constructor
  · have writes : AccessesElement (stmt (invoke 1) 1 (.assignment (.element "xs" (numeral 1) default
        none none) (numeral 7) default) copiedListState) 1 2 _ _ _ :=
      (element_write_read 1 default found rfl (evaluates 1) (evaluates 7) holds).1
    obtain ⟨flow, behind, ended⟩ := writes.succeeds.mpr (by decide)
    obtain ⟨rfl, holdsBehind, stores⟩ := writes.good flow behind ended
    exact ⟨behind, ended, holdsBehind, stores⟩
  · intro result after ended
    have reads : AccessesElement (expr (invoke 1) (.element "xs" (numeral 2) default none none)
        copiedListState) 2 2 _ _ _ :=
      (element_write_read 1 default found rfl (evaluates 2) (evaluates 7) holds).2 (numeral 2) _ _ _
        (evaluates 2) holds rfl
    have inRange := reads.succeeds.mp ⟨result, after, ended⟩
    exact absurd inRange (by decide)

end Eval
end ScriptLang
