import ScriptLang.Proofs.Passage

/-!
Advancing.

A reader advances when it passes at least one token wherever it ends well.  The end of the source
cannot be passed, so a reader advances when it expects any other token, however it goes on.
-/

namespace ScriptLang
namespace Parse

variable {α β : Type}

/-- The reader passes at least one token where it ends well. -/
class Advances (reader : Parse α) : Prop where
  moves : ∀ c, c.Closed →
    Leads reader c (fun _ d => ∃ ts, ts ≠ [] ∧ c.Moves ts d) fun _ _ => True

namespace Advances

instance unexpected : Advances (Parse.unexpected : Parse α) where
  moves _ _ := trivial

theorem first {reader : Parse α} {next : α → Parse β} (advances : Advances reader)
    [continues : ∀ value, Travels (next value)] : Advances (reader >>= next) where
  moves c closed := by
    refine (advances.moves c closed).bind ?_
    rintro value d ⟨ts, nonempty, moves⟩
    refine ((continues value).moves d).imp ?_ fun _ _ _ => trivial
    rintro _ e ⟨us, later⟩
    exact ⟨ts ++ us, List.append_ne_nil_of_left_ne_nil nonempty us, moves.trans later⟩

theorem later {reader : Parse α} {next : α → Parse β} [travels : Travels reader]
    (advances : ∀ value, Advances (next value)) : Advances (reader >>= next) where
  moves c closed := by
    refine ((travels.moves c).imp (fun _ _ moves => moves) fun _ _ _ => trivial).bind ?_
    rintro value d ⟨ts, moves⟩
    refine ((advances value).moves d (moves.closed closed)).imp ?_ fun _ _ _ => trivial
    rintro _ e ⟨us, nonempty, later⟩
    exact ⟨ts ++ us, List.append_ne_nil_of_right_ne_nil ts nonempty, moves.trans later⟩

end Advances

/-! ### Single tokens -/

theorem expectOr_advances {kind : Kind} (notEnd : kind ≠ .eof) (detail : String) :
    Advances (expectOr kind detail) where
  moves c closed := by
    unfold expectOr
    refine (leads_bind_of_ok (show currentKind c = .ok c.current.kind c from rfl)).mpr ?_
    by_cases isKind : c.current.kind = kind
    · rw [if_pos isKind]
      exact ⟨_, List.cons_ne_nil _ _, closed.moves_next (isKind ▸ notEnd)⟩
    · rw [if_neg isKind]
      exact trivial

theorem expect_advances {kind : Kind} (notEnd : kind ≠ .eof) : Advances (expect kind) :=
  expectOr_advances notEnd _

instance identifier_advances (context : String) : Advances (identifier context) :=
  .first (expectOr_advances (by decide) _)

instance primary_advances : Advances primary where
  moves c closed := by
    unfold primary
    refine (leads_bind_of_ok (show currentToken c = .ok c.current c from rfl)).mpr ?_
    cases literalEq : literalOf c.current with
    | error fault => exact trivial
    | ok value =>
        have notEnd : c.current.kind ≠ .eof := by
          intro isEnd
          unfold literalOf at literalEq
          rw [isEnd] at literalEq
          cases literalEq
        exact ⟨_, List.cons_ne_nil _ _, closed.moves_next notEnd⟩

/-- Where the end of the source is complained about, the reader behind it says so. -/
theorem Advances.behind {next : Token → Parse β} (continues : ∀ token, Travels (next token))
    (fails : ∀ token, token.kind = .eof → ∃ fault, next token = MonadExcept.throw fault) :
    Advances (advance >>= next) where
  moves c closed := by
    refine (leads_bind_of_ok (show advance c = .ok c.current c.next from rfl)).mpr ?_
    by_cases isEnd : c.current.kind = .eof
    · obtain ⟨fault, nextEq⟩ := fails c.current isEnd
      rw [nextEq]
      exact trivial
    · have passes := closed.moves_next isEnd
      refine ((continues c.current).moves c.next).imp ?_ fun _ _ _ => trivial
      rintro _ d ⟨ts, moves⟩
      exact ⟨c.current :: ts, List.cons_ne_nil _ _, passes.trans moves⟩

/-! ### Expressions -/

instance (fuel : Nat) (left : Expr) (power : Power) : Advances (binaryWithin fuel left power) := by
  cases fuel with
  | zero => rw [binaryWithin]; infer_instance
  | succ fuel =>
      rw [binaryWithin]
      refine .behind (fun token => ?_) fun token isEnd => ⟨unexpectedFault token, ?_⟩
      · split <;> infer_instance
      · rw [isEnd]; rfl

instance (fuel : Nat) : Advances (symbolWithin fuel) := by
  cases fuel with
  | zero => rw [symbolWithin]; infer_instance
  | succ fuel => rw [symbolWithin_succ]; exact .first (expect_advances (by decide))

instance (fuel : Nat) : Advances (groupWithin fuel) := by
  cases fuel with
  | zero => rw [groupWithin]; infer_instance
  | succ fuel => rw [groupWithin]; exact .first (expect_advances (by decide))

instance (fuel : Nat) : Advances (operandWithin fuel) := by
  cases fuel with
  | zero => rw [operandWithin]; infer_instance
  | succ fuel =>
      rw [operandWithin]
      refine .later fun kind => ?_
      split <;> infer_instance

instance (fuel : Nat) (power : Power) : Advances (expressionWithin fuel power) := by
  cases fuel with
  | zero => rw [expressionWithin]; infer_instance
  | succ fuel => rw [expressionWithin]; exact .first inferInstance

/-! ### Statements -/

instance (fuel : Nat) : Advances (declarationWithin fuel) :=
  .first (expect_advances (by decide))

instance (fuel : Nat) : Advances (resultWithin fuel) :=
  .first (expect_advances (by decide))

instance (fuel : Nat) : Advances (simpleStatementWithin fuel) :=
  .later fun _ => .first inferInstance

instance (fuel : Nat) : Advances (switchWithin fuel) := by
  cases fuel with
  | zero => rw [switchWithin]; infer_instance
  | succ fuel => rw [switchWithin]; exact .first (expect_advances (by decide))

instance (fuel : Nat) : Advances (conditionalWithin fuel) := by
  cases fuel with
  | zero => rw [conditionalWithin]; infer_instance
  | succ fuel => rw [conditionalWithin]; exact .first (expect_advances (by decide))

instance (fuel : Nat) : Advances (loopWithin fuel) := by
  cases fuel with
  | zero => rw [loopWithin]; infer_instance
  | succ fuel => rw [loopWithin]; exact .first (expect_advances (by decide))

instance (fuel : Nat) : Advances (statementWithin fuel) := by
  cases fuel with
  | zero => rw [statementWithin]; infer_instance
  | succ fuel =>
      rw [statementWithin]
      refine .later fun kind => ?_
      split <;> infer_instance

/-! ### Declarations -/

instance (fuel : Nat) : Advances (globalWithin fuel) :=
  .later fun _ => .first inferInstance

set_option synthInstance.maxSize 256 in
instance (fuel : Nat) : Advances (functionWithin fuel) := by
  unfold functionWithin
  exact .first (expect_advances (by decide))

end Parse
end ScriptLang
