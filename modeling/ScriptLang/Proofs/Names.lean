import Mathlib.Data.List.Nodup
import ScriptLang.Evaluation.State
import ScriptLang.Parse.Expression

/-!
Names and what they name.

Types, kinds, powers, operators and built-in functions are listed with their names.  No two of a
list have one name, so what is found under a name is the value of that name.
-/

namespace ScriptLang

/-- Where all values are listed and differ in their names, each is found under its own. -/
theorem find?_named {α : Type} {all : List α} {name : α → String}
    (distinct : (all.map name).Nodup) (complete : ∀ value, value ∈ all) {text : String}
    {value : α} : (all.find? fun other => name other == text) = some value ↔ name value = text := by
  constructor
  · intro found
    have sameName := List.find?_some found
    exact eq_of_beq sameName
  · rintro rfl
    cases found : all.find? fun other => name other == name value with
    | none =>
        have differs := List.find?_eq_none.mp found value (complete value)
        exact absurd (beq_self_eq_true (name value)) differs
    | some other =>
        have sameName := List.find?_some found
        rw [List.inj_on_of_nodup_map distinct (complete other) (complete value)
          (eq_of_beq sameName)]

/-! ### Types -/

namespace Ty

theorem ofName?_eq_some {text : String} {ty : Ty} : ofName? text = some ty ↔ ty.name = text :=
  find?_named (by decide) (by intro value; cases value <;> decide)

theorem name_injective {first second : Ty} (same : first.name = second.name) : first = second := by
  have found := ofName?_eq_some.mpr same
  rw [ofName?_eq_some.mpr rfl] at found
  exact (Option.some.inj found).symm

end Ty

/-! ### Kinds of token -/

theorem Kind.ofName?_eq_some {text : String} {kind : Kind} :
    ofName? text = some kind ↔ kind.name = text :=
  find?_named (by decide) (by intro value; cases value <;> decide)

namespace Parse

theorem expect_eq_error {kind : Kind} {cursor stop : Cursor} {fault : Fault} :
    expect kind cursor = .error fault stop ↔
      cursor.current.kind ≠ kind ∧ stop = cursor ∧
        fault = { cause := .unexpectedTokenDetailed cursor.current.value ("expected " ++ kind.name)
                  offset := cursor.current.span.start } := by
  have unfolded : expect kind cursor =
      (if cursor.current.kind = kind then advance
        else complain ("expected " ++ kind.name)) cursor := rfl
  rw [unfolded]
  by_cases isKind : cursor.current.kind = kind
  · rw [if_pos isKind]
    constructor
    · intro impossible
      cases impossible
    · intro expected
      exact absurd isKind expected.1
  · rw [if_neg isKind]
    constructor
    · intro failed
      cases failed
      exact ⟨isKind, rfl, rfl⟩
    · rintro ⟨_, rfl, rfl⟩
      rfl

/-- The complaint at a token tells which kind was wanted there. -/
theorem expect_determines {first second : Kind} {cursor stop other : Cursor} {fault : Fault}
    (firstFailed : expect first cursor = .error fault stop)
    (secondFailed : expect second cursor = .error fault other) : first = second := by
  obtain ⟨_, _, faultEq⟩ := expect_eq_error.mp firstFailed
  obtain ⟨_, _, faultEq'⟩ := expect_eq_error.mp secondFailed
  have causeEq := congrArg Fault.cause (faultEq.symm.trans faultEq')
  injection causeEq with _ detailEq
  have sameName := (String.append_right_inj "expected ").mp detailEq
  have found := Kind.ofName?_eq_some.mpr sameName
  rw [Kind.ofName?_eq_some.mpr rfl] at found
  exact (Option.some.inj found).symm

end Parse

/-! ### Operators -/

theorem Power.ofName?_eq_some {text : String} {power : Power} :
    ofName? text = some power ↔ power.name = text :=
  find?_named (by decide) (by intro value; cases value <;> decide)

namespace BinaryOp

theorem ofSymbol?_eq_some {text : String} {op : BinaryOp} :
    ofSymbol? text = some op ↔ op.symbol = text :=
  find?_named (by decide) (by intro value; cases value <;> decide)

/-- The operator of a token's kind is the one whose symbol is the spelling of the kind. -/
theorem ofKind?_eq_ofSymbol? (kind : Kind) :
    ofKind? kind = kind.spelling?.bind ofSymbol? := by
  cases kind <;> decide

theorem ofKind?_eq_some {kind : Kind} {op : BinaryOp} :
    ofKind? kind = some op ↔ kind.spelling? = some op.symbol := by
  rw [ofKind?_eq_ofSymbol?, Option.bind_eq_some_iff]
  constructor
  · rintro ⟨text, spelled, found⟩
    rw [spelled, ofSymbol?_eq_some.mp found]
  · intro spelled
    exact ⟨op.symbol, spelled, ofSymbol?_eq_some.mpr rfl⟩

end BinaryOp

/-! ### Built-in functions -/

theorem Builtin.ofName?_eq_some {text : String} {builtin : Builtin} :
    ofName? text = some builtin ↔ builtin.name = text :=
  find?_named (by decide) (by intro value; cases value <;> decide)

/-- What a frame of all built-in functions binds to a key is kept of the function of that name,
which takes as many arguments. -/
theorem Frame.findFunction?_ofBuiltins {β φ : Type} {entry : Builtin → φ} {key : String × Nat}
    {found : φ} :
    (Frame.ofFunctions (Builtin.all.map fun builtin => (builtin.signature.key, entry builtin)) :
        Frame β φ).findFunction? key = some found ↔
      ∃ builtin, Builtin.ofName? key.1 = some builtin ∧ builtin.signature.key = key ∧
        entry builtin = found := by
  constructor
  · intro isBound
    obtain ⟨before, after, entriesEq, _⟩ := List.lookup_eq_some_iff.mp isBound
    have listed : (key, found) ∈ before ++ (key, found) :: after :=
      List.mem_append_right before List.mem_cons_self
    rw [← entriesEq] at listed
    obtain ⟨builtin, _, pairEq⟩ := List.mem_map.mp (List.mem_reverse.mp listed)
    cases pairEq
    exact ⟨builtin, Builtin.ofName?_eq_some.mpr rfl, rfl, rfl⟩
  · rintro ⟨builtin, _, rfl, rfl⟩
    cases builtin <;> rfl

end ScriptLang
