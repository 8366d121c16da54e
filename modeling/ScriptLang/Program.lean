import ScriptLang.Evaluation.Source
import ScriptLang.Parse.Source
import ScriptLang.Typing.Source

/-!
Programs from their text: reading, checking and running.
-/

namespace ScriptLang

inductive Ending where
  | value (value : Value)
  | failure (error : Error)
  | outOfFuel

def Ending.ofResult (file : String) : Except Stop Value → Ending
  | .ok result => .value result
  | .error (.fault fault) => .failure (fault.inFile file)
  | .error .outOfFuel => .outOfFuel

namespace Program

/-- The checked and decorated tree of a program text. -/
def check (text file : String) : Except Error Source :=
  match (do Source.check (← Source.parse text)) with
  | .ok source => .ok source
  | .error fault => .error (fault.inFile file)

theorem check_eq_ok {text file : String} {source : Source} :
    check text file = .ok source ↔
      ∃ tree, Source.parse text = .ok tree ∧ tree.check = .ok source := by
  unfold check
  cases Source.parse text with
  | error fault =>
      constructor
      · intro accepted
        cases accepted
      · rintro ⟨tree, parsed, _⟩
        cases parsed
  | ok tree =>
      change (match tree.check with
        | .ok source => Except.ok source
        | .error fault => .error (fault.inFile file)) = .ok source ↔ _
      cases checked : tree.check with
      | error fault =>
          constructor
          · intro accepted
            cases accepted
          · rintro ⟨_, parsed, accepted⟩
            cases parsed
            rw [checked] at accepted
            cases accepted
      | ok found =>
          constructor
          · intro accepted
            cases accepted
            exact ⟨tree, rfl, checked⟩
          · rintro ⟨_, parsed, accepted⟩
            cases parsed
            rw [← checked, accepted]

/-- Checks a program text and runs it; yields how it ended, and the sink it printed into. -/
def run (text file : String) (fuel : Nat) (sink : Sink) : Ending × Sink :=
  match check text file with
  | .error error => (.failure error, sink)
  | .ok source =>
      let outcome := source.run fuel sink
      (.ofResult file outcome.result, outcome.sink)

/-- More fuel than any run can use up in practice. -/
def ampleFuel : Nat := 4000000000000000000

end Program
end ScriptLang
