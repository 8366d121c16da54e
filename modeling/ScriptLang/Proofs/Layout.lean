import ScriptLang.Proofs.RelocatedChecks
import ScriptLang.Proofs.RelocatedReads
import ScriptLang.Proofs.UndecoratedRuns

/-!
Layout.

Two texts with the same words, in whatever layout and with whatever comments, are the same program:
both are read as one tree without places, and reading, checking and running that tree tells
everything about them but the places of their faults.
-/

namespace ScriptLang

def Word.unplaced (word : Word) : Token :=
  { kind := word.kind, value := word.value, span := .none }

/-! ### Runs -/

theorem Stop.Alike.join {places : Nat → Nat → Prop} {first second third : Stop}
    (toThird : first.Alike places third) (fromSecond : second.Alike places third) :
    first.Alike (fun _ _ => True) second := by
  cases toThird with
  | fault faults =>
      cases fromSecond with
      | fault faults' => exact .fault ⟨faults.cause.trans faults'.cause.symm, trivial⟩
  | outOfFuel =>
      cases fromSecond with
      | outOfFuel => exact .outOfFuel

theorem Outcome.Alike.join {places : Nat → Nat → Prop} {first second third : Outcome}
    (toThird : first.Alike places third) (fromSecond : second.Alike places third) :
    first.Alike (fun _ _ => True) second := by
  refine ⟨(toThird.result.join fromSecond.result).imp ?_ ?_, ?_⟩
  · rintro stop stop' ⟨common, alike, alike'⟩
    exact alike.join alike'
  · rintro value value' ⟨common, rfl, rfl⟩
    rfl
  · exact toThird.sink.trans fromSecond.sink.symm

theorem FunctionDecl.Fits.relocated {f : Nat → Nat} {function : FunctionDecl}
    (fits : function.Fits) : (function.relocated f).Fits :=
  fits

/-- Programs that differ in the places of their nodes run alike. -/
theorem Source.run_of_withoutSpans {source source' : Source}
    (same : source.withoutSpans = source'.withoutSpans)
    (fit : ∀ function ∈ source.functions, function.Fits)
    (fit' : ∀ function ∈ source'.functions, function.Fits) (fuel : Nat) (sink : Sink) :
    (source.run fuel sink).Alike (fun _ _ => True) (source'.run fuel sink) := by
  have runs : ∀ {tree : Source}, (∀ function ∈ tree.functions, function.Fits) →
      (tree.run fuel sink).Alike (Relocates fun _ => 0) (tree.withoutSpans.run fuel sink) := by
    intro tree fit
    rw [← tree.relocated_zero]
    refine tree.alike_relocated.run fit ?_ fuel sink
    intro function member
    obtain ⟨placed, inTree, rfl⟩ := List.mem_map.mp member
    exact (fit placed inTree).relocated
  have second := runs fit'
  rw [← same] at second
  exact (runs fit).join second

/-! ### Texts -/

/-- Reading and checking a text gives what its words alone give, but for places. -/
theorem Source.check_of_words {text : String} {tokens : List Token}
    (scanned : Token.scan text = .ok tokens) :
    ResultsAlike (FaultsAlike fun _ _ => True)
      (fun checked checked' => checked.withoutSpans = checked' ∧
        ∀ function ∈ checked.functions, function.Fits)
      (do Source.check (← Source.parse text))
      (do Source.check (← Parse.ofTokens Parse.source
        ((tokens.map Token.word).map Word.unplaced))) := by
  have parsed : Source.parse text = Parse.ofTokens Parse.source tokens := by
    unfold Source.parse
    rw [scanned]
    rfl
  have unplaced : (tokens.map Token.word).map Word.unplaced =
      tokens.map (Token.relocated fun _ => 0) := by
    rw [List.map_map]
    rfl
  rw [parsed, unplaced]
  refine ((Parse.ofTokens_source_relocated rfl tokens).imp ?_ fun _ _ => id).bind ?_
  · exact fun _ _ faults => ⟨faults.cause, trivial⟩
  · rintro tree _ rfl
    have checks : Typing.RelocatedAs (fun _ => 0) _ tree.check
        (tree.relocated fun _ => 0).check := tree.check_relocated
    generalize checkedEq : tree.check = result at checks ⊢
    generalize (tree.relocated fun _ => 0).check = result' at checks ⊢
    cases checks with
    | ok same =>
        subst same
        exact .ok ⟨(Source.relocated_zero _).symm, Source.fit_of_check checkedEq⟩
    | error faults =>
        exact .error ⟨faults.cause, trivial⟩

/-- Texts with the same words are accepted alike and run alike. -/
theorem Program.check_of_same_words {text text' : String} {tokens tokens' : List Token}
    (scanned : Token.scan text = .ok tokens) (scanned' : Token.scan text' = .ok tokens')
    (same : tokens.map Token.word = tokens'.map Token.word) (file file' : String) :
    ResultsAlike (fun error error' => error.cause = error'.cause)
      (fun checked checked' => checked.withoutSpans = checked'.withoutSpans ∧
        ∀ fuel sink, (checked.run fuel sink).Alike (fun _ _ => True) (checked'.run fuel sink))
      (Program.check text file) (Program.check text' file') := by
  have first := Source.check_of_words scanned
  have second := Source.check_of_words scanned'
  rw [same] at first
  have joined := first.join second
  unfold Program.check
  generalize (do Source.check (← Source.parse text)) = result at joined ⊢
  generalize (do Source.check (← Source.parse text')) = result' at joined ⊢
  cases joined with
  | ok holds =>
      obtain ⟨common, ⟨rfl, fit⟩, ⟨same, fit'⟩⟩ := holds
      exact .ok ⟨same.symm, Source.run_of_withoutSpans same.symm fit fit'⟩
  | error errors =>
      obtain ⟨common, faults, faults'⟩ := errors
      exact .error (faults.cause.trans faults'.cause.symm)

def crowdedText : String :=
  "FUN main(): Integer DO print(7); RETURN 1 / 0; END"

def spreadText : String :=
  "// seven, and a failure\nFUN main ( ) : Integer DO\n  print(7); // seven\n"
    ++ "  RETURN 1\n    / 0;\nEND\n"

def Outcome.failure? (outcome : Outcome) : Option (String × Fault) :=
  match outcome.result with
  | .error (.fault fault) => some (outcome.sink.text, fault)
  | _ => none

/-- Both layouts are accepted; both runs print and fail alike, each at its own place. -/
theorem Program.check_of_same_words_spread :
    ∃ tokens tokens' checked checked',
      Token.scan crowdedText = .ok tokens ∧ Token.scan spreadText = .ok tokens' ∧
      tokens.map Token.word = tokens'.map Token.word ∧
      Program.check crowdedText "crowded" = .ok checked ∧
      Program.check spreadText "spread" = .ok checked' ∧
      checked.withoutSpans = checked'.withoutSpans ∧
      (checked.run 9 .unlimited).Alike (fun _ _ => True) (checked'.run 9 .unlimited) ∧
      (checked.run 9 .unlimited).failure? = some ("7\n", ⟨.divisionByZero, 40⟩) ∧
      (checked'.run 9 .unlimited).failure? = some ("7\n", ⟨.divisionByZero, 80⟩) := by
  have computed : ((Token.scan crowdedText).toOption.bind fun tokens =>
      (Token.scan spreadText).toOption.bind fun tokens' =>
        (Program.check crowdedText "crowded").toOption.bind fun checked =>
          (Program.check spreadText "spread").toOption.map fun checked' =>
            (decide (tokens.map Token.word = tokens'.map Token.word),
              (checked.run 9 .unlimited).failure?, (checked'.run 9 .unlimited).failure?)) =
      some (true, some ("7\n", ⟨.divisionByZero, 40⟩), some ("7\n", ⟨.divisionByZero, 80⟩)) := by
    decide +kernel
  obtain ⟨tokens, scanned, computed⟩ := Option.bind_eq_some_iff.mp computed
  obtain ⟨tokens', scanned', computed⟩ := Option.bind_eq_some_iff.mp computed
  obtain ⟨checked, accepted, computed⟩ := Option.bind_eq_some_iff.mp computed
  obtain ⟨checked', accepted', computed⟩ := Option.map_eq_some_iff.mp computed
  obtain ⟨same, fails⟩ := Prod.mk.inj computed
  obtain ⟨fails, fails'⟩ := Prod.mk.inj fails
  have same := of_decide_eq_true same
  have scanned := eq_ok_of_toOption scanned
  have scanned' := eq_ok_of_toOption scanned'
  have accepted := eq_ok_of_toOption accepted
  have accepted' := eq_ok_of_toOption accepted'
  have alike := Program.check_of_same_words scanned scanned' same "crowded" "spread"
  rw [accepted, accepted'] at alike
  cases alike with
  | ok holds =>
      exact ⟨tokens, tokens', checked, checked', scanned, scanned', same, accepted, accepted',
        holds.1, holds.2 9 .unlimited, fails, fails'⟩

end ScriptLang
