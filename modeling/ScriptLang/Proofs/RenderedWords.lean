import ScriptLang.Proofs.Rendering

/-!
The words of a canonical tree are well formed, so that the scanner finds each of them again.
-/

namespace ScriptLang

def AllWellFormed (words : List Word) : Prop :=
  ∀ word ∈ words, word.WellFormed

theorem allWellFormed_nil : AllWellFormed [] :=
  fun _ member => absurd member List.not_mem_nil

theorem allWellFormed_cons {word : Word} {words : List Word} :
    AllWellFormed (word :: words) ↔ word.WellFormed ∧ AllWellFormed words :=
  List.forall_mem_cons

theorem allWellFormed_append {words others : List Word} :
    AllWellFormed (words ++ others) ↔ AllWellFormed words ∧ AllWellFormed others :=
  List.forall_mem_append

theorem allWellFormed_flatMap {α : Type} {good : α → Prop} {words : α → List Word}
    (each : ∀ value, good value → AllWellFormed (words value)) {values : List α}
    (holds : ∀ value ∈ values, good value) : AllWellFormed (values.flatMap words) := by
  intro word member
  obtain ⟨value, isValue, inWords⟩ := List.mem_flatMap.mp member
  exact each value (holds value isValue) word inWords

theorem Word.fixed_wellFormed {kind : Kind} (isFixed : kind.spelling?.isSome = true) :
    (Word.fixed kind).WellFormed := by
  cases kind with
  | eof | identifier | integer | decimal | character | string => cases isFixed
  | _ => rfl

theorem Word.name_wellFormed {name : String} (isName : IsName name) :
    (Word.name name).WellFormed :=
  isName

theorem Literal.word_wellFormed {value : Literal} (canonical : value.Canonical) :
    value.word.WellFormed := by
  cases value with
  | nil => exact Word.fixed_wellFormed rfl
  | boolean truth =>
      cases truth with
      | true => exact Word.fixed_wellFormed rfl
      | false => exact Word.fixed_wellFormed rfl
  | character c => exact ⟨c, String.toList_singleton c⟩
  | string text => trivial
  | integer n =>
      change IsDigits (Value.integer n).display.toList
      rw [Value.display_integer canonical]
      exact isDigits_toDigits _
  | decimal d =>
      obtain ⟨nonnegative, positive, inRange⟩ := canonical
      obtain ⟨whole, fraction, wholeDigits, fractionDigits, textEq, _⟩ :=
        Value.display_decimal nonnegative positive inRange
      exact ⟨whole, fraction, wholeDigits, fractionDigits, textEq⟩

theorem BinaryOp.word_wellFormed (op : BinaryOp) : (Word.fixed op.kind).WellFormed := by
  cases op with
  | _ => exact Word.fixed_wellFormed rfl

mutual

theorem Expr.words_wellFormed (e : Expr) {bound : Nat} (canonical : e.Canonical bound) :
    AllWellFormed e.words := by
  cases e with
  | literal value span ty =>
      simp only [Expr.words, allWellFormed_cons]
      exact ⟨Literal.word_wellFormed canonical.1, allWellFormed_nil⟩
  | group inner span ty =>
      simp only [Expr.words, allWellFormed_cons, allWellFormed_append]
      exact ⟨Word.fixed_wellFormed rfl, inner.words_wellFormed canonical.1,
        Word.fixed_wellFormed rfl, allWellFormed_nil⟩
  | binary op left right span ty =>
      simp only [Expr.words, allWellFormed_cons, allWellFormed_append]
      exact ⟨left.words_wellFormed canonical.2.1, op.word_wellFormed,
        right.words_wellFormed canonical.2.2.1⟩
  | access name span ty target =>
      simp only [Expr.words, allWellFormed_cons]
      exact ⟨Word.name_wellFormed canonical.1, allWellFormed_nil⟩
  | element name index span ty target =>
      simp only [Expr.words, allWellFormed_cons, allWellFormed_append]
      exact ⟨Word.name_wellFormed canonical.1, Word.fixed_wellFormed rfl,
        index.words_wellFormed canonical.2.1, Word.fixed_wellFormed rfl, allWellFormed_nil⟩
  | call name arguments span ty callee =>
      simp only [Expr.words, allWellFormed_cons, allWellFormed_append]
      exact ⟨Word.name_wellFormed canonical.1, Word.fixed_wellFormed rfl,
        itemWords_wellFormed arguments canonical.2.1, Word.fixed_wellFormed rfl,
        allWellFormed_nil⟩
  | list elements span ty => exact canonical.elim

theorem itemWords_wellFormed (es : List Expr) (canonical : AllCanonical es) :
    AllWellFormed (itemWords es) := by
  cases es with
  | nil => exact allWellFormed_nil
  | cons first rest =>
      simp only [itemWords, allWellFormed_append]
      exact ⟨first.words_wellFormed canonical.1, moreItemWords_wellFormed rest canonical.2⟩

theorem moreItemWords_wellFormed (es : List Expr) (canonical : AllCanonical es) :
    AllWellFormed (moreItemWords es) := by
  cases es with
  | nil => exact allWellFormed_nil
  | cons first rest =>
      simp only [moreItemWords, allWellFormed_cons, allWellFormed_append]
      exact ⟨Word.fixed_wellFormed rfl, first.words_wellFormed canonical.1,
        moreItemWords_wellFormed rest canonical.2⟩

end

theorem typeWords_wellFormed {typeName : Option String} (canonical : OptionName typeName) :
    AllWellFormed (typeWords typeName) := by
  cases typeName with
  | none => exact allWellFormed_nil
  | some name =>
      simp only [typeWords, allWellFormed_cons]
      exact ⟨Word.fixed_wellFormed rfl, Word.name_wellFormed (canonical name rfl),
        allWellFormed_nil⟩

theorem initializerWords_wellFormed {value : Option Expr} (canonical : OptionCanonical value) :
    AllWellFormed (initializerWords value) := by
  cases value with
  | none => exact allWellFormed_nil
  | some e =>
      simp only [initializerWords, allWellFormed_cons]
      exact ⟨Word.fixed_wellFormed rfl, e.words_wellFormed (canonical e rfl)⟩

theorem alternativeWords_wellFormed {b : List Stmt} (block : AllWellFormed (blockWords b)) :
    AllWellFormed (alternativeWords b) := by
  cases b with
  | nil =>
      rw [alternativeWords]
      exact allWellFormed_nil
  | cons first rest =>
      rw [blockWords] at block
      rw [alternativeWords]
      exact allWellFormed_cons.mpr ⟨Word.fixed_wellFormed rfl, block⟩

mutual

theorem Stmt.words_wellFormed (s : Stmt) (canonical : s.Canonical) : AllWellFormed s.words := by
  cases s with
  | expression value span =>
      simp only [Stmt.words, allWellFormed_append, allWellFormed_cons]
      exact ⟨value.words_wellFormed canonical, Word.fixed_wellFormed rfl, allWellFormed_nil⟩
  | declaration name typeName value span target =>
      obtain ⟨isName, isType, initial, _⟩ := canonical
      simp only [Stmt.words, allWellFormed_append, allWellFormed_cons]
      exact ⟨Word.fixed_wellFormed rfl, Word.name_wellFormed isName,
        typeWords_wellFormed isType, initializerWords_wellFormed initial,
        Word.fixed_wellFormed rfl, allWellFormed_nil⟩
  | assignment receiver value span =>
      simp only [Stmt.words, allWellFormed_append, allWellFormed_cons]
      exact ⟨receiver.words_wellFormed canonical.1, Word.fixed_wellFormed rfl,
        value.words_wellFormed canonical.2, Word.fixed_wellFormed rfl, allWellFormed_nil⟩
  | conditional condition thenBlock elseBlock span =>
      obtain ⟨test, thenCanonical, elseCanonical⟩ := canonical
      have elseWellFormed := blockWords_wellFormed elseBlock elseCanonical
      simp only [Stmt.words, allWellFormed_append, allWellFormed_cons]
      exact ⟨Word.fixed_wellFormed rfl, condition.words_wellFormed test,
        Word.fixed_wellFormed rfl, blockWords_wellFormed thenBlock thenCanonical,
        alternativeWords_wellFormed elseWellFormed, Word.fixed_wellFormed rfl,
        allWellFormed_nil⟩
  | switch condition cases span =>
      simp only [Stmt.words, allWellFormed_append, allWellFormed_cons]
      exact ⟨Word.fixed_wellFormed rfl, condition.words_wellFormed canonical.1,
        caseWords_wellFormed cases canonical.2, Word.fixed_wellFormed rfl, allWellFormed_nil⟩
  | loop condition body span =>
      simp only [Stmt.words, allWellFormed_append, allWellFormed_cons]
      exact ⟨Word.fixed_wellFormed rfl, condition.words_wellFormed canonical.1,
        Word.fixed_wellFormed rfl, blockWords_wellFormed body canonical.2,
        Word.fixed_wellFormed rfl, allWellFormed_nil⟩
  | result value span =>
      simp only [Stmt.words, allWellFormed_append, allWellFormed_cons]
      exact ⟨Word.fixed_wellFormed rfl, value.words_wellFormed canonical,
        Word.fixed_wellFormed rfl, allWellFormed_nil⟩

theorem blockWords_wellFormed (b : List Stmt) (canonical : BlockCanonical b) :
    AllWellFormed (blockWords b) := by
  cases b with
  | nil =>
      rw [blockWords]
      exact allWellFormed_nil
  | cons first rest =>
      simp only [blockWords, allWellFormed_append]
      exact ⟨first.words_wellFormed canonical.1, blockWords_wellFormed rest canonical.2⟩

theorem caseWords_wellFormed (cs : List Case) (canonical : CasesCanonical cs) :
    AllWellFormed (caseWords cs) := by
  cases cs with
  | nil => exact canonical.elim
  | cons first rest =>
      obtain ⟨value, body, span⟩ := first
      cases value with
      | none =>
          obtain ⟨bodyCanonical, rfl⟩ := canonical
          simp only [caseWords, allWellFormed_append, allWellFormed_cons]
          exact ⟨⟨Word.fixed_wellFormed rfl, blockWords_wellFormed body bodyCanonical⟩,
            allWellFormed_nil⟩
      | some value =>
          obtain ⟨valueCanonical, bodyCanonical, restCanonical⟩ := canonical
          simp only [caseWords, allWellFormed_append, allWellFormed_cons]
          exact ⟨⟨Word.fixed_wellFormed rfl, value.words_wellFormed valueCanonical,
              Word.fixed_wellFormed rfl, blockWords_wellFormed body bodyCanonical⟩,
            caseWords_wellFormed rest restCanonical⟩

end

theorem GlobalDecl.words_wellFormed (global : GlobalDecl) (canonical : global.Canonical) :
    AllWellFormed global.words := by
  cases canonical with
  | list isName isType each =>
      simp only [GlobalDecl.words, typeWords, initializerWords, Expr.words,
        allWellFormed_append, allWellFormed_cons]
      exact ⟨Word.fixed_wellFormed rfl, Word.name_wellFormed isName,
        ⟨⟨Word.fixed_wellFormed rfl, Word.name_wellFormed isType, allWellFormed_nil⟩,
          Word.fixed_wellFormed rfl, Word.fixed_wellFormed rfl, itemWords_wellFormed _ each,
          Word.fixed_wellFormed rfl, allWellFormed_nil⟩,
        Word.fixed_wellFormed rfl, allWellFormed_nil⟩
  | mutable isName isType initial =>
      simp only [GlobalDecl.words, allWellFormed_append, allWellFormed_cons]
      exact ⟨Word.fixed_wellFormed rfl, Word.name_wellFormed isName,
        ⟨typeWords_wellFormed isType, initializerWords_wellFormed initial⟩,
        Word.fixed_wellFormed rfl, allWellFormed_nil⟩
  | immutable isName isType initial =>
      simp only [GlobalDecl.words, initializerWords, allWellFormed_append, allWellFormed_cons]
      exact ⟨Word.fixed_wellFormed rfl, Word.name_wellFormed isName,
        ⟨typeWords_wellFormed isType, Word.fixed_wellFormed rfl, Expr.words_wellFormed _ initial⟩,
        Word.fixed_wellFormed rfl, allWellFormed_nil⟩

theorem Parameter.words_wellFormed (parameter : Parameter) (canonical : parameter.Canonical) :
    AllWellFormed parameter.words := by
  simp only [Parameter.words, allWellFormed_cons]
  exact ⟨Word.name_wellFormed canonical.isName, Word.fixed_wellFormed rfl,
    Word.name_wellFormed canonical.isType, allWellFormed_nil⟩

theorem parameterWords_wellFormed {parameters : List Parameter}
    (canonical : ∀ parameter ∈ parameters, parameter.Canonical) :
    AllWellFormed (parameterWords parameters) := by
  cases parameters with
  | nil => exact allWellFormed_nil
  | cons first rest =>
      obtain ⟨firstCanonical, restCanonical⟩ := List.forall_mem_cons.mp canonical
      rw [parameterWords, allWellFormed_append]
      refine ⟨first.words_wellFormed firstCanonical, ?_⟩
      exact allWellFormed_flatMap (fun parameter isParameter => allWellFormed_cons.mpr
        ⟨Word.fixed_wellFormed rfl, parameter.words_wellFormed isParameter⟩) restCanonical

theorem FunctionDecl.words_wellFormed (function : FunctionDecl)
    (canonical : function.Canonical) : AllWellFormed function.words := by
  simp only [FunctionDecl.words, allWellFormed_append, allWellFormed_cons]
  exact ⟨Word.fixed_wellFormed rfl, Word.name_wellFormed canonical.isName,
    Word.fixed_wellFormed rfl, parameterWords_wellFormed canonical.parameters,
    Word.fixed_wellFormed rfl, typeWords_wellFormed canonical.isType, Word.fixed_wellFormed rfl,
    blockWords_wellFormed function.body canonical.body, Word.fixed_wellFormed rfl,
    allWellFormed_nil⟩

theorem Source.words_wellFormed {source : Source} (canonical : source.Canonical) :
    AllWellFormed source.words :=
  allWellFormed_append.mpr
    ⟨allWellFormed_flatMap GlobalDecl.words_wellFormed canonical.globals,
      allWellFormed_flatMap FunctionDecl.words_wellFormed canonical.functions⟩

end ScriptLang
