import ScriptLang.Parse.Expression

/-!
The grammar.

A rule says what a symbol of the grammar stands for: tokens and symbols in sequence, in
alternatives, optionally or any number of times.  A list of kinds of tokens is derived from a
phrase when it is one of the lists that the phrase stands for.

    source     ::= global* function* EOF
    global     ::= ( list | mutable | immutable ) ';'
    list       ::= 'LIST' identifier ':' identifier '=' '[' (expression (',' expression)*)? ']'
    mutable    ::= 'VAR' identifier (':' identifier)? ('=' expression)?
    immutable  ::= 'VAL' identifier (':' identifier)? '=' expression
    function   ::= 'FUN' identifier '(' (parameter (',' parameter)*)? ')' (':' identifier)?
                   'DO' block 'END'
    parameter  ::= identifier ':' identifier
    block      ::= statement*
    statement  ::= 'LET' identifier (':' identifier)? ('=' expression)? ';'
                 | 'SWITCH' expression ('CASE' expression ':' block)* 'DEFAULT' block 'END'
                 | 'IF' expression 'DO' block ('ELSE' block)? 'END'
                 | 'WHILE' expression 'DO' block 'END'
                 | 'RETURN' expression ';'
                 | expression ('=' expression)? ';'
    expression ::= logical
    primary    ::= TRUE | FALSE | NIL | integer | decimal | character | string
                 | '(' expression ')' | identifier ('[' expression ']')?
                 | identifier '(' (expression (',' expression)*)? ')'

The four levels of operators group to the left: `logical ::= logical ('&&' | '||') comparison |
comparison`, and so on for comparisons, sums and products down to `primary`.
-/

namespace ScriptLang
namespace Grammar

inductive Symbol where
  | source
  | global
  | list
  | mutable
  | immutable
  | function
  | parameter
  | block
  | statement
  | expression
  | logical
  | comparison
  | additive
  | multiplicative
  | primary
  deriving DecidableEq, Repr

inductive Phrase where
  | token (kind : Kind)
  | symbol (name : Symbol)
  | sequence (parts : List Phrase)
  | choice (first : Phrase) (others : List Phrase)
  | optional (part : Phrase)
  | many (part : Phrase)

namespace Phrase

def separated (part : Phrase) : Phrase :=
  optional (sequence [part, many (sequence [token .comma, part])])

def typeMark : Phrase :=
  optional (sequence [token .colon, token .identifier])

def initializer : Phrase :=
  optional (sequence [token .assignment, symbol .expression])

/-- One case of a switch, but not the default case. -/
def case : Phrase :=
  sequence [token .caseWord, symbol .expression, token .colon, symbol .block]

/-- A level of operators that group to the left, over the next tighter level. -/
def level (this tighter : Symbol) (operator : Phrase) : Phrase :=
  choice (sequence [symbol this, operator, symbol tighter]) [symbol tighter]

end Phrase

open Phrase

/-- The right side of the rule for a symbol. -/
def Symbol.rule : Symbol → Phrase
  | source => sequence [many (symbol global), many (symbol function), token .eof]
  | global =>
      sequence [choice (symbol list) [symbol mutable, symbol immutable], token .semicolon]
  | list =>
      sequence [token .listWord, token .identifier, token .colon, token .identifier,
        token .assignment, token .openBracket, separated (symbol expression),
        token .closeBracket]
  | mutable => sequence [token .varWord, token .identifier, typeMark, initializer]
  | immutable =>
      sequence [token .valWord, token .identifier, typeMark, token .assignment,
        symbol expression]
  | function =>
      sequence [token .funWord, token .identifier, token .openParen,
        separated (symbol parameter), token .closeParen, typeMark, token .doWord,
        symbol block, token .endWord]
  | parameter => sequence [token .identifier, token .colon, token .identifier]
  | block => many (symbol statement)
  | statement =>
      choice
        (sequence [token .letWord, token .identifier, typeMark, initializer,
          token .semicolon])
        [sequence [token .switchWord, symbol expression, many case, token .defaultWord,
            symbol block, token .endWord],
          sequence [token .ifWord, symbol expression, token .doWord, symbol block,
            optional (sequence [token .elseWord, symbol block]), token .endWord],
          sequence [token .whileWord, symbol expression, token .doWord, symbol block,
            token .endWord],
          sequence [token .returnWord, symbol expression, token .semicolon],
          sequence [symbol expression, initializer, token .semicolon]]
  | expression => symbol logical
  | logical => level logical comparison (choice (token .and) [token .or])
  | comparison =>
      level comparison additive
        (choice (token .less) [token .greater, token .equals, token .notEquals])
  | additive => level additive multiplicative (choice (token .plus) [token .dash])
  | multiplicative =>
      level multiplicative primary
        (choice (token .star) [token .slash, token .caret])
  | primary =>
      choice (token .trueWord)
        [token .falseWord, token .nilWord, token .integer, token .decimal, token .character,
          token .string,
          sequence [token .openParen, symbol expression, token .closeParen],
          sequence [token .identifier,
            optional (sequence [token .openBracket, symbol expression, token .closeBracket])],
          sequence [token .identifier, token .openParen, separated (symbol expression),
            token .closeParen]]

/-- The kinds are one of the lists that the phrase stands for. -/
inductive Derives : Phrase → List Kind → Prop where
  | token (kind : Kind) : Derives (.token kind) [kind]
  | symbol {name : Symbol} {kinds : List Kind} (derives : Derives name.rule kinds) :
      Derives (.symbol name) kinds
  | done : Derives (.sequence []) []
  | next {part : Phrase} {parts : List Phrase} {kinds more : List Kind}
      (first : Derives part kinds) (rest : Derives (.sequence parts) more) :
      Derives (.sequence (part :: parts)) (kinds ++ more)
  | choice {first option : Phrase} {others : List Phrase} {kinds : List Kind}
      (member : option ∈ first :: others) (derives : Derives option kinds) :
      Derives (.choice first others) kinds
  | absent {part : Phrase} : Derives (.optional part) []
  | present {part : Phrase} {kinds : List Kind} (derives : Derives part kinds) :
      Derives (.optional part) kinds
  | none {part : Phrase} : Derives (.many part) []
  | again {part : Phrase} {kinds more : List Kind} (first : Derives part kinds)
      (rest : Derives (.many part) more) : Derives (.many part) (kinds ++ more)

namespace Derives

theorem append {firsts seconds : List Phrase} {kinds more : List Kind}
    (first : Derives (.sequence firsts) kinds) (second : Derives (.sequence seconds) more) :
    Derives (.sequence (firsts ++ seconds)) (kinds ++ more) := by
  induction firsts generalizing kinds with
  | nil =>
      cases first
      exact second
  | cons part parts inductionHypothesis =>
      cases first with
      | next first rest =>
          rw [List.append_assoc]
          exact .next first (inductionHypothesis rest)

theorem again_next {part : Phrase} {parts : List Phrase} {kinds more : List Kind}
    (first : Derives part kinds) (rest : Derives (.sequence (.many part :: parts)) more) :
    Derives (.sequence (.many part :: parts)) (kinds ++ more) := by
  cases rest with
  | next repeated rest =>
      rw [← List.append_assoc]
      exact .next (.again first repeated) rest

theorem skip {part : Phrase} {parts : List Phrase} {kinds : List Kind}
    (empty : Derives part []) (rest : Derives (.sequence parts) kinds) :
    Derives (.sequence (part :: parts)) kinds :=
  .next empty rest

theorem split {firsts seconds : List Phrase} {kinds : List Kind}
    (derives : Derives (.sequence (firsts ++ seconds)) kinds) :
    ∃ left right, kinds = left ++ right ∧ Derives (.sequence firsts) left ∧
      Derives (.sequence seconds) right := by
  induction firsts generalizing kinds with
  | nil =>
      exact ⟨[], kinds, rfl, .done, derives⟩
  | cons part parts inductionHypothesis =>
      cases derives with
      | next first rest =>
          obtain ⟨left, right, rfl, leftDerives, rightDerives⟩ := inductionHypothesis rest
          exact ⟨_, right, (List.append_assoc ..).symm, .next first leftDerives, rightDerives⟩

theorem present_append (parts others : List Phrase) {kinds : List Kind}
    (derives : Derives (.sequence (parts ++ others)) kinds) :
    Derives (.sequence (.optional (.sequence parts) :: others)) kinds := by
  obtain ⟨left, right, rfl, first, rest⟩ := derives.split
  exact .next (.present first) rest

theorem again_append (parts others : List Phrase) {kinds : List Kind}
    (derives : Derives (.sequence (parts ++ .many (.sequence parts) :: others)) kinds) :
    Derives (.sequence (.many (.sequence parts) :: others)) kinds := by
  obtain ⟨left, right, rfl, first, rest⟩ := derives.split
  exact first.again_next rest

theorem sequence_one {part : Phrase} {kinds : List Kind} :
    Derives (.sequence [part]) kinds ↔ Derives part kinds := by
  constructor
  · intro derives
    cases derives with
    | next first rest =>
        cases rest
        rw [List.append_nil]
        exact first
  · intro derives
    rw [← List.append_nil kinds]
    exact .next derives .done

end Derives

/-! ### Every phrase stands for something -/

theorem Symbol.exists_derives (name : Symbol) : ∃ kinds, Derives (.symbol name) kinds := by
  have primary : Derives (.symbol .primary) [.nilWord] :=
    .symbol (.choice (.tail _ (.tail _ (.head _))) (.token _))
  have multiplicative : Derives (.symbol .multiplicative) [.nilWord] :=
    .symbol (.choice (.tail _ (.head _)) primary)
  have additive : Derives (.symbol .additive) [.nilWord] :=
    .symbol (.choice (.tail _ (.head _)) multiplicative)
  have comparison : Derives (.symbol .comparison) [.nilWord] :=
    .symbol (.choice (.tail _ (.head _)) additive)
  have logical : Derives (.symbol .logical) [.nilWord] :=
    .symbol (.choice (.tail _ (.head _)) comparison)
  have expression : Derives (.symbol .expression) [.nilWord] := .symbol logical
  have block : Derives (.symbol .block) [] := .symbol .none
  have mutable : Derives (.symbol .mutable) [.varWord, .identifier] :=
    .symbol (.next (.token _) (.next (.token _) (.skip .absent (.skip .absent .done))))
  cases name with
  | source => exact ⟨_, .symbol (.skip .none (.skip .none (.next (.token _) .done)))⟩
  | global =>
      exact ⟨_, .symbol (.next (.choice (.tail _ (.head _)) mutable) (.next (.token _) .done))⟩
  | list =>
      exact ⟨_, .symbol (.next (.token _) (.next (.token _) (.next (.token _) (.next (.token _)
        (.next (.token _) (.next (.token _) (.skip .absent (.next (.token _) .done))))))))⟩
  | mutable => exact ⟨_, mutable⟩
  | immutable =>
      exact ⟨_, .symbol (.next (.token _) (.next (.token _) (.skip .absent (.next (.token _)
        (.next expression .done)))))⟩
  | function =>
      exact ⟨_, .symbol (.next (.token _) (.next (.token _) (.next (.token _) (.skip .absent
        (.next (.token _) (.skip .absent (.next (.token _) (.next block
          (.next (.token _) .done)))))))))⟩
  | parameter => exact ⟨_, .symbol (.next (.token _) (.next (.token _) (.next (.token _) .done)))⟩
  | block => exact ⟨_, block⟩
  | statement =>
      exact ⟨_, .symbol (.choice (.tail _ (.tail _ (.tail _ (.tail _ (.head _)))))
        (.next (.token _) (.next expression (.next (.token _) .done))))⟩
  | expression => exact ⟨_, expression⟩
  | logical => exact ⟨_, logical⟩
  | comparison => exact ⟨_, comparison⟩
  | additive => exact ⟨_, additive⟩
  | multiplicative => exact ⟨_, multiplicative⟩
  | primary => exact ⟨_, primary⟩

mutual

theorem Phrase.exists_derives (phrase : Phrase) : ∃ kinds, Derives phrase kinds := by
  cases phrase with
  | token kind => exact ⟨_, .token kind⟩
  | symbol name => exact name.exists_derives
  | sequence parts => exact exists_derives_sequence parts
  | choice first others =>
      obtain ⟨kinds, derives⟩ := first.exists_derives
      exact ⟨kinds, .choice List.mem_cons_self derives⟩
  | optional part => exact ⟨[], .absent⟩
  | many part => exact ⟨[], .none⟩

theorem Phrase.exists_derives_sequence (parts : List Phrase) :
    ∃ kinds, Derives (.sequence parts) kinds := by
  cases parts with
  | nil => exact ⟨[], .done⟩
  | cons part parts =>
      obtain ⟨kinds, first⟩ := part.exists_derives
      obtain ⟨more, rest⟩ := exists_derives_sequence parts
      exact ⟨kinds ++ more, .next first rest⟩

end

/-! ### Beginnings of derived lists -/

/-- The kinds begin a list that the phrase stands for. -/
def Viable (phrase : Phrase) (kinds : List Kind) : Prop :=
  ∃ more, Derives phrase (kinds ++ more)

namespace Viable

variable {phrase part : Phrase} {parts : List Phrase} {kinds more : List Kind}

theorem nil (phrase : Phrase) : Viable phrase [] :=
  phrase.exists_derives

theorem imp {other : Phrase} (viable : Viable phrase kinds)
    (covers : ∀ kinds, Derives phrase kinds → Derives other kinds) : Viable other kinds := by
  obtain ⟨more, derives⟩ := viable
  exact ⟨more, covers _ derives⟩

theorem first (viable : Viable part kinds) (parts : List Phrase) :
    Viable (.sequence (part :: parts)) kinds := by
  obtain ⟨more, derives⟩ := viable
  obtain ⟨others, rest⟩ := exists_derives_sequence parts
  refine ⟨more ++ others, ?_⟩
  rw [← List.append_assoc]
  exact .next derives rest

theorem next (derives : Derives part kinds) (viable : Viable (.sequence parts) more) :
    Viable (.sequence (part :: parts)) (kinds ++ more) := by
  obtain ⟨others, rest⟩ := viable
  refine ⟨others, ?_⟩
  rw [List.append_assoc]
  exact .next derives rest

theorem append {firsts seconds : List Phrase} (derives : Derives (.sequence firsts) kinds)
    (viable : Viable (.sequence seconds) more) :
    Viable (.sequence (firsts ++ seconds)) (kinds ++ more) := by
  obtain ⟨others, rest⟩ := viable
  refine ⟨others, ?_⟩
  rw [List.append_assoc]
  exact derives.append rest

theorem begin_again (viable : Viable part kinds) : Viable (.many part) kinds := by
  obtain ⟨more, derives⟩ := viable
  have once := Derives.again derives .none
  rw [List.append_nil] at once
  exact ⟨more, once⟩

theorem again (derives : Derives part kinds) (viable : Viable (.many part) more) :
    Viable (.many part) (kinds ++ more) := by
  obtain ⟨others, rest⟩ := viable
  refine ⟨others, ?_⟩
  rw [List.append_assoc]
  exact .again derives rest

end Viable

end Grammar
end ScriptLang
