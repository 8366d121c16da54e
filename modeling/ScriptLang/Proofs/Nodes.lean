import Mathlib.Logic.Relation
import ScriptLang.Proofs.Spelled
import ScriptLang.Proofs.Tiling

/-!
Nodes of trees and the tokens that they are built from.

A node is built from tokens that stand together, and its children from parts of these that stand one
behind the other.  So where tokens follow each other in a text, a node spans its tokens from the
first to the last one, its children lie in that span, and none of them overlaps another one.
-/

namespace ScriptLang

open Relation (ReflTransGen)

/-- The nodes of a tree that have a span, but for the tree itself. -/
inductive Node where
  | expression (e : Expr)
  | statement (s : Stmt)
  | case (c : Case)
  | global (g : GlobalDecl)
  | function (f : FunctionDecl)

def Expr.children : Expr → List Expr
  | .literal _ _ _ | .access _ _ _ _ => []
  | .group inner _ _ => [inner]
  | .binary _ left right _ _ => [left, right]
  | .element _ index _ _ _ => [index]
  | .call _ arguments _ _ _ => arguments
  | .list elements _ _ => elements

namespace Node

def span : Node → Span
  | expression e => e.span
  | statement s => s.span
  | case c => c.span
  | global g => g.span
  | function f => f.span

/-- The nodes directly below one, in the order in which they are written. -/
def children : Node → List Node
  | expression e => e.children.map expression
  | statement (.expression value _) | statement (.result value _) => [expression value]
  | statement (.declaration _ _ value _ _) => value.toList.map expression
  | statement (.assignment receiver value _) => [expression receiver, expression value]
  | statement (.conditional test thenBlock elseBlock _) =>
      expression test :: (thenBlock.map statement ++ elseBlock.map statement)
  | statement (.switch subject cases _) => expression subject :: cases.map case
  | statement (.loop test body _) => expression test :: body.map statement
  | case (.mk value body _) => value.toList.map expression ++ body.map statement
  | global g => g.value.toList.map expression
  | function f => f.body.map statement

end Node

def Source.roots (source : Source) : List Node :=
  source.globals.map .global ++ source.functions.map .function

/-- The node is a declaration of the program, or it is somewhere below one. -/
def Source.HasNode (source : Source) (node : Node) : Prop :=
  ∃ root ∈ source.roots, ReflTransGen (fun outer inner => inner ∈ outer.children) root node

/-! ### Tokens of nodes -/

/-- The node is what the tokens say. -/
inductive NodeSpelled : Node → List Token → Prop where
  | expression {e : Expr} {ts : List Token} (spelled : Spelled (.expression 0 e) ts) :
      NodeSpelled (.expression e) ts
  | list {opening closing : Token} {elements : List Expr} {ts : List Token}
      (opens : opening.kind = .openBracket) (inner : Spelled (.items elements) ts)
      (closes : closing.kind = .closeBracket) :
      NodeSpelled
        (.expression (.list elements (Token.cover (opening :: (ts ++ [closing]))) none))
        (opening :: (ts ++ [closing]))
  | statement {s : Stmt} {ts : List Token} (spelled : Spelled (.statement s) ts) :
      NodeSpelled (.statement s) ts
  | defaultCase {word : Token} {body : List Stmt} {ts : List Token}
      (isWord : word.kind = .defaultWord) (bodySpelled : Spelled (.block body) ts) :
      NodeSpelled (.case (.mk none body (Token.cover (word :: ts)))) (word :: ts)
  | case {word colon : Token} {value : Expr} {body : List Stmt} {ts us : List Token}
      (isWord : word.kind = .caseWord) (valueSpelled : Spelled (.expression 0 value) ts)
      (isColon : colon.kind = .colon) (bodySpelled : Spelled (.block body) us) :
      NodeSpelled
        (.case (.mk (some value) body (Token.cover (word :: (ts ++ colon :: us)))))
        (word :: (ts ++ colon :: us))
  | global {g : GlobalDecl} {ts : List Token} (spelled : GlobalSpelled g ts) :
      NodeSpelled (.global g) ts
  | function {f : FunctionDecl} {ts : List Token} (spelled : FunctionSpelled f ts) :
      NodeSpelled (.function f) ts

namespace NodeSpelled

variable {node : Node} {ts : List Token}

theorem ne_nil (spelled : NodeSpelled node ts) : ts ≠ [] := by
  cases spelled with
  | expression spelled => exact spelled.expression_ne_nil
  | statement spelled => exact spelled.statement_ne_nil
  | global spelled => exact spelled.ne_nil
  | function spelled => exact spelled.ne_nil
  | _ => exact List.cons_ne_nil _ _

theorem span_eq_cover (spelled : NodeSpelled node ts) : node.span = Token.cover ts := by
  cases spelled with
  | expression spelled => exact spelled.span_eq_cover
  | statement spelled => cases spelled with | _ => rfl
  | global spelled => cases spelled with | _ => rfl
  | function spelled => cases spelled with | _ => rfl
  | _ => rfl

end NodeSpelled

/-- The nodes are spelled by parts of the tokens, which stand there in the order of the nodes. -/
inductive NodesLaid : List Node → List Token → Prop where
  | nil (ts : List Token) : NodesLaid [] ts
  | cons {node : Node} {nodes : List Node} {ts us : List Token} (gap : List Token)
      (spelled : NodeSpelled node ts) (others : NodesLaid nodes us) :
      NodesLaid (node :: nodes) (gap ++ (ts ++ us))

namespace NodesLaid

variable {node : Node} {nodes others : List Node} {ts us : List Token}

theorem behind (gap : List Token) (laid : NodesLaid nodes ts) : NodesLaid nodes (gap ++ ts) := by
  cases laid with
  | nil => exact .nil _
  | cons inner spelled others =>
      rw [← List.append_assoc]
      exact .cons _ spelled others

theorem behind_token (token : Token) (laid : NodesLaid nodes ts) :
    NodesLaid nodes (token :: ts) :=
  laid.behind [token]

theorem append (laid : NodesLaid nodes ts) (othersLaid : NodesLaid others us) :
    NodesLaid (nodes ++ others) (ts ++ us) := by
  induction laid with
  | nil ts => exact othersLaid.behind ts
  | cons gap spelled _ inductionHypothesis =>
      rw [List.append_assoc, List.append_assoc, List.cons_append]
      exact .cons gap spelled inductionHypothesis

theorem followed (laid : NodesLaid nodes ts) (us : List Token) : NodesLaid nodes (ts ++ us) := by
  have followed := laid.append (.nil us)
  rwa [List.append_nil] at followed

theorem single (spelled : NodeSpelled node ts) : NodesLaid [node] ts := by
  have laid := NodesLaid.cons [] spelled (.nil [])
  rwa [List.append_nil] at laid

end NodesLaid

/-! ### Children among the tokens of their parents -/

def Piece.nodes : Piece → List Node
  | .expression _ e => [.expression e]
  | .items es | .moreItems es => es.map .expression
  | .initializer value => value.toList.map .expression
  | .statement s => [.statement s]
  | .block b | .alternative b => b.map .statement
  | .cases cs => cs.map .case

open NodesLaid in
theorem Spelled.laid {piece : Piece} {ts : List Token} (spelled : Spelled piece ts) :
    NodesLaid piece.nodes ts := by
  induction spelled with
  | literal reads => exact single (.expression (.literal reads))
  | access isName => exact single (.expression (.access isName))
  | element isName opens closes inner =>
      exact single (.expression (.element isName opens closes inner))
  | call isName opens closes inner =>
      exact single (.expression (.call isName opens closes inner))
  | group opens closes inner => exact single (.expression (.group opens closes inner))
  | binary isOp binds left right =>
      exact single (.expression (Spelled.weaken (.binary isOp binds left right) (Nat.zero_le _)))
  | noItems | noMoreItems | noInitializer | noStatements | noAlternative => exact .nil _
  | items _ _ first others => exact first.append others
  | moreItems _ _ _ first others => exact (first.append others).behind_token _
  | initializer _ _ value => exact value.behind_token _
  | statements _ _ first others => exact first.append others
  | alternative _ _ body => exact body.behind_token _
  | defaultCase isWord bodySpelled => exact single (.defaultCase isWord bodySpelled)
  | case isWord valueSpelled isColon bodySpelled _ _ _ others =>
      exact (single (.case isWord valueSpelled isColon bodySpelled)).append others
  | declaration isWord isName typeMark initial ends =>
      exact single (.statement (.declaration isWord isName typeMark initial ends))
  | expressionStatement spelled ends =>
      exact single (.statement (.expressionStatement spelled ends))
  | assignment receiver isEquals value ends =>
      exact single (.statement (.assignment receiver isEquals value ends))
  | conditional isWord test isDo thenSpelled elseSpelled isEnd =>
      exact single (.statement (.conditional isWord test isDo thenSpelled elseSpelled isEnd))
  | switch isWord subject cases isEnd =>
      exact single (.statement (.switch isWord subject cases isEnd))
  | loop isWord test isDo body isEnd =>
      exact single (.statement (.loop isWord test isDo body isEnd))
  | result isWord spelled ends => exact single (.statement (.result isWord spelled ends))

open NodesLaid in
theorem Spelled.children_laid_expression {bound : Nat} {e : Expr} {ts : List Token}
    (spelled : Spelled (.expression bound e) ts) : NodesLaid (Node.expression e).children ts := by
  cases spelled with
  | literal | access => exact .nil _
  | element isName opens closes inner =>
      exact ((inner.laid.followed _).behind_token _).behind_token _
  | call isName opens closes inner =>
      exact ((inner.laid.followed _).behind_token _).behind_token _
  | group opens closes inner => exact (inner.laid.followed _).behind_token _
  | binary isOp binds left right =>
      exact left.laid.append (right.laid.behind_token _)

open NodesLaid in
theorem Spelled.children_laid_statement {s : Stmt} {ts : List Token}
    (spelled : Spelled (.statement s) ts) : NodesLaid (Node.statement s).children ts := by
  cases spelled with
  | declaration isWord isName typeMark initial ends =>
      exact (((initial.laid.followed _).behind _).behind_token _).behind_token _
  | expressionStatement value ends => exact value.laid.followed _
  | assignment receiver isEquals value ends =>
      exact receiver.laid.append ((value.laid.followed _).behind_token _)
  | conditional isWord test isDo thenSpelled elseSpelled isEnd =>
      refine (test.laid.append (.behind_token _ ?_)).behind_token _
      exact thenSpelled.laid.append (elseSpelled.laid.followed _)
  | switch isWord subject cases isEnd =>
      exact (subject.laid.append (cases.laid.followed _)).behind_token _
  | loop isWord test isDo body isEnd =>
      exact (test.laid.append ((body.laid.followed _).behind_token _)).behind_token _
  | result isWord value ends => exact (value.laid.followed _).behind_token _

theorem GlobalSpelled.children_laid {g : GlobalDecl} {ts : List Token}
    (spelled : GlobalSpelled g ts) : NodesLaid (Node.global g).children ts := by
  cases spelled with
  | @mk word name semicolon typeName value ts isName body ends =>
      have laid : NodesLaid (value.toList.map Node.expression) ts := by
        generalize word.kind = kind at body
        cases body with
        | list isColon isType isEquals opens inner closes =>
            have list := NodesLaid.single (.list opens inner closes)
            exact ((list.behind_token _).behind_token _).behind_token _
        | mutable typeMark initial => exact initial.laid.behind _
        | immutable typeMark isEquals initial => exact (initial.laid.behind_token _).behind _
      exact ((laid.followed _).behind_token _).behind_token _

theorem FunctionSpelled.children_laid {f : FunctionDecl} {ts : List Token}
    (spelled : FunctionSpelled f ts) : NodesLaid (Node.function f).children ts := by
  cases spelled with
  | mk isWord isName opens inner closes typeMark isDo bodySpelled isEnd =>
      refine .behind_token _ (.behind_token _ (.behind_token _ (.behind _ ?_)))
      exact (((bodySpelled.laid.followed _).behind_token _).behind _).behind_token _

theorem NodeSpelled.children_laid {node : Node} {ts : List Token} (spelled : NodeSpelled node ts) :
    NodesLaid node.children ts := by
  cases spelled with
  | expression spelled => exact spelled.children_laid_expression
  | list opens inner closes => exact (inner.laid.followed _).behind_token _
  | statement spelled => exact spelled.children_laid_statement
  | defaultCase isWord body => exact body.laid.behind_token _
  | case isWord value isColon body =>
      exact (value.laid.append (body.laid.behind_token _)).behind_token _
  | global spelled => exact spelled.children_laid
  | function spelled => exact spelled.children_laid

theorem EachSpelled.laid {α : Type} {spelled : α → List Token → Prop} {node : α → Node}
    (each : ∀ value ts, spelled value ts → NodeSpelled (node value) ts) {values : List α}
    {ts : List Token} (allSpelled : EachSpelled spelled values ts) :
    NodesLaid (values.map node) ts := by
  induction allSpelled with
  | nil => exact .nil _
  | cons first _ inductionHypothesis =>
      exact (NodesLaid.single (each _ _ first)).append inductionHypothesis

theorem SourceSpelled.roots_laid {source : Source} {ts : List Token}
    (spelled : SourceSpelled source ts) : NodesLaid source.roots ts := by
  cases spelled with
  | mk globals functions =>
      have globalsLaid := globals.laid fun _ _ spelled => NodeSpelled.global spelled
      have functionsLaid := functions.laid fun _ _ spelled => NodeSpelled.function spelled
      exact globalsLaid.append functionsLaid

/-! ### Spans of nodes -/

def Span.Within (inner outer : Span) : Prop :=
  outer.start ≤ inner.start ∧ inner.stop ≤ outer.stop

namespace Token

structure Arranged (tokens : List Token) : Prop where
  ordered : tokens.Pairwise fun first second => first.span.Before second.span
  forward : ∀ token ∈ tokens, token.span.start ≤ token.span.stop

theorem Tiles.arranged {text : List Char} {range : Span} {tokens : List Token}
    (tiles : Tiles text range tokens) : Arranged tokens where
  ordered := tiles.ordered
  forward token member := Nat.le_of_lt (tiles.within token member).2.1

variable {tokens ts us : List Token}

/-- Some tokens are covered from the start of the first one to the end of the last one. -/
theorem cover_eq (nonempty : ts ≠ []) :
    ∃ first last, ts.head? = some first ∧ ts.getLast? = some last ∧
      cover ts = { start := first.span.start, stop := last.span.stop } := by
  refine ⟨ts.head nonempty, ts.getLast nonempty, List.head?_eq_some_head nonempty,
    List.getLast?_eq_some_getLast nonempty, ?_⟩
  unfold cover
  rw [List.head?_eq_some_head nonempty, List.getLast?_eq_some_getLast nonempty]
  rfl

theorem cover_before (nonempty : ts ≠ []) (nonemptyToo : us ≠ [])
    (before : ∀ first ∈ ts, ∀ second ∈ us, first.span.Before second.span) :
    (cover ts).Before (cover us) := by
  obtain ⟨_, last, _, isLast, coverEq⟩ := cover_eq nonempty
  obtain ⟨first, _, isFirst, _, coverEqToo⟩ := cover_eq nonemptyToo
  rw [coverEq, coverEqToo]
  exact before last (List.mem_of_getLast? isLast) first (List.mem_of_head? isFirst)

namespace Arranged

theorem of_infix (arranged : Arranged tokens) (isInfix : ts <:+: tokens) : Arranged ts where
  ordered := arranged.ordered.sublist isInfix.sublist
  forward token member := arranged.forward token (isInfix.subset member)

theorem within_cover (arranged : Arranged tokens) {token : Token} (member : token ∈ tokens) :
    token.span.Within (cover tokens) := by
  obtain ⟨first, last, isFirst, isLast, coverEq⟩ := cover_eq (List.ne_nil_of_mem member)
  rw [coverEq]
  constructor
  · obtain ⟨others, rfl⟩ := List.head?_eq_some_iff.mp isFirst
    rcases List.mem_cons.mp member with rfl | inOthers
    · exact Nat.le_refl _
    · have before := (List.pairwise_cons.mp arranged.ordered).1 token inOthers
      exact Nat.le_trans (arranged.forward first List.mem_cons_self) before
  · obtain ⟨others, rfl⟩ := List.getLast?_eq_some_iff.mp isLast
    rcases List.mem_append.mp member with inOthers | isHere
    · have before := (List.pairwise_append.mp arranged.ordered).2.2 token inOthers last
        List.mem_cons_self
      exact Nat.le_trans before (arranged.forward last (List.mem_append_right _ List.mem_cons_self))
    · cases List.mem_singleton.mp isHere
      exact Nat.le_refl _

theorem cover_within (arranged : Arranged tokens) (nonempty : ts ≠ []) (among : ts ⊆ tokens) :
    (cover ts).Within (cover tokens) := by
  obtain ⟨first, last, isFirst, isLast, coverEq⟩ := cover_eq nonempty
  rw [coverEq]
  exact ⟨(arranged.within_cover (among (List.mem_of_head? isFirst))).1,
    (arranged.within_cover (among (List.mem_of_getLast? isLast))).2⟩

end Arranged
end Token

namespace NodesLaid

variable {nodes : List Node} {ts : List Token}

theorem built (laid : NodesLaid nodes ts) :
    ∀ node ∈ nodes, ∃ us, us <:+: ts ∧ NodeSpelled node us := by
  induction laid with
  | nil => exact List.forall_mem_nil _
  | @cons node nodes ts us gap spelled _ inductionHypothesis =>
      refine List.forall_mem_cons.mpr ⟨⟨ts, ⟨gap, us, List.append_assoc _ _ _⟩, spelled⟩, ?_⟩
      intro other member
      obtain ⟨vs, isInfix, otherSpelled⟩ := inductionHypothesis other member
      have isSuffix : us <:+ gap ++ (ts ++ us) :=
        (List.suffix_append ts us).trans (List.suffix_append gap (ts ++ us))
      exact ⟨vs, isInfix.trans isSuffix.isInfix, otherSpelled⟩

theorem within (laid : NodesLaid nodes ts) (arranged : Token.Arranged ts) :
    ∀ node ∈ nodes, node.span.Within (Token.cover ts) := by
  intro node member
  obtain ⟨us, isInfix, spelled⟩ := laid.built node member
  rw [spelled.span_eq_cover]
  exact arranged.cover_within spelled.ne_nil isInfix.subset

theorem ordered (laid : NodesLaid nodes ts) (arranged : Token.Arranged ts) :
    nodes.Pairwise fun first second => first.span.Before second.span := by
  induction laid with
  | nil => exact .nil
  | @cons node nodes ts us gap spelled others inductionHypothesis =>
      have inner := arranged.of_infix (List.suffix_append gap (ts ++ us)).isInfix
      obtain ⟨_, othersOrdered, between⟩ := List.pairwise_append.mp inner.ordered
      refine .cons ?_ (inductionHypothesis (inner.of_infix (List.suffix_append ts us).isInfix))
      intro other member
      obtain ⟨vs, isInfix, otherSpelled⟩ := others.built other member
      rw [spelled.span_eq_cover, otherSpelled.span_eq_cover]
      refine Token.cover_before spelled.ne_nil otherSpelled.ne_nil ?_
      intro first isFirst second isSecond
      exact between first isFirst second (isInfix.subset isSecond)

end NodesLaid

/-- Every node of a program is built from tokens of it that stand together. -/
theorem SourceSpelled.node_built {source : Source} {ts : List Token}
    (spelled : SourceSpelled source ts) {node : Node} (has : source.HasNode node) :
    ∃ us, us <:+: ts ∧ NodeSpelled node us := by
  obtain ⟨root, isRoot, below⟩ := has
  induction below with
  | refl => exact spelled.roots_laid.built root isRoot
  | tail _ isChild inductionHypothesis =>
      obtain ⟨us, isInfix, parentSpelled⟩ := inductionHypothesis
      obtain ⟨vs, isInner, childSpelled⟩ := parentSpelled.children_laid.built _ isChild
      exact ⟨vs, isInner.trans isInfix, childSpelled⟩

end ScriptLang
