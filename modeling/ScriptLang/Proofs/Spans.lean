import ScriptLang.Proofs.Excerpts
import ScriptLang.Proofs.Nodes
import ScriptLang.Proofs.Plain
import ScriptLang.Proofs.ReadTrees

/-!
Spans of read trees are exact.

Every node of a tree that is read from a text spans the tokens that it was built from: these and no
others.  Spans are therefore nested as the nodes are, and an expression can be cut out of the text
along its span.  Cut out it reads as the same expression, but for lists, which are no expressions
where they stand on their own.
-/

namespace ScriptLang

/-- The node is built from tokens that stand together and spans them from the first to the last one;
its children lie in that span, one behind the other. -/
structure Node.SpansExactly (tokens : List Token) (node : Node) : Prop where
  built : ∃ ts first last, ts <:+: tokens ∧ NodeSpelled node ts ∧ ts.head? = some first ∧
    ts.getLast? = some last ∧ node.span = { start := first.span.start, stop := last.span.stop }
  within : ∀ child ∈ node.children, child.span.Within node.span
  ordered : node.children.Pairwise fun first second => first.span.Before second.span

theorem NodeSpelled.spansExactly {node : Node} {tokens ts : List Token}
    (arranged : Token.Arranged tokens) (isInfix : ts <:+: tokens) (spelled : NodeSpelled node ts) :
    node.SpansExactly tokens := by
  obtain ⟨first, last, isFirst, isLast, coverEq⟩ := Token.cover_eq spelled.ne_nil
  have arrangedHere := arranged.of_infix isInfix
  have spanEq := spelled.span_eq_cover
  refine ⟨⟨ts, first, last, isInfix, spelled, isFirst, isLast, spanEq.trans coverEq⟩, ?_,
    spelled.children_laid.ordered arrangedHere⟩
  rw [spanEq]
  exact spelled.children_laid.within arrangedHere

/-- Every node of a tree that is read spans the tokens it is built from, nodes that stand side by
side do not overlap, and the bytes that an expression other than a list spans read as that
expression. -/
theorem Source.spans_exact {text : String} {tree : Source}
    (parsed : Source.parse text = .ok tree) :
    ∃ tokens, Token.scan text = .ok (tokens ++ [Token.endOfSource text.utf8ByteSize]) ∧
      (∀ node, tree.HasNode node → node.SpansExactly tokens) ∧
      (tree.roots.Pairwise fun first second => first.span.Before second.span) ∧
      ∀ e, tree.HasNode (.expression e) → e.isListLiteral = false → e.ReadsAlone text.toList := by
  obtain ⟨tokens, scanned, passes, spelled⟩ := Source.passes_of_parse parsed
  have arranged : Token.Arranged tokens := (passes.tiles [] rfl).arranged
  refine ⟨tokens, scanned, ?_, spelled.roots_laid.ordered arranged, ?_⟩
  · intro node has
    obtain ⟨ts, isInfix, built⟩ := spelled.node_built has
    exact built.spansExactly arranged isInfix
  · intro e has notList
    obtain ⟨ts, ⟨earlier, later, tokensEq⟩, built⟩ := spelled.node_built has
    rw [← tokensEq, List.append_assoc] at passes
    cases built with
    | expression spelled => exact spelled.readsAlone passes
    | list => cases notList

/-- A product behind a comment with a character of two bytes, and a space before its last token. -/
def spannedText : String :=
  "// é\nVAL k: Integer = (1 + 2) * 3 ;"

/-- The global spans all but the comment, its value the eleven bytes of the product. -/
theorem Source.spans_exact_product :
    ∃ tree global e tokens, Source.parse spannedText = .ok tree ∧ global ∈ tree.globals ∧
      global.value = some e ∧ global.span = { start := 6, stop := 36 } ∧
      e.span = { start := 23, stop := 34 } ∧ (Node.global global).SpansExactly tokens ∧
      e.ReadsAlone spannedText.toList := by
  have computed : ((Source.parse spannedText).toOption.bind fun tree =>
      tree.globals.head?.bind fun global => global.value.map fun e =>
        (global.span, e.span, e.isListLiteral)) = some (⟨6, 36⟩, ⟨23, 34⟩, false) := by
    decide +kernel
  obtain ⟨tree, found, computed⟩ := Option.bind_eq_some_iff.mp computed
  obtain ⟨global, first, computed⟩ := Option.bind_eq_some_iff.mp computed
  obtain ⟨e, initial, seen⟩ := Option.map_eq_some_iff.mp computed
  obtain ⟨globalSpan, seen⟩ := Prod.mk.inj seen
  obtain ⟨valueSpan, notList⟩ := Prod.mk.inj seen
  have parsed := eq_ok_of_toOption found
  have member := List.mem_of_mem_head? first
  obtain ⟨tokens, _, exactly, _, alone⟩ := Source.spans_exact parsed
  have hasGlobal : tree.HasNode (.global global) :=
    ⟨_, List.mem_append_left _ (List.mem_map_of_mem member), .refl⟩
  have hasValue : tree.HasNode (.expression e) := by
    refine ⟨_, List.mem_append_left _ (List.mem_map_of_mem member), .single ?_⟩
    exact List.mem_map_of_mem (Option.mem_toList.mpr initial)
  exact ⟨tree, global, e, tokens, parsed, member, initial, globalSpan, valueSpan,
    exactly _ hasGlobal, alone e hasValue notList⟩

end ScriptLang
