import ScriptLang.Proofs.Grammar
import ScriptLang.Proofs.Numerals
import ScriptLang.Proofs.Spelled

/-!
What readers read.

A reader of a phrase of the grammar either ends well, and then the tokens it has passed are
derived from the phrase and spell what it yields, or it fails at a token, and then all tokens
before that one begin something that the phrase stands for.  The fuel is never used up.
-/

namespace ScriptLang
namespace Parse

open Grammar

variable {α β : Type}

/-- In front of the given tokens the reader passes some of them.  If it ends well, `good` holds
of its value, the tokens passed and the cursor behind them; if it fails, the fault is at the
current token, and `begun` holds of the tokens passed, at least if the current token has a text
that fits its kind. -/
def Reads (reader : Parse α) (c : Cursor) (good : α → List Token → Cursor → Prop)
    (begun : List Token → Prop) : Prop :=
  Leads reader c (fun value d => ∃ ts, c.Moves ts d ∧ good value ts d)
    fun fault d =>
      fault.offset = d.offset ∧ ∃ ts, c.Moves ts d ∧ (d.current.WellFormed → begun ts)

/-- The reader passes tokens that the phrase stands for, or fails behind tokens that begin
something that the phrase stands for. -/
def ReadsAs (phrase : Phrase) (reader : Parse α) (c : Cursor)
    (good : α → List Token → Cursor → Prop) : Prop :=
  Reads reader c (fun value ts d => Derives phrase (ts.map Token.kind) ∧ good value ts d)
    fun ts => Viable phrase (ts.map Token.kind)

variable {reader : Parse α} {following : α → Parse β} {c : Cursor}
  {good : α → List Token → Cursor → Prop} {best : β → List Token → Cursor → Prop}
  {begun whole : List Token → Prop}

namespace Reads

theorem imp {better : α → List Token → Cursor → Prop} (reads : Reads reader c good begun)
    (whenGood : ∀ value ts d, good value ts d → better value ts d)
    (whenBegun : ∀ ts, begun ts → whole ts) : Reads reader c better whole := by
  apply Leads.imp reads
  · rintro value d ⟨ts, moves, holds⟩
    exact ⟨ts, moves, whenGood value ts d holds⟩
  · rintro fault d ⟨place, ts, moves, begins⟩
    exact ⟨place, ts, moves, fun wellFormed => whenBegun ts (begins wellFormed)⟩

theorem bind (first : Reads reader c good begun) (begins : ∀ ts, begun ts → whole ts)
    (second : ∀ value ts d, c.Moves ts d → good value ts d →
      Reads (following value) d (fun other us e => best other (ts ++ us) e)
        fun us => whole (ts ++ us)) :
    Reads (reader >>= following) c best whole := by
  have widened := first.imp (fun value ts d holds => holds) begins
  apply Leads.bind widened
  rintro value d ⟨ts, moves, holds⟩
  apply Leads.imp (second value ts d moves holds)
  · rintro other e ⟨us, later, holds⟩
    exact ⟨ts ++ us, moves.trans later, holds⟩
  · rintro fault e ⟨place, us, later, begins⟩
    exact ⟨place, ts ++ us, moves.trans later, begins⟩

theorem pure {value : α} (holds : good value [] c) : Reads (Pure.pure value) c good begun :=
  ⟨[], .refl c, holds⟩

theorem failure {fault : Fault} (place : fault.offset = c.offset)
    (begins : c.current.WellFormed → begun []) :
    Reads (throw fault : Parse α) c good begun :=
  ⟨place, [], .refl c, begins⟩

theorem unexpected (begins : begun []) : Reads (unexpected : Parse α) c good begun :=
  ⟨rfl, [], .refl c, fun _ => begins⟩

end Reads

namespace ReadsAs

variable {phrase other part : Phrase} {parts : List Phrase}

theorem imp (reads : ReadsAs phrase reader c good)
    (covers : ∀ kinds, Derives phrase kinds → Derives other kinds) :
    ReadsAs other reader c good :=
  Reads.imp reads (fun _ _ _ holds => ⟨covers _ holds.1, holds.2⟩)
    fun _ viable => viable.imp covers

theorem weaken {better : α → List Token → Cursor → Prop} (reads : ReadsAs phrase reader c good)
    (whenGood : ∀ value ts d, good value ts d → better value ts d) :
    ReadsAs phrase reader c better :=
  Reads.imp reads (fun _ _ _ holds => ⟨holds.1, whenGood _ _ _ holds.2⟩) fun _ viable => viable

theorem behind (before : List Token) (reads : ReadsAs phrase reader c good)
    (covers : ∀ kinds, Derives phrase kinds → Derives other (before.map Token.kind ++ kinds)) :
    Reads reader c
      (fun value ts d => Derives other ((before ++ ts).map Token.kind) ∧ good value ts d)
      fun ts => Viable other ((before ++ ts).map Token.kind) := by
  apply Reads.imp reads
  · rintro value ts d ⟨derives, holds⟩
    rw [List.map_append]
    exact ⟨covers _ derives, holds⟩
  · rintro ts ⟨more, derives⟩
    refine ⟨more, ?_⟩
    rw [List.map_append, List.append_assoc]
    exact covers _ derives

theorem next (first : ReadsAs part reader c good)
    (second : ∀ value ts d, c.Moves ts d → good value ts d →
      ReadsAs (.sequence parts) (following value) d fun later us e => best later (ts ++ us) e) :
    ReadsAs (.sequence (part :: parts)) (reader >>= following) c best := by
  apply Reads.bind first
  · intro ts viable
    exact viable.first parts
  · rintro value ts d moves ⟨derives, holds⟩
    apply Reads.imp (second value ts d moves holds)
    · rintro later us e ⟨rest, holds⟩
      rw [List.map_append]
      exact ⟨.next derives rest, holds⟩
    · intro us viable
      rw [List.map_append]
      exact .next derives viable

theorem append {firsts : List Phrase} (first : ReadsAs (.sequence firsts) reader c good)
    (second : ∀ value ts d, c.Moves ts d → good value ts d →
      ReadsAs (.sequence parts) (following value) d fun later us e => best later (ts ++ us) e) :
    ReadsAs (.sequence (firsts ++ parts)) (reader >>= following) c best := by
  apply Reads.bind first
  · rintro ts ⟨more, derives⟩
    obtain ⟨others, rest⟩ := Phrase.exists_derives_sequence parts
    refine ⟨more ++ others, ?_⟩
    rw [← List.append_assoc]
    exact derives.append rest
  · rintro value ts d moves ⟨derives, holds⟩
    apply Reads.imp (second value ts d moves holds)
    · rintro later us e ⟨rest, holds⟩
      rw [List.map_append]
      exact ⟨derives.append rest, holds⟩
    · intro us viable
      rw [List.map_append]
      exact .append derives viable

theorem last (reads : ReadsAs part reader c good) : ReadsAs (.sequence [part]) reader c good :=
  reads.imp fun _ derives => Derives.sequence_one.mpr derives

theorem skip (empty : Derives part []) (reads : ReadsAs (.sequence parts) reader c good) :
    ReadsAs (.sequence (part :: parts)) reader c good :=
  reads.imp fun _ derives => .skip empty derives

theorem absent {value : α} (holds : good value [] c) :
    ReadsAs (.optional part) (Pure.pure value) c good :=
  Reads.pure ⟨.absent, holds⟩

theorem present (reads : ReadsAs part reader c good) :
    ReadsAs (.optional part) reader c good :=
  reads.imp fun _ derives => .present derives

theorem none {value : α} (holds : good value [] c) :
    ReadsAs (.many part) (Pure.pure value) c good :=
  Reads.pure ⟨.none, holds⟩

theorem again (first : ReadsAs part reader c good)
    (second : ∀ value ts d, c.Moves ts d → good value ts d →
      ReadsAs (.many part) (following value) d fun later us e => best later (ts ++ us) e) :
    ReadsAs (.many part) (reader >>= following) c best := by
  apply Reads.bind first
  · intro ts viable
    exact viable.begin_again
  · rintro value ts d moves ⟨derives, holds⟩
    apply Reads.imp (second value ts d moves holds)
    · rintro later us e ⟨rest, holds⟩
      rw [List.map_append]
      exact ⟨.again derives rest, holds⟩
    · intro us viable
      rw [List.map_append]
      exact .again derives viable

theorem symbol {name : Symbol} (reads : ReadsAs name.rule reader c good) :
    ReadsAs (.symbol name) reader c good :=
  reads.imp fun _ derives => .symbol derives

end ReadsAs

theorem Reads.peek {following : Kind → Parse β}
    (reads : Reads (following c.current.kind) c best whole) :
    Reads (currentKind >>= following) c best whole :=
  reads

theorem ReadsAs.peekToken {phrase : Phrase} {following : Token → Parse β}
    (reads : ReadsAs phrase (following c.current) c best) :
    ReadsAs phrase (currentToken >>= following) c best :=
  reads

theorem ReadsAs.peek {phrase : Phrase} {following : Kind → Parse β}
    (reads : ReadsAs phrase (following c.current.kind) c best) :
    ReadsAs phrase (currentKind >>= following) c best :=
  reads

theorem ReadsAs.map {phrase : Phrase} {make : α → β} (reads : ReadsAs phrase reader c good)
    (holds : ∀ value ts d, c.Moves ts d → good value ts d → best (make value) ts d) :
    ReadsAs phrase (reader >>= fun value => Pure.pure (make value)) c best := by
  apply Reads.bind reads
  · intro ts viable
    exact viable
  · rintro value ts d moves ⟨derives, isGood⟩
    apply Reads.pure
    rw [List.append_nil]
    exact ⟨derives, holds value ts d moves isGood⟩

/-- A tree that spans the tokens read for it is made behind the last of them. -/
theorem ReadsAs.covered {origin : Cursor} {first : Token} {ts : List Token} {make : Span → α}
    (moves : origin.Moves (first :: ts) c) (holds : good (make (Token.cover (first :: ts))) [] c) :
    ReadsAs (.sequence []) (spanFrom first.span.start >>= fun span => Pure.pure (make span)) c
      good := by
  rw [moves.cover_eq] at holds
  exact ⟨[], .refl c, .done, holds⟩

/-! ### Single tokens -/

theorem advance_passes (closed : c.Closed) (notEnd : c.current.kind ≠ .eof) :
    Reads advance c (fun token ts _ => ts = [token] ∧ token.kind = c.current.kind) begun :=
  ⟨[c.current], closed.moves_next notEnd, rfl, rfl⟩

theorem advance_reads {kind : Kind} (closed : c.Closed) (isKind : c.current.kind = kind)
    (notEnd : kind ≠ .eof) :
    ReadsAs (.token kind) advance c fun token ts _ => ts = [token] ∧ token.kind = kind := by
  subst isKind
  exact ⟨[c.current], closed.moves_next notEnd, .token _, rfl, rfl⟩

theorem expectOr_reads {kind : Kind} {detail : String} (closed : c.Closed)
    (notEnd : kind ≠ .eof) :
    ReadsAs (.token kind) (expectOr kind detail) c
      fun token ts _ => ts = [token] ∧ token.kind = kind := by
  unfold expectOr
  change ReadsAs (.token kind) (if c.current.kind = kind then advance else complain detail) c _
  split
  · rename_i isKind
    exact advance_reads closed isKind notEnd
  · exact ⟨rfl, [], .refl c, fun _ => .nil _⟩

theorem expect_reads {kind : Kind} (closed : c.Closed) (notEnd : kind ≠ .eof) :
    ReadsAs (.token kind) (expect kind) c
      fun token ts _ => ts = [token] ∧ token.kind = kind :=
  expectOr_reads closed notEnd

theorem identifier_reads {context : String} (closed : c.Closed) :
    ReadsAs (.token .identifier) (identifier context) c fun name ts _ =>
      ∃ token, ts = [token] ∧ token.kind = .identifier ∧ token.value = name := by
  apply Leads.bind (expectOr_reads closed (by decide))
  rintro token d ⟨ts, moves, derives, tokensEq, isName⟩
  exact ⟨ts, moves, derives, token, tokensEq, isName, rfl⟩

end Parse
end ScriptLang
