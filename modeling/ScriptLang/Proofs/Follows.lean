import ScriptLang.Proofs.Reads

/-!
Readers that follow a spelling.

A reader is run in front of tokens of which the first ones are shared with a list in which a
tree is spelled.  Either it reads that tree and stops before the last shared token, or it passes
all shared tokens: it cannot fail at any of them.
-/

namespace ScriptLang
namespace Parse

variable {α β : Type} {reader : Parse α} {following : α → Parse β} {c d : Cursor}
  {shared all ts us : List Token} {value : α} {other : β}

/-- Whether it ends well or not, the reader passes at least so many tokens. -/
def Passes (reader : Parse α) (c : Cursor) (count : Nat) : Prop :=
  Leads reader c (fun _ d => ∃ ts, c.Moves ts d ∧ count ≤ ts.length) fun _ d =>
    ∃ ts, c.Moves ts d ∧ count ≤ ts.length

/-- The shared tokens begin the tokens in front of the cursor, and all intended ones. -/
structure Along (c : Cursor) (shared all : List Token) : Prop where
  closed : c.Closed
  here : shared <+: c.rest
  there : shared <+: all

/-- In front of the shared tokens the reader yields the value and passes the given tokens, which
are fewer than the shared ones, or it passes all shared tokens. -/
def Follows (reader : Parse α) (c : Cursor) (shared : List Token) (value : α)
    (ts : List Token) : Prop :=
  (ts.length < shared.length ∧ ∃ d, reader c = .ok value d ∧ c.Moves ts d) ∨
    Passes reader c shared.length

def Ahead (holds : Kind → Prop) (tokens : List Token) : Prop :=
  ∀ token ∈ tokens.head?, holds token.kind

namespace Passes

theorem zero [travels : Travels reader] : Passes reader c 0 := by
  apply (travels.moves c).imp
  · rintro _ d ⟨ts, moves⟩
    exact ⟨ts, moves, Nat.zero_le _⟩
  · rintro _ d ⟨ts, moves⟩
    exact ⟨ts, moves, Nat.zero_le _⟩

theorem behind {count : Nat} (passes : Passes reader d count) (moves : c.Moves ts d) :
    Leads reader d (fun _ e => ∃ us, c.Moves us e ∧ ts.length + count ≤ us.length) fun _ e =>
      ∃ us, c.Moves us e ∧ ts.length + count ≤ us.length := by
  have total {us : List Token} (enough : count ≤ us.length) :
      ts.length + count ≤ (ts ++ us).length := by
    rw [List.length_append]
    omega
  apply Leads.imp passes
  · rintro _ e ⟨us, later, enough⟩
    exact ⟨ts ++ us, moves.trans later, total enough⟩
  · rintro _ e ⟨us, later, enough⟩
    exact ⟨ts ++ us, moves.trans later, total enough⟩

theorem bind {count : Nat} (passes : Passes reader c count)
    [travels : ∀ value, Travels (following value)] : Passes (reader >>= following) c count := by
  apply Leads.bind passes
  rintro value d ⟨ts, moves, enough⟩
  have nothing : Passes (following value) d 0 := .zero
  apply (nothing.behind moves).imp
  · rintro _ e ⟨us, later, longer⟩
    exact ⟨us, later, Nat.le_trans enough longer⟩
  · rintro _ e ⟨us, later, longer⟩
    exact ⟨us, later, Nat.le_trans enough longer⟩

theorem lt_remaining {count : Nat} (passes : Passes reader c count) : count < c.remaining := by
  have short {e : Cursor} {us : List Token} (moves : c.Moves us e) : us.length < c.remaining := by
    have total := moves.remaining
    have positive : 0 < e.remaining := Nat.succ_pos _
    omega
  unfold Passes Leads at passes
  split at passes
  · obtain ⟨us, moves, enough⟩ := passes
    exact Nat.lt_of_le_of_lt enough (short moves)
  · obtain ⟨us, moves, enough⟩ := passes
    exact Nat.lt_of_le_of_lt enough (short moves)

end Passes

namespace Along

theorem moved (along : Along c shared (ts ++ all)) (moves : c.Moves ts d)
    (short : ts.length ≤ shared.length) : ∃ fewer, shared = ts ++ fewer ∧ Along d fewer all := by
  obtain ⟨closed, here, there⟩ := along
  rw [moves.rest] at here
  have begins : ts <+: shared :=
    List.prefix_of_prefix_length_le (List.prefix_append ts d.rest) here short
  obtain ⟨fewer, rfl⟩ := begins
  exact ⟨fewer, rfl, moves.closed closed, (List.prefix_append_right_inj ts).mp here,
    (List.prefix_append_right_inj ts).mp there⟩

theorem current (along : Along c shared all) : shared = [] ∨ c.current ∈ all.head? := by
  obtain ⟨closed, here, there⟩ := along
  cases shared with
  | nil =>
      exact .inl rfl
  | cons token shared =>
      obtain ⟨more, rfl⟩ := there
      obtain ⟨others, restEq⟩ := here
      have currentEq : token = c.current := (List.cons.inj restEq).1
      exact .inr (by rw [currentEq]; rfl)

/-- To follow a spelling, the reader may be taken to be in front of the intended token. -/
theorem look (along : Along c shared all) [Travels reader]
    (follows : c.current ∈ all.head? → Follows reader c shared value ts) :
    Follows reader c shared value ts := by
  rcases along.current with rfl | isNext
  · exact .inr .zero
  · exact follows isNext

theorem look_cons {token : Token} (along : Along c shared (token :: all)) [Travels reader]
    (follows : c.current = token → Follows reader c shared value ts) :
    Follows reader c shared value ts :=
  along.look fun isNext => follows (Option.some.inj isNext).symm

end Along

namespace Follows

theorem congr {same : Parse α} (sameEq : same c = reader c)
    (follows : Follows reader c shared value ts) : Follows same c shared value ts := by
  unfold Follows Passes Leads at follows ⊢
  rw [sameEq]
  exact follows

theorem peek {following : Kind → Parse β}
    (follows : Follows (following c.current.kind) c shared other us) :
    Follows (currentKind >>= following) c shared other us :=
  follows

theorem peekToken {following : Token → Parse β}
    (follows : Follows (following c.current) c shared other us) :
    Follows (currentToken >>= following) c shared other us :=
  follows

theorem pure : Follows (Pure.pure value) c shared value [] := by
  cases shared with
  | nil => exact .inr .zero
  | cons token shared => exact .inl ⟨Nat.succ_pos _, c, rfl, .refl c⟩

theorem bind_of_travels (along : Along c shared (ts ++ all))
    (first : Follows reader c shared value ts)
    (travels : ∀ value, Travels (following value))
    (second : ∀ d fewer, c.Moves ts d → Along d fewer all →
      Follows (following value) d fewer other us) :
    Follows (reader >>= following) c shared other (ts ++ us) := by
  rcases first with ⟨short, d, result, moves⟩ | passes
  · obtain ⟨fewer, rfl, further⟩ := along.moved moves (Nat.le_of_lt short)
    have unfolded : (reader >>= following) c = following value d := by
      change EStateM.bind reader following c = _
      unfold EStateM.bind
      rw [result]
    rcases second d fewer moves further with ⟨shorter, e, laterResult, later⟩ | passes
    · refine .inl ⟨?_, e, unfolded.trans laterResult, moves.trans later⟩
      rw [List.length_append, List.length_append]
      omega
    · right
      unfold Passes Leads
      rw [unfolded, List.length_append]
      exact passes.behind moves
  · exact .inr passes.bind

theorem bind [travels : ∀ value, Travels (following value)] (along : Along c shared (ts ++ all))
    (first : Follows reader c shared value ts)
    (second : ∀ d fewer, c.Moves ts d → Along d fewer all →
      Follows (following value) d fewer other us) :
    Follows (reader >>= following) c shared other (ts ++ us) :=
  first.bind_of_travels along travels second

theorem map {make : α → β} (along : Along c shared (ts ++ all))
    (follows : Follows reader c shared value ts) :
    Follows (reader >>= fun value => Pure.pure (make value)) c shared (make value) ts := by
  rw [← List.append_nil ts]
  exact follows.bind along fun d fewer _ _ => .pure

theorem covered {origin : Cursor} {first : Token} {before : List Token} {make : Span → α}
    (moves : origin.Moves (first :: before) c) :
    Follows (spanFrom first.span.start >>= fun span => Pure.pure (make span)) c shared
      (make (Token.cover (first :: before))) [] := by
  rw [moves.cover_eq]
  have made : Follows (Pure.pure (make { start := first.span.start, stop := c.previousEnd })) c
      shared (make { start := first.span.start, stop := c.previousEnd }) [] :=
    .pure
  exact made

end Follows

/-! ### Single tokens -/

theorem advance_follows {token : Token} (along : Along c shared (token :: all))
    (notEnd : token.kind ≠ .eof) : Follows advance c shared token [token] := by
  apply along.look_cons
  rintro rfl
  have moves := along.closed.moves_next notEnd
  cases shared with
  | nil => exact .inr .zero
  | cons first fewer =>
      cases fewer with
      | nil => exact .inr ⟨_, moves, Nat.le_refl _⟩
      | cons second fewer =>
          exact .inl ⟨Nat.succ_lt_succ (Nat.succ_pos _), c.next, rfl, moves⟩

theorem expectOr_follows {token : Token} {kind : Kind} {detail : String}
    (along : Along c shared (token :: all)) (isKind : token.kind = kind) (notEnd : kind ≠ .eof) :
    Follows (expectOr kind detail) c shared token [token] := by
  apply along.look_cons
  intro here
  unfold expectOr
  apply Follows.peek
  rw [here, if_pos isKind]
  exact advance_follows along (by rw [isKind]; exact notEnd)

theorem expect_follows {token : Token} {kind : Kind} (along : Along c shared (token :: all))
    (isKind : token.kind = kind) (notEnd : kind ≠ .eof) :
    Follows (expect kind) c shared token [token] :=
  expectOr_follows along isKind notEnd

theorem identifier_follows {token : Token} {context : String}
    (along : Along c shared (token :: all)) (isName : token.kind = .identifier) :
    Follows (identifier context) c shared token.value [token] := by
  have whole : Along c shared ([token] ++ all) := along
  exact .map whole (expectOr_follows along isName (by decide))

end Parse
end ScriptLang
