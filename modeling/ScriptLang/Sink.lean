/-!
Sinks for printed text.

A sink keeps what was written to it and may refuse a write, depending on what it already
holds.  A refused write leaves it as it was.
-/

namespace ScriptLang

structure Sink where
  /-- The pieces written, the latest first. -/
  written : List String
  /-- Why the next write fails, given the pieces written. -/
  refusal : List String → Option String

namespace Sink

def unlimited : Sink :=
  { written := [], refusal := fun _ => none }

instance : Inhabited Sink := ⟨unlimited⟩

def newlineCount : List String → Nat
  | [] => 0
  | piece :: pieces => piece.toList.count '\n' + newlineCount pieces

def fullAfterLines (count : Nat) (message : String) : Sink :=
  { written := []
    refusal := fun written => if count ≤ newlineCount written then some message else none }

def text (sink : Sink) : String :=
  String.join sink.written.reverse

/-- Writes the pieces in order up to the first one that is refused, and yields the reason of
that refusal.  An empty piece is not written. -/
def write (sink : Sink) : List String → Option String × Sink
  | [] => (none, sink)
  | piece :: pieces =>
      if piece.isEmpty then
        sink.write pieces
      else
        match sink.refusal sink.written with
        | some message => (some message, sink)
        | none => { sink with written := piece :: sink.written }.write pieces

end Sink
end ScriptLang
