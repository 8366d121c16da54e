import ScriptLang.Scope.Frame

/-!
Nested scopes.

A chain is a stack of frames over the frame of the globals: what is seen from one of the scopes of
a forest.  A name means its binding in the innermost frame that has one, and definitions go into
the innermost frame.
-/

namespace ScriptLang

/-- The frames of the open blocks, the innermost first, and the frame of the globals. -/
structure Chain (β φ : Type) where
  locals : List (Frame β φ)
  globals : Frame β φ
  deriving Inhabited

namespace Chain

variable {β φ : Type}

def ofGlobals (globals : Frame β φ) : Chain β φ :=
  { locals := [], globals := globals }

def frames (chain : Chain β φ) : List (Frame β φ) :=
  chain.locals ++ [chain.globals]

def innermost (chain : Chain β φ) : Frame β φ :=
  chain.locals.headD chain.globals

/-- The chain with another innermost frame. -/
def withInnermost (chain : Chain β φ) (frame : Frame β φ) : Chain β φ :=
  match chain.locals with
  | [] => { chain with globals := frame }
  | _ :: outer => { chain with locals := frame :: outer }

def push (chain : Chain β φ) (frame : Frame β φ) : Chain β φ :=
  { chain with locals := frame :: chain.locals }

def child (chain : Chain β φ) : Chain β φ :=
  chain.push .empty

/-- The chain inside the body of a function. -/
def body (chain : Chain β φ) (returnType : Ty) : Chain β φ :=
  chain.push { Frame.empty with returnType := some returnType }

/-- The chain outside the innermost block; the globals are in no block. -/
def parent? (chain : Chain β φ) : Option (Chain β φ) :=
  match chain.locals with
  | [] => none
  | _ :: outer => some { chain with locals := outer }

def findVariable? (chain : Chain β φ) (name : String) : Option β :=
  chain.frames.findSome? fun frame => frame.findVariable? name

def findFunction? (chain : Chain β φ) (key : String × Nat) : Option φ :=
  chain.frames.findSome? fun frame => frame.findFunction? key

/-- The return type of the innermost function body. -/
def returnType? (chain : Chain β φ) : Option Ty :=
  chain.frames.findSome? fun frame => frame.returnType

def lookupVariable (chain : Chain β φ) (name : String) (offset : Nat) : Except Fault β :=
  match chain.findVariable? name with
  | some entry => .ok entry
  | none => .error { cause := .variableNotDeclared name, offset := offset }

def lookupFunction (chain : Chain β φ) (key : String × Nat) (offset : Nat) : Except Fault φ :=
  match chain.findFunction? key with
  | some entry => .ok entry
  | none => .error { cause := .functionNotDeclared key.1 key.2, offset := offset }

def defineVariable (chain : Chain β φ) (name : String) (entry : β) (offset : Nat) :
    Except Fault (Chain β φ) :=
  (chain.innermost.defineVariable name entry offset).map chain.withInnermost

def defineFunction (chain : Chain β φ) (key : String × Nat) (entry : φ) (offset : Nat) :
    Except Fault (Chain β φ) :=
  (chain.innermost.defineFunction key entry offset).map chain.withInnermost

def updateFirst (name : String) (change : β → β) :
    List (Frame β φ) → Option (List (Frame β φ))
  | [] => none
  | frame :: outer =>
      match frame.findVariable? name with
      | some _ => some (frame.updateVariable name change :: outer)
      | none => (updateFirst name change outer).map (frame :: ·)

def updateVariable (chain : Chain β φ) (name : String) (change : β → β) : Chain β φ :=
  match updateFirst name change chain.locals with
  | some locals => { chain with locals := locals }
  | none => { chain with globals := chain.globals.updateVariable name change }

/-! ### Opening and leaving blocks -/

theorem frames_push (chain : Chain β φ) (frame : Frame β φ) :
    (chain.push frame).frames = frame :: chain.frames :=
  rfl

theorem returnType?_body (chain : Chain β φ) (returnType : Ty) :
    (chain.body returnType).returnType? = some returnType :=
  rfl

/-! ### What updates and definitions leave as it is -/

section Updates

variable {γ : Type} {view : Frame β φ → γ} {name : String} {change : β → β}

theorem map_updateFirst (keeps : ∀ frame, view (frame.updateVariable name change) = view frame)
    {frames updated : List (Frame β φ)} (updates : updateFirst name change frames = some updated) :
    updated.map view = frames.map view := by
  induction frames generalizing updated with
  | nil =>
      cases updates
  | cons frame outer inductionHypothesis =>
      unfold updateFirst at updates
      split at updates
      · cases updates
        rw [List.map_cons, List.map_cons, keeps]
      · obtain ⟨rest, restEq, rfl⟩ := Option.map_eq_some_iff.mp updates
        rw [List.map_cons, List.map_cons, inductionHypothesis restEq]

theorem map_frames_updateVariable
    (keeps : ∀ frame, view (frame.updateVariable name change) = view frame) (chain : Chain β φ) :
    (chain.updateVariable name change).frames.map view = chain.frames.map view := by
  unfold updateVariable frames
  cases updates : updateFirst name change chain.locals with
  | some locals =>
      rw [List.map_append, List.map_append, map_updateFirst keeps updates]
  | none =>
      rw [List.map_append, List.map_append, List.map_singleton, List.map_singleton, keeps]

end Updates

theorem frames_eq_cons (chain : Chain β φ) :
    chain.frames = chain.innermost :: chain.frames.tail := by
  obtain ⟨locals, globals⟩ := chain
  cases locals with
  | nil => rfl
  | cons first outer => rfl

theorem frames_withInnermost (chain : Chain β φ) (frame : Frame β φ) :
    (chain.withInnermost frame).frames = frame :: chain.frames.tail := by
  obtain ⟨locals, globals⟩ := chain
  cases locals with
  | nil => rfl
  | cons first outer => rfl

theorem tail_frames_withInnermost (chain : Chain β φ) (frame : Frame β φ) :
    (chain.withInnermost frame).frames.tail = chain.frames.tail := by
  rw [frames_withInnermost, List.tail_cons]

theorem length_frames_withInnermost (chain : Chain β φ) (frame : Frame β φ) :
    (chain.withInnermost frame).frames.length = chain.frames.length := by
  rw [frames_withInnermost, frames_eq_cons chain]
  rfl

/-- The innermost frame may be replaced by one for the same kind of block. -/
theorem returnType?_withInnermost {chain : Chain β φ} {frame : Frame β φ}
    (same : frame.returnType = chain.innermost.returnType) :
    (chain.withInnermost frame).returnType? = chain.returnType? := by
  unfold returnType?
  rw [frames_withInnermost, frames_eq_cons chain, List.findSome?_cons, List.findSome?_cons, same]
  rfl

/-! ### When looking up and defining succeed -/

theorem lookupVariable_eq_ok {chain : Chain β φ} {name : String} {offset : Nat} {entry : β} :
    chain.lookupVariable name offset = .ok entry ↔ chain.findVariable? name = some entry := by
  unfold lookupVariable
  cases chain.findVariable? name with
  | none =>
      simp
  | some found =>
      simp

theorem lookupFunction_eq_ok {chain : Chain β φ} {key : String × Nat} {offset : Nat}
    {entry : φ} :
    chain.lookupFunction key offset = .ok entry ↔ chain.findFunction? key = some entry := by
  unfold lookupFunction
  cases chain.findFunction? key with
  | none =>
      simp
  | some found =>
      simp

theorem defineVariable_push_eq_ok {chain result : Chain β φ} {frame : Frame β φ}
    {name : String} {entry : β} {offset : Nat} :
    (chain.push frame).defineVariable name entry offset = .ok result ↔
      frame.findVariable? name = none ∧ result = chain.push (frame.addVariable name entry) := by
  unfold defineVariable
  change (frame.defineVariable name entry offset).map _ = _ ↔ _
  unfold Frame.defineVariable
  cases frame.findVariable? name with
  | none =>
      simp [Except.map, withInnermost, push, eq_comm]
  | some found =>
      simp [Except.map]

theorem defineVariable_ofGlobals_eq_ok {result : Chain β φ} {globals : Frame β φ}
    {name : String} {entry : β} {offset : Nat} :
    (ofGlobals globals).defineVariable name entry offset = .ok result ↔
      globals.findVariable? name = none ∧
        result = ofGlobals (globals.addVariable name entry) := by
  unfold defineVariable
  change (globals.defineVariable name entry offset).map _ = _ ↔ _
  unfold Frame.defineVariable
  cases globals.findVariable? name with
  | none =>
      simp [Except.map, withInnermost, ofGlobals, eq_comm]
  | some found =>
      simp [Except.map]

theorem defineFunction_ofGlobals_eq_ok {result : Chain β φ} {globals : Frame β φ}
    {key : String × Nat} {entry : φ} {offset : Nat} :
    (ofGlobals globals).defineFunction key entry offset = .ok result ↔
      globals.findFunction? key = none ∧
        result = ofGlobals (globals.addFunction key entry) := by
  unfold defineFunction
  change (globals.defineFunction key entry offset).map _ = _ ↔ _
  unfold Frame.defineFunction
  cases globals.findFunction? key with
  | none =>
      simp [Except.map, withInnermost, ofGlobals, eq_comm]
  | some found =>
      simp [Except.map]

end Chain
end ScriptLang
