import ScriptLang.Scope.Frame

/-!
Scopes that branch.

Any number of scopes may be opened inside one scope, and each keeps its own bindings.  A scope
is used through handles; it stays alive as long as a handle refers to it or to a scope inside
it.
-/

namespace ScriptLang

/-- A scope: its own bindings, and the number of the scope around it. -/
structure ScopeNode (β φ : Type) where
  frame : Frame β φ
  parent : Option Nat

/-- Scopes by number in the order of their creation; the handles, of which the dropped ones
are empty; and the scopes that weak handles refer to. -/
structure Forest (β φ : Type) where
  scopes : List (ScopeNode β φ)
  handles : List (Option Nat)
  observed : List Nat

namespace Forest

variable {β φ : Type}

def empty : Forest β φ :=
  { scopes := [], handles := [], observed := [] }

instance : Inhabited (Forest β φ) := ⟨empty⟩

def scopeOf? (forest : Forest β φ) (handle : Nat) : Option Nat :=
  (forest.handles[handle]?).join

def frame? (forest : Forest β φ) (id : Nat) : Option (Frame β φ) :=
  (forest.scopes[id]?).map ScopeNode.frame

def parent? (forest : Forest β φ) (id : Nat) : Option Nat :=
  (forest.scopes[id]?).bind ScopeNode.parent

def addHandle (forest : Forest β φ) (id : Nat) : Forest β φ :=
  { forest with handles := forest.handles ++ [some id] }

def add (forest : Forest β φ) (frame : Frame β φ) (parent : Option Nat) : Forest β φ :=
  let wider : Forest β φ :=
    { forest with scopes := forest.scopes ++ [{ frame := frame, parent := parent }] }
  wider.addHandle forest.scopes.length

/-- The scope and those around it, from the inside out.  A scope is opened after the one
around it, so the numbers fall. -/
def ancestry (forest : Forest β φ) (id : Nat) : List Nat :=
  match forest.parent? id with
  | some parent => if parent < id then id :: forest.ancestry parent else [id]
  | none => [id]
termination_by id

def frames (forest : Forest β φ) (id : Nat) : List (Frame β φ) :=
  (forest.ancestry id).filterMap forest.frame?

def withFrame (forest : Forest β φ) (id : Nat) (frame : Frame β φ) : Forest β φ :=
  { forest with
    scopes := forest.scopes.modify id fun node => { node with frame := frame } }

def lookupVariable (forest : Forest β φ) (id : Nat) (name : String) (offset : Nat) :
    Except Fault β :=
  match (forest.frames id).findSome? fun frame => frame.findVariable? name with
  | some entry => .ok entry
  | none => .error { cause := .variableNotDeclared name, offset := offset }

def lookupFunction (forest : Forest β φ) (id : Nat) (key : String × Nat) (offset : Nat) :
    Except Fault φ :=
  match (forest.frames id).findSome? fun frame => frame.findFunction? key with
  | some entry => .ok entry
  | none => .error { cause := .functionNotDeclared key.1 key.2, offset := offset }

def returnType? (forest : Forest β φ) (id : Nat) : Option Ty :=
  (forest.frames id).findSome? fun frame => frame.returnType

/-- Binds a variable in the scope itself. -/
def defineVariable (forest : Forest β φ) (id : Nat) (name : String) (entry : β)
    (offset : Nat) : Except Fault (Forest β φ) :=
  (((forest.frame? id).getD .empty).defineVariable name entry offset).map (forest.withFrame id)

def defineFunction (forest : Forest β φ) (id : Nat) (key : String × Nat) (entry : φ)
    (offset : Nat) : Except Fault (Forest β φ) :=
  (((forest.frame? id).getD .empty).defineFunction key entry offset).map (forest.withFrame id)

/-- The scope in which a name is bound as it is seen from a scope. -/
def owner? (forest : Forest β φ) (id : Nat) (name : String) : Option Nat :=
  (forest.ancestry id).find? fun outer =>
    ((forest.frame? outer).bind (·.findVariable? name)).isSome

def updateVariable (forest : Forest β φ) (id : Nat) (name : String) (change : β → β) :
    Forest β φ :=
  match forest.owner? id name with
  | none => forest
  | some owner =>
      forest.withFrame owner
        (((forest.frame? owner).getD .empty).updateVariable name change)

/-- Makes a weak handle, which does not keep the scope alive. -/
def observe (forest : Forest β φ) (id : Nat) : Forest β φ :=
  { forest with observed := forest.observed ++ [id] }

def drop (forest : Forest β φ) (handle : Nat) : Forest β φ :=
  { forest with handles := forest.handles.set handle none }

/-- Whether a handle refers to the scope or to one inside it. -/
def isAlive (forest : Forest β φ) (id : Nat) : Bool :=
  forest.handles.any fun handle =>
    match handle with
    | some other => (forest.ancestry other).contains id
    | none => false

end Forest
end ScriptLang
