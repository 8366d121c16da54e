import ScriptLang.Ty

/-!
The bindings of one block.

Variables are found by name, functions by name and number of parameters; the two do not hide
each other.  `β` is what is kept of a variable and `φ` what is kept of a function.
-/

namespace ScriptLang

structure Frame (β φ : Type) where
  variableEntries : List (String × β)
  functionEntries : List ((String × Nat) × φ)
  /-- Set for the body of a function. -/
  returnType : Option Ty

namespace Frame

variable {β φ : Type}

def empty : Frame β φ :=
  { variableEntries := [], functionEntries := [], returnType := none }

instance : Inhabited (Frame β φ) := ⟨empty⟩

/-- A frame that binds the given functions; of two with one key the later one counts. -/
def ofFunctions (functions : List ((String × Nat) × φ)) : Frame β φ :=
  { variableEntries := [], functionEntries := functions.reverse, returnType := none }

def findVariable? (frame : Frame β φ) (name : String) : Option β :=
  frame.variableEntries.lookup name

def findFunction? (frame : Frame β φ) (key : String × Nat) : Option φ :=
  frame.functionEntries.lookup key

def addVariable (frame : Frame β φ) (name : String) (entry : β) : Frame β φ :=
  { frame with variableEntries := (name, entry) :: frame.variableEntries }

def addFunction (frame : Frame β φ) (key : String × Nat) (entry : φ) : Frame β φ :=
  { frame with functionEntries := (key, entry) :: frame.functionEntries }

/-- Changes the entry of a variable; a name that is not bound changes nothing. -/
def updateVariable (frame : Frame β φ) (name : String) (change : β → β) : Frame β φ :=
  { frame with
    variableEntries := frame.variableEntries.map fun pair =>
      if pair.1 = name then (pair.1, change pair.2) else pair }

/-- Binds a variable, unless the frame binds the name already. -/
def defineVariable (frame : Frame β φ) (name : String) (entry : β) (offset : Nat) :
    Except Fault (Frame β φ) :=
  match frame.findVariable? name with
  | none => .ok (frame.addVariable name entry)
  | some _ => .error { cause := .variableAlreadyDeclared name, offset := offset }

def defineFunction (frame : Frame β φ) (key : String × Nat) (entry : φ) (offset : Nat) :
    Except Fault (Frame β φ) :=
  match frame.findFunction? key with
  | none => .ok (frame.addFunction key entry)
  | some _ => .error { cause := .functionAlreadyDeclared key.1 key.2, offset := offset }

/-! ### What each operation does to look-ups -/

private theorem lookup_cons_eq_if {κ ω : Type} [BEq κ] [LawfulBEq κ] [DecidableEq κ]
    (key other : κ) (entry : ω) (entries : List (κ × ω)) :
    ((key, entry) :: entries).lookup other =
      if other = key then some entry else entries.lookup other := by
  rw [List.lookup_cons]
  by_cases same : other = key
  · rw [if_pos same, beq_iff_eq.mpr same]
  · rw [if_neg same, beq_false_of_ne same]

theorem findVariable?_addVariable (frame : Frame β φ) (name other : String) (entry : β) :
    (frame.addVariable name entry).findVariable? other =
      if other = name then some entry else frame.findVariable? other :=
  lookup_cons_eq_if name other entry frame.variableEntries

theorem findFunction?_addFunction (frame : Frame β φ) (key other : String × Nat)
    (entry : φ) :
    (frame.addFunction key entry).findFunction? other =
      if other = key then some entry else frame.findFunction? other :=
  lookup_cons_eq_if key other entry frame.functionEntries

private theorem lookup_map_change (name other : String) (change : β → β)
    (entries : List (String × β)) :
    (entries.map fun pair =>
        if pair.1 = name then (pair.1, change pair.2) else pair).lookup other =
      if other = name then (entries.lookup other).map change
      else entries.lookup other := by
  induction entries with
  | nil =>
      simp
  | cons pair rest inductionHypothesis =>
      obtain ⟨bound, entry⟩ := pair
      rw [List.map_cons]
      by_cases changed : bound = name
      · rw [if_pos changed, lookup_cons_eq_if, lookup_cons_eq_if, inductionHypothesis, changed]
        by_cases same : other = name
        · simp [same]
        · simp [same]
      · rw [if_neg changed, lookup_cons_eq_if, lookup_cons_eq_if, inductionHypothesis]
        by_cases found : other = bound
        · subst found
          simp [changed]
        · simp [found]

theorem findVariable?_updateVariable (frame : Frame β φ) (name other : String)
    (change : β → β) :
    (frame.updateVariable name change).findVariable? other =
      if other = name then (frame.findVariable? other).map change
      else frame.findVariable? other :=
  lookup_map_change name other change frame.variableEntries

theorem updateVariable_of_free {frame : Frame β φ} {name : String} {change : β → β}
    (free : frame.findVariable? name = none) : frame.updateVariable name change = frame := by
  obtain ⟨entries, functionEntries, returnType⟩ := frame
  unfold updateVariable
  congr 1
  change entries.lookup name = none at free
  induction entries with
  | nil => rfl
  | cons pair rest inductionHypothesis =>
      rw [List.lookup_cons] at free
      cases same : name == pair.1 with
      | true =>
          rw [same] at free
          cases free
      | false =>
          rw [same] at free
          have different : ¬ pair.1 = name := fun isName => ne_of_beq_false same isName.symm
          rw [List.map_cons, if_neg different]
          exact congrArg (pair :: ·) (inductionHypothesis free)

theorem defineVariable_eq_ok_iff (frame result : Frame β φ) (name : String) (entry : β)
    (offset : Nat) :
    frame.defineVariable name entry offset = .ok result ↔
      frame.findVariable? name = none ∧ result = frame.addVariable name entry := by
  unfold defineVariable
  cases found : frame.findVariable? name with
  | none =>
      constructor
      · intro defined
        exact ⟨rfl, (Except.ok.inj defined).symm⟩
      · intro ⟨_, resultEq⟩
        rw [resultEq]
  | some old =>
      constructor
      · intro defined
        contradiction
      · intro ⟨unbound, _⟩
        contradiction

theorem defineFunction_of_free {frame : Frame β φ} {key : String × Nat}
    (free : frame.findFunction? key = none) (entry : φ) (offset : Nat) :
    frame.defineFunction key entry offset = .ok (frame.addFunction key entry) := by
  unfold defineFunction
  rw [free]

end Frame
end ScriptLang
