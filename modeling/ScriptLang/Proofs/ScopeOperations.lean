import ScriptLang.Proofs.ScopeChains

/-!
Branching scopes behave as nested maps.

Scopes are opened, bound in, changed and looked up in, in any order.  Whatever has been done to
them, every scope lies inside one that was opened earlier, so that its parent chain ends.  A look-up
finds the nearest binding on that chain; a definition adds a binding to one scope, which shows from
there and from the scopes inside it that have no nearer one, and nowhere else.
-/

namespace ScriptLang
namespace Forest

/-! ### Operations -/

/-- What can be done to scopes, which are named by the order in which they were opened. -/
inductive Operation (β φ : Type) where
  | root
  | withFunctions (functions : List ((String × Nat) × φ))
  | child (scope : Nat)
  | functionBody (scope : Nat) (returnType : Ty)
  | defineVariable (scope : Nat) (name : String) (entry : β) (offset : Nat)
  | defineFunction (scope : Nat) (key : String × Nat) (entry : φ) (offset : Nat)
  | updateVariable (scope : Nat) (name : String) (change : β → β)
  | lookupVariable (scope : Nat) (name : String) (offset : Nat)
  | lookupFunction (scope : Nat) (key : String × Nat) (offset : Nat)
  | returnType (scope : Nat)

variable {β φ γ κ : Type}

/-- The scope that an operation is done to; new roots are opened inside none. -/
def Operation.scope? : Operation β φ → Option Nat
  | root | withFunctions _ => none
  | child scope | functionBody scope _ | defineVariable scope _ _ _ | defineFunction scope _ _ _
  | updateVariable scope _ _ | lookupVariable scope _ _ | lookupFunction scope _ _
  | returnType scope => some scope

/-- The scopes behind a definition; one that fails leaves them as they were. -/
def settle (forest : Forest β φ) : Except Fault (Forest β φ) → Forest β φ
  | .ok after => after
  | .error _ => forest

def perform (forest : Forest β φ) : Operation β φ → Forest β φ
  | .root => forest.add .empty none
  | .withFunctions functions => forest.add (.ofFunctions functions) none
  | .child scope => forest.add .empty (some scope)
  | .functionBody scope returnType =>
      forest.add { Frame.empty with returnType := some returnType } (some scope)
  | .defineVariable scope name entry offset =>
      forest.settle (forest.defineVariable scope name entry offset)
  | .defineFunction scope key entry offset =>
      forest.settle (forest.defineFunction scope key entry offset)
  | .updateVariable scope name change => forest.updateVariable scope name change
  | .lookupVariable _ _ _ | .lookupFunction _ _ _ | .returnType _ => forest

def Opened (forest : Forest β φ) (id : Nat) : Prop :=
  id < forest.scopes.length

instance (forest : Forest β φ) (id : Nat) : Decidable (forest.Opened id) :=
  inferInstanceAs (Decidable (id < forest.scopes.length))

/-- The scopes behind operations, from none on.  Only to scopes that have been opened can anything
be done. -/
def run (operations : List (Operation β φ)) : Forest β φ :=
  operations.foldl
    (fun forest operation =>
      if ∀ scope ∈ operation.scope?, forest.Opened scope then forest.perform operation else forest)
    empty

/-! ### Bindings -/

/-- One of the two kinds of bindings: how a frame shows and adds them, how they are looked up and
defined in a scope, and why that can fail. -/
structure BindingKind (β φ κ γ : Type) where
  view : κ → Frame β φ → Option γ
  bind : κ → γ → Frame β φ → Frame β φ
  lookup : Forest β φ → Nat → κ → Nat → Except Fault γ
  define : Forest β φ → Nat → κ → γ → Nat → Except Fault (Forest β φ)
  missing : κ → Cause
  taken : κ → Cause

def variableBindings : BindingKind β φ String β where
  view name frame := frame.findVariable? name
  bind name entry frame := frame.addVariable name entry
  lookup := lookupVariable
  define := defineVariable
  missing name := .variableNotDeclared name
  taken name := .variableAlreadyDeclared name

def functionBindings : BindingKind β φ (String × Nat) φ where
  view key frame := frame.findFunction? key
  bind key entry frame := frame.addFunction key entry
  lookup := lookupFunction
  define := defineFunction
  missing key := .functionNotDeclared key.1 key.2
  taken key := .functionAlreadyDeclared key.1 key.2

/-- What `outer` shows is not hidden from `inner`: no scope on the way shows anything. -/
structure Visible (forest : Forest β φ) (view : Frame β φ → Option γ) (outer inner : Nat) :
    Prop where
  inside : forest.Inside inner outer
  unhidden : ∀ other, forest.Inside inner other → forest.Inside other outer → other ≠ outer →
    forest.own? view other = none

namespace BindingKind

/-- A definition has bound a key in a scope.  Look-ups of that key find the binding from there and
from the scopes inside with no nearer one; all other look-ups give what they gave. -/
structure Binds (kind : BindingKind β φ κ γ) (before after : Forest β φ) (id : Nat) (key : κ)
    (entry : γ) : Prop where
  seen : ∀ inner offset, before.Visible (kind.view key) id inner →
    kind.lookup after inner key offset = .ok entry
  hidden : ∀ inner offset, ¬ before.Visible (kind.view key) id inner →
    kind.lookup after inner key offset = kind.lookup before inner key offset
  others : ∀ inner other offset, other ≠ key →
    kind.lookup after inner other offset = kind.lookup before inner other offset

/-- Look-ups find the nearest binding on the parent chain, and fail exactly when there is none.  A
definition fails exactly when the very scope binds the key. -/
structure NestedMaps (kind : BindingKind β φ κ γ) (forest : Forest β φ) : Prop where
  found : ∀ id key offset entry, kind.lookup forest id key offset = .ok entry ↔
    ∃ outer, forest.Nearest (kind.view key) id outer entry
  missing : ∀ id key offset fault, kind.lookup forest id key offset = .error fault ↔
    fault = { cause := kind.missing key, offset := offset } ∧
      ∀ outer, forest.Inside id outer → forest.own? (kind.view key) outer = none
  taken : ∀ id key entry offset fault, forest.Opened id →
    (kind.define forest id key entry offset = .error fault ↔
      fault = { cause := kind.taken key, offset := offset } ∧
        (forest.own? (kind.view key) id).isSome)
  defined : ∀ id key entry offset after, forest.Opened id →
    kind.define forest id key entry offset = .ok after → kind.Binds forest after id key entry

end BindingKind

/-- Look-ups of variables may give something else, but nothing else does. -/
structure VariablesOnly (before after : Forest β φ) : Prop where
  sameFunctions : ∀ inner key offset,
    after.lookupFunction inner key offset = before.lookupFunction inner key offset
  sameReturnTypes : ∀ inner, after.returnType? inner = before.returnType? inner
  parents : ∀ inner, after.parent? inner = before.parent? inner

/-- Look-ups of functions may give something else, but nothing else does. -/
structure FunctionsOnly (before after : Forest β φ) : Prop where
  sameVariables : ∀ inner name offset,
    after.lookupVariable inner name offset = before.lookupVariable inner name offset
  sameReturnTypes : ∀ inner, after.returnType? inner = before.returnType? inner
  parents : ∀ inner, after.parent? inner = before.parent? inner

/-- What a name means in a scope has been changed: the entry of that very variable, wherever it is
seen from, and no other. -/
structure Updates (before after : Forest β φ) (id : Nat) (name : String) (change : β → β) :
    Prop where
  changed : ∀ outer entry inner offset,
    before.Nearest (fun frame => frame.findVariable? name) id outer entry →
    before.Nearest (fun frame => frame.findVariable? name) inner outer entry →
    after.lookupVariable inner name offset = .ok (change entry)
  kept : ∀ inner offset, (∀ outer entry,
      before.Nearest (fun frame => frame.findVariable? name) id outer entry →
      ¬ before.Nearest (fun frame => frame.findVariable? name) inner outer entry) →
    after.lookupVariable inner name offset = before.lookupVariable inner name offset
  others : ∀ inner other offset, other ≠ name →
    after.lookupVariable inner other offset = before.lookupVariable inner other offset
  variablesOnly : VariablesOnly before after

/-- A scope has been opened with the frame inside the given scope, if any.  It sees what its frame
shows, or else what the scope around it sees; the scopes that were there see what they saw. -/
structure Opens (before after : Forest β φ) (frame : Frame β φ) (parent : Option Nat) : Prop where
  seen : ∀ {γ : Type} (view : Frame β φ → Option γ), after.seen? view before.scopes.length =
    (view frame).or (parent.bind (before.seen? view))
  kept : ∀ {γ : Type} (view : Frame β φ → Option γ) (id : Nat), before.Opened id →
    after.seen? view id = before.seen? view id

/-- Scopes as maps that are nested in each other. -/
structure NestedMaps (forest : Forest β φ) : Prop where
  acyclic : WellFounded fun outer inner => forest.parent? inner = some outer
  variableMaps : variableBindings.NestedMaps forest
  functionMaps : functionBindings.NestedMaps forest
  returnType_some : ∀ id ty, forest.returnType? id = some ty ↔
    ∃ outer, forest.Nearest Frame.returnType id outer ty
  returnType_none : ∀ id, forest.returnType? id = none ↔
    ∀ outer, forest.Inside id outer → forest.own? Frame.returnType outer = none
  variableRefused : ∀ id name entry offset, forest.Opened id →
    (forest.own? (fun frame => frame.findVariable? name) id).isSome →
    forest.perform (.defineVariable id name entry offset) = forest
  functionRefused : ∀ id key entry offset, forest.Opened id →
    (forest.own? (fun frame => frame.findFunction? key) id).isSome →
    forest.perform (.defineFunction id key entry offset) = forest
  variableDefined : ∀ id name entry offset after, forest.Opened id →
    forest.defineVariable id name entry offset = .ok after → VariablesOnly forest after
  functionDefined : ∀ id key entry offset after, forest.Opened id →
    forest.defineFunction id key entry offset = .ok after → FunctionsOnly forest after
  updated : ∀ id name change,
    Updates forest (forest.perform (.updateVariable id name change)) id name change
  root : Opens forest (forest.perform .root) .empty none
  withFunctions : ∀ functions,
    Opens forest (forest.perform (.withFunctions functions)) (.ofFunctions functions) none
  child : ∀ id, forest.Opened id →
    Opens forest (forest.perform (.child id)) .empty (some id)
  functionBody : ∀ id returnType, forest.Opened id →
    Opens forest (forest.perform (.functionBody id returnType))
      { Frame.empty with returnType := some returnType } (some id)

/-! ### What operations do to parents and frames -/

section Frames

variable {forest before after : Forest β φ} {view : Frame β φ → Option γ} {id : Nat}

theorem frame?_of_opened (opened : forest.Opened id) : ∃ frame, forest.frame? id = some frame := by
  unfold frame?
  rw [List.getElem?_eq_getElem opened]
  exact ⟨_, rfl⟩

theorem parent?_withFrame (forest : Forest β φ) (id : Nat) (frame : Frame β φ) (other : Nat) :
    (forest.withFrame id frame).parent? other = forest.parent? other := by
  unfold parent? withFrame
  dsimp only
  rw [List.getElem?_modify]
  cases forest.scopes[other]? with
  | none => rfl
  | some node =>
      by_cases same : id = other
      · simp [same]
      · simp [same]

theorem own?_withFrame (opened : forest.Opened id) (frame : Frame β φ)
    (view : Frame β φ → Option γ) (other : Nat) :
    (forest.withFrame id frame).own? view other =
      if other = id then view frame else forest.own? view other := by
  unfold own? frame? withFrame
  dsimp only
  rw [List.getElem?_modify]
  by_cases same : other = id
  · subst same
    rw [if_pos rfl, List.getElem?_eq_getElem opened]
    simp
  · rw [if_neg same]
    have different : id ≠ other := Ne.symm same
    simp [different]

theorem getElem?_scopes_add (forest : Forest β φ) (frame : Frame β φ) (parent : Option Nat)
    (id : Nat) :
    (forest.add frame parent).scopes[id]? =
      if id = forest.scopes.length then some { frame := frame, parent := parent }
      else forest.scopes[id]? := by
  change (forest.scopes ++ [_])[id]? = _
  by_cases new : id = forest.scopes.length
  · rw [if_pos new, new, List.getElem?_concat_length]
  · rw [if_neg new]
    by_cases opened : id < forest.scopes.length
    · exact List.getElem?_append_left opened
    · have beyond : forest.scopes.length < id :=
        Nat.lt_of_le_of_ne (Nat.le_of_not_lt opened) (Ne.symm new)
      rw [List.getElem?_eq_none (Nat.le_of_not_lt opened), List.getElem?_eq_none]
      rw [List.length_append, List.length_singleton]
      exact beyond

theorem parent?_add (forest : Forest β φ) (frame : Frame β φ) (parent : Option Nat) (id : Nat) :
    (forest.add frame parent).parent? id =
      if id = forest.scopes.length then parent else forest.parent? id := by
  unfold parent?
  rw [getElem?_scopes_add]
  split
  · rfl
  · rfl

theorem own?_add (forest : Forest β φ) (frame : Frame β φ) (parent : Option Nat)
    (view : Frame β φ → Option γ) (id : Nat) :
    (forest.add frame parent).own? view id =
      if id = forest.scopes.length then view frame else forest.own? view id := by
  unfold own? frame?
  rw [getElem?_scopes_add]
  split
  · rfl
  · rfl

theorem ancestry_congr (parents : ∀ id, after.parent? id = before.parent? id) (id : Nat) :
    after.ancestry id = before.ancestry id := by
  induction id using Nat.strongRecOn with
  | ind id inductionHypothesis =>
      rw [ancestry, ancestry, parents]
      cases before.parent? id with
      | none => rfl
      | some parent =>
          dsimp only
          split
          next lower => rw [inductionHypothesis parent lower]
          next => rfl

theorem inside_congr (parents : ∀ id, after.parent? id = before.parent? id) :
    after.Inside = before.Inside := by
  unfold Inside
  simp only [parents]

theorem seen?_congr (parents : ∀ id, after.parent? id = before.parent? id)
    (owns : ∀ id, after.own? view id = before.own? view id) (id : Nat) :
    after.seen? view id = before.seen? view id := by
  rw [seen?_eq_ancestry, seen?_eq_ancestry, ancestry_congr parents, funext owns]

/-! ### Parents in the order of opening -/

theorem Ordered.congr (ordered : before.Ordered)
    (parents : ∀ id, after.parent? id = before.parent? id) : after.Ordered := by
  intro inner outer isParent
  rw [parents] at isParent
  exact ordered inner outer isParent

theorem Ordered.add (ordered : forest.Ordered) (frame : Frame β φ) {parent : Option Nat}
    (opened : ∀ outer ∈ parent, forest.Opened outer) : (forest.add frame parent).Ordered := by
  intro inner outer isParent
  rw [parent?_add] at isParent
  split at isParent
  next new =>
    rw [new]
    exact opened outer isParent
  next => exact ordered inner outer isParent

end Frames

/-! ### Laws of definitions -/

section Definitions

variable {before after : Forest β φ} {view : Frame β φ → Option γ} {id inner : Nat} {value : γ}

theorem Visible.nearest (visible : before.Visible view id inner)
    (parents : ∀ id, after.parent? id = before.parent? id)
    (bound : after.own? view id = some value)
    (same : ∀ other, other ≠ id → after.own? view other = before.own? view other) :
    after.Nearest view inner id value := by
  obtain ⟨inside, unhidden⟩ := visible
  refine ⟨?_, bound, ?_⟩
  · rw [inside_congr parents]
    exact inside
  · rw [inside_congr parents]
    intro other insideOther shows
    by_cases isNew : other = id
    · rw [isNew]
      exact inside_refl id
    · rcases inside.total insideOther with further | nearer
      · exact further
      · rw [same other isNew, unhidden other insideOther nearer isNew] at shows
        cases shows

theorem Ordered.nearest_of_not_visible (ordered : before.Ordered)
    (hidden : ¬ before.Visible view id inner)
    (parents : ∀ id, after.parent? id = before.parent? id)
    (free : before.own? view id = none)
    (same : ∀ other, other ≠ id → after.own? view other = before.own? view other)
    {outer : Nat} {value : γ} :
    after.Nearest view inner outer value ↔ before.Nearest view inner outer value := by
  have notFree {other : Nat} (shows : (before.own? view other).isSome) : other ≠ id := by
    rintro rfl
    rw [free] at shows
    cases shows
  constructor
  · rintro ⟨inside, shows, nearest⟩
    rw [inside_congr parents] at inside nearest
    have isOld : outer ≠ id := by
      rintro rfl
      refine hidden ⟨inside, fun other insideOther further different => ?_⟩
      cases shown : before.own? view other with
      | none => rfl
      | some found =>
          have otherShows : (after.own? view other).isSome := by
            rw [same other different, shown]
            rfl
          have reached := nearest other insideOther otherShows
          exact absurd (ordered.inside_antisymm further reached) different
    rw [same outer isOld] at shows
    refine ⟨inside, shows, fun other insideOther otherShows => ?_⟩
    rw [← same other (notFree otherShows)] at otherShows
    exact nearest other insideOther otherShows
  · rintro ⟨inside, shows, nearest⟩
    have isOld : outer ≠ id := notFree (by rw [shows]; rfl)
    refine ⟨?_, ?_, ?_⟩
    · rw [inside_congr parents]
      exact inside
    · rw [same outer isOld]
      exact shows
    · rw [inside_congr parents]
      intro other insideOther otherShows
      by_cases isNew : other = id
      · -- Some scope between shows something, or the binding would be visible.
        subst isNew
        refine Classical.byContradiction fun notInside => ?_
        refine hidden ⟨insideOther, fun between insideBetween further _ => ?_⟩
        cases shown : before.own? view between with
        | none => rfl
        | some found =>
            have reached := nearest between insideBetween (by rw [shown]; rfl)
            exact absurd (reached.trans further) notInside
      · rw [same other isNew] at otherShows
        exact nearest other insideOther otherShows

end Definitions

namespace BindingKind

/-- Look-ups read what a scope sees, and definitions add to the frame of the scope itself, where
the new binding shows under its own key alone. -/
structure Lawful [DecidableEq κ] (kind : BindingKind β φ κ γ) : Prop where
  lookup_eq : ∀ forest id key offset, kind.lookup forest id key offset =
    match forest.seen? (kind.view key) id with
    | some entry => .ok entry
    | none => .error { cause := kind.missing key, offset := offset }
  define_eq : ∀ forest id key entry offset, kind.define forest id key entry offset =
    match kind.view key ((forest.frame? id).getD .empty) with
    | none => .ok (forest.withFrame id (kind.bind key entry ((forest.frame? id).getD .empty)))
    | some _ => .error { cause := kind.taken key, offset := offset }
  view_bind : ∀ key other entry frame, kind.view other (kind.bind key entry frame) =
    if other = key then some entry else kind.view other frame

theorem variableBindings_lawful : (variableBindings : BindingKind β φ String β).Lawful where
  lookup_eq _ _ _ _ := rfl
  define_eq forest id name entry offset := by
    unfold variableBindings
    dsimp only
    unfold Forest.defineVariable Frame.defineVariable
    cases ((forest.frame? id).getD .empty).findVariable? name with
    | none => rfl
    | some _ => rfl
  view_bind name other entry frame := Frame.findVariable?_addVariable frame name other entry

theorem functionBindings_lawful : (functionBindings : BindingKind β φ (String × Nat) φ).Lawful where
  lookup_eq _ _ _ _ := rfl
  define_eq forest id key entry offset := by
    unfold functionBindings
    dsimp only
    unfold Forest.defineFunction Frame.defineFunction
    cases ((forest.frame? id).getD .empty).findFunction? key with
    | none => rfl
    | some _ => rfl
  view_bind key other entry frame := Frame.findFunction?_addFunction frame key other entry

namespace Lawful

variable [DecidableEq κ] {kind : BindingKind β φ κ γ} {before after forest : Forest β φ} {id : Nat}
  {key : κ} {entry : γ} {offset : Nat}

theorem lookup_congr (lawful : kind.Lawful) {inner : Nat}
    (same : after.seen? (kind.view key) inner = before.seen? (kind.view key) inner) :
    kind.lookup after inner key offset = kind.lookup before inner key offset := by
  rw [lawful.lookup_eq, lawful.lookup_eq, same]

theorem lookup_of_seen (lawful : kind.Lawful) {inner : Nat}
    (seen : forest.seen? (kind.view key) inner = some entry) :
    kind.lookup forest inner key offset = .ok entry := by
  rw [lawful.lookup_eq, seen]

theorem define_eq_own (lawful : kind.Lawful) (opened : forest.Opened id) :
    kind.define forest id key entry offset =
      match forest.own? (kind.view key) id with
      | none => .ok (forest.withFrame id (kind.bind key entry ((forest.frame? id).getD .empty)))
      | some _ => .error { cause := kind.taken key, offset := offset } := by
  obtain ⟨frame, framed⟩ := frame?_of_opened opened
  rw [lawful.define_eq]
  unfold own?
  rw [framed, Option.getD_some, Option.bind_some]

theorem define_eq_ok (lawful : kind.Lawful) (opened : forest.Opened id) :
    kind.define forest id key entry offset = .ok after ↔
      forest.own? (kind.view key) id = none ∧
        after = forest.withFrame id (kind.bind key entry ((forest.frame? id).getD .empty)) := by
  rw [lawful.define_eq_own opened]
  cases forest.own? (kind.view key) id with
  | none => simp [eq_comm]
  | some _ => simp

theorem own?_bind (lawful : kind.Lawful) (opened : before.Opened id) (key : κ) (entry : γ)
    (other : κ) (scope : Nat) :
    (before.withFrame id (kind.bind key entry ((before.frame? id).getD .empty))).own?
        (kind.view other) scope =
      if scope = id ∧ other = key then some entry else before.own? (kind.view other) scope := by
  rw [own?_withFrame opened, lawful.view_bind]
  by_cases here : scope = id
  · subst here
    by_cases same : other = key
    · simp [same]
    · rw [if_pos rfl, if_neg same, if_neg (fun both => same both.2)]
      obtain ⟨frame, framed⟩ := frame?_of_opened opened
      unfold own?
      rw [framed, Option.getD_some, Option.bind_some]
  · rw [if_neg here, if_neg (fun both => here both.1)]

theorem binds (lawful : kind.Lawful) (ordered : before.Ordered) (opened : before.Opened id)
    (defined : kind.define before id key entry offset = .ok after) :
    kind.Binds before after id key entry := by
  obtain ⟨free, rfl⟩ := (lawful.define_eq_ok opened).mp defined
  have parents := parent?_withFrame before id (kind.bind key entry ((before.frame? id).getD .empty))
  have owns (other : κ) (scope : Nat) :=
    lawful.own?_bind opened key entry other scope
  generalize before.withFrame id _ = after at parents owns ⊢
  have bound : after.own? (kind.view key) id = some entry := by
    rw [owns, if_pos ⟨rfl, rfl⟩]
  have same : ∀ other, other ≠ id →
      after.own? (kind.view key) other = before.own? (kind.view key) other := by
    intro other different
    rw [owns, if_neg fun both => different both.1]
  have orderedAfter := ordered.congr parents
  refine ⟨?_, ?_, ?_⟩
  · intro inner _ visible
    have isNearest := visible.nearest parents bound same
    exact lawful.lookup_of_seen (orderedAfter.seen?_eq_some.mpr ⟨id, isNearest⟩)
  · intro inner _ hidden
    apply lawful.lookup_congr
    apply Option.ext
    intro value
    rw [orderedAfter.seen?_eq_some, ordered.seen?_eq_some]
    simp only [ordered.nearest_of_not_visible hidden parents free same]
  · intro inner other _ different
    apply lawful.lookup_congr
    refine seen?_congr parents (fun scope => ?_) inner
    rw [owns, if_neg fun both => different both.2]

theorem nestedMaps (lawful : kind.Lawful) (ordered : forest.Ordered) : kind.NestedMaps forest where
  found id key offset entry := by
    rw [lawful.lookup_eq, ← ordered.seen?_eq_some]
    cases forest.seen? (kind.view key) id with
    | none => simp
    | some found => simp
  missing id key offset fault := by
    rw [lawful.lookup_eq, ← ordered.seen?_eq_none]
    cases forest.seen? (kind.view key) id with
    | none => simp [eq_comm]
    | some found => simp
  taken id key entry offset fault opened := by
    rw [lawful.define_eq_own opened]
    cases forest.own? (kind.view key) id with
    | none => simp
    | some found => simp [eq_comm]
  defined id key entry offset after opened defined := lawful.binds ordered opened defined

end Lawful
end BindingKind

/-! ### Laws of updates -/

section Updates

variable {forest before after : Forest β φ} {view : Frame β φ → Option γ} {id inner outer : Nat}
  {name : String}

/-- The owner of a name is the nearest scope that binds it. -/
theorem Ordered.owner?_eq_some (ordered : forest.Ordered) :
    forest.owner? inner name = some outer ↔
      ∃ entry, forest.Nearest (fun frame => frame.findVariable? name) inner outer entry :=
  ordered.nearest?_eq_some

theorem Nearest.of_isSome {value value' : γ} (isNearest : before.Nearest view inner outer value)
    (parents : ∀ id, after.parent? id = before.parent? id)
    (shown : ∀ id, (after.own? view id).isSome = (before.own? view id).isSome)
    (own : after.own? view outer = some value') : after.Nearest view inner outer value' := by
  obtain ⟨inside, _, nearest⟩ := isNearest
  refine ⟨?_, own, ?_⟩
  · rw [inside_congr parents]
    exact inside
  · rw [inside_congr parents]
    intro other insideOther otherShows
    rw [shown] at otherShows
    exact nearest other insideOther otherShows

theorem opened_of_own {value : γ} (own : forest.own? view id = some value) : forest.Opened id := by
  obtain ⟨frame, framed, _⟩ := Option.bind_eq_some_iff.mp own
  obtain ⟨node, found, _⟩ := Option.map_eq_some_iff.mp framed
  exact (List.getElem?_eq_some_iff.mp found).1

theorem updateVariable_eq (forest : Forest β φ) (change : β → β)
    (owner : forest.owner? id name = some outer) :
    forest.updateVariable id name change = forest.withFrame outer
      (((forest.frame? outer).getD .empty).updateVariable name change) := by
  unfold updateVariable
  rw [owner]

theorem own?_updateVariable (opened : forest.Opened outer) (name : String) (change : β → β)
    (other : String) (scope : Nat) :
    (forest.withFrame outer
        (((forest.frame? outer).getD .empty).updateVariable name change)).own?
          (fun frame => frame.findVariable? other) scope =
      if scope = outer ∧ other = name then
        (forest.own? (fun frame => frame.findVariable? other) scope).map change
      else forest.own? (fun frame => frame.findVariable? other) scope := by
  rw [own?_withFrame opened, Frame.findVariable?_updateVariable]
  by_cases here : scope = outer
  · subst here
    obtain ⟨frame, framed⟩ := frame?_of_opened opened
    unfold own?
    rw [framed, Option.getD_some, Option.bind_some, if_pos rfl]
    by_cases same : other = name
    · rw [if_pos same, if_pos ⟨rfl, same⟩]
    · rw [if_neg same, if_neg fun both => same both.2]
  · rw [if_neg here, if_neg fun both => here both.1]

theorem seen?_withFrame (opened : forest.Opened id) {frame : Frame β φ}
    (same : view frame = view ((forest.frame? id).getD .empty)) (inner : Nat) :
    (forest.withFrame id frame).seen? view inner = forest.seen? view inner := by
  refine seen?_congr (parent?_withFrame forest id frame) (fun scope => ?_) inner
  rw [own?_withFrame opened]
  by_cases here : scope = id
  · subst here
    obtain ⟨old, framed⟩ := frame?_of_opened opened
    unfold own?
    rw [if_pos rfl, same, framed, Option.getD_some, Option.bind_some]
  · rw [if_neg here]

theorem lookupFunction_congr {key : String × Nat} {offset : Nat}
    (same : after.seen? (fun frame => frame.findFunction? key) inner =
      before.seen? (fun frame => frame.findFunction? key) inner) :
    after.lookupFunction inner key offset = before.lookupFunction inner key offset :=
  BindingKind.functionBindings_lawful.lookup_congr same

theorem lookupVariable_congr {offset : Nat}
    (same : after.seen? (fun frame => frame.findVariable? name) inner =
      before.seen? (fun frame => frame.findVariable? name) inner) :
    after.lookupVariable inner name offset = before.lookupVariable inner name offset :=
  BindingKind.variableBindings_lawful.lookup_congr same

theorem lookupVariable_of_seen {entry : β}
    (seen : forest.seen? (fun frame => frame.findVariable? name) inner = some entry)
    (offset : Nat) : forest.lookupVariable inner name offset = .ok entry :=
  BindingKind.variableBindings_lawful.lookup_of_seen seen

theorem variablesOnly_withFrame (opened : forest.Opened id) {frame : Frame β φ}
    (kept : frame.functionEntries = ((forest.frame? id).getD .empty).functionEntries)
    (returnType : frame.returnType = ((forest.frame? id).getD .empty).returnType) :
    VariablesOnly forest (forest.withFrame id frame) where
  sameFunctions inner key offset := by
    apply lookupFunction_congr
    refine seen?_withFrame opened ?_ inner
    unfold Frame.findFunction?
    rw [kept]
  sameReturnTypes inner := seen?_withFrame opened returnType inner
  parents inner := parent?_withFrame forest id frame inner

theorem functionsOnly_withFrame (opened : forest.Opened id) {frame : Frame β φ}
    (kept : frame.variableEntries = ((forest.frame? id).getD .empty).variableEntries)
    (returnType : frame.returnType = ((forest.frame? id).getD .empty).returnType) :
    FunctionsOnly forest (forest.withFrame id frame) where
  sameVariables inner name offset := by
    apply lookupVariable_congr
    refine seen?_withFrame opened ?_ inner
    unfold Frame.findVariable?
    rw [kept]
  sameReturnTypes inner := seen?_withFrame opened returnType inner
  parents inner := parent?_withFrame forest id frame inner

theorem Ordered.updates (ordered : forest.Ordered) (id : Nat) (name : String) (change : β → β) :
    Updates forest (forest.updateVariable id name change) id name change := by
  cases owner : forest.owner? id name with
  | none =>
      have unchanged : forest.updateVariable id name change = forest := by
        unfold updateVariable
        rw [owner]
      rw [unchanged]
      refine ⟨?_, fun _ _ _ => rfl, fun _ _ _ _ => rfl,
        ⟨fun _ _ _ => rfl, fun _ => rfl, fun _ => rfl⟩⟩
      intro outer entry inner offset isNearest
      rw [ordered.owner?_eq_some.mpr ⟨entry, isNearest⟩] at owner
      cases owner
  | some outer =>
      obtain ⟨entry, isNearest⟩ := ordered.owner?_eq_some.mp owner
      have opened : forest.Opened outer := opened_of_own isNearest.own
      have owns (other : String) (scope : Nat) :=
        own?_updateVariable opened name change other scope
      rw [updateVariable_eq forest change owner]
      have only : VariablesOnly forest (forest.withFrame outer
          (((forest.frame? outer).getD .empty).updateVariable name change)) :=
        variablesOnly_withFrame opened rfl rfl
      generalize forest.withFrame outer _ = after at owns only ⊢
      have parents := only.parents
      have orderedAfter := ordered.congr parents
      have shown (scope : Nat) : (after.own? (fun frame => frame.findVariable? name) scope).isSome =
          (forest.own? (fun frame => frame.findVariable? name) scope).isSome := by
        rw [owns]
        split
        · exact Option.isSome_map
        · rfl
      refine ⟨?_, ?_, ?_, only⟩
      · intro outer' entry' inner offset fromId fromInner
        have sameOwner := ordered.owner?_eq_some.mpr ⟨entry', fromId⟩
        rw [owner] at sameOwner
        cases sameOwner
        have own : after.own? (fun frame => frame.findVariable? name) outer =
            some (change entry') := by
          rw [owns, if_pos ⟨rfl, rfl⟩, fromInner.own, Option.map_some]
        exact lookupVariable_of_seen
          (orderedAfter.seen?_eq_some.mpr ⟨outer, fromInner.of_isSome parents shown own⟩) offset
      · intro inner offset elsewhere
        apply lookupVariable_congr
        cases seen : forest.seen? (fun frame => frame.findVariable? name) inner with
        | some value =>
            obtain ⟨outer', near⟩ := ordered.seen?_eq_some.mp seen
            have otherOwner : outer' ≠ outer := by
              rintro rfl
              have sameEntry : value = entry := Option.some.inj (near.own.symm.trans isNearest.own)
              exact elsewhere outer' entry isNearest (sameEntry ▸ near)
            have own : after.own? (fun frame => frame.findVariable? name) outer' = some value := by
              rw [owns, if_neg fun both => otherOwner both.1, near.own]
            exact orderedAfter.seen?_eq_some.mpr ⟨outer', near.of_isSome parents shown own⟩
        | none =>
            refine orderedAfter.seen?_eq_none.mpr fun outer' inside => ?_
            rw [inside_congr parents] at inside
            have unbound := ordered.seen?_eq_none.mp seen outer' inside
            rw [← Option.not_isSome_iff_eq_none, shown, unbound]
            exact Bool.false_ne_true
      · intro inner other offset different
        apply lookupVariable_congr
        refine seen?_congr parents (fun scope => ?_) inner
        rw [owns, if_neg fun both => different both.2]

end Updates

/-! ### Laws of opening -/

section Opening

variable {forest before after : Forest β φ} {view : Frame β φ → Option γ} {id inner outer : Nat}
  {name : String}

theorem Ordered.seen?_add (ordered : forest.Ordered) (frame : Frame β φ) {parent : Option Nat}
    (parentOpened : ∀ outer ∈ parent, forest.Opened outer) (view : Frame β φ → Option γ) {id : Nat}
    (opened : forest.Opened id) :
    (forest.add frame parent).seen? view id = forest.seen? view id := by
  have orderedAfter := ordered.add frame parentOpened
  induction id using Nat.strongRecOn with
  | ind id inductionHypothesis =>
      have old : id ≠ forest.scopes.length := Nat.ne_of_lt opened
      have sameParent := forest.parent?_add frame parent id
      rw [if_neg old] at sameParent
      have sameOwn := forest.own?_add frame parent view id
      rw [if_neg old] at sameOwn
      cases parentEq : forest.parent? id with
      | none =>
          rw [seen?_of_no_parent parentEq, seen?_of_no_parent (sameParent.trans parentEq), sameOwn]
      | some outer =>
          have lower := ordered id outer parentEq
          rw [ordered.seen?_of_parent parentEq,
            orderedAfter.seen?_of_parent (sameParent.trans parentEq), sameOwn,
            inductionHypothesis outer lower (Nat.lt_trans lower opened)]

theorem Ordered.opens (ordered : forest.Ordered) (frame : Frame β φ) {parent : Option Nat}
    (parentOpened : ∀ outer ∈ parent, forest.Opened outer) :
    Opens forest (forest.add frame parent) frame parent where
  kept view id opened := ordered.seen?_add frame parentOpened view opened
  seen view := by
    have orderedAfter := ordered.add frame parentOpened
    have isParent := forest.parent?_add frame parent forest.scopes.length
    rw [if_pos rfl] at isParent
    have own := forest.own?_add frame parent view forest.scopes.length
    rw [if_pos rfl] at own
    cases parent with
    | none =>
        rw [seen?_of_no_parent isParent, own, Option.bind_none, Option.or_none]
    | some outer =>
        rw [orderedAfter.seen?_of_parent isParent, own, Option.bind_some,
          ordered.seen?_add frame parentOpened view (parentOpened outer rfl)]

end Opening

/-! ### All operations -/

section Run

variable {forest : Forest β φ}

theorem ordered_empty : (empty : Forest β φ).Ordered := by
  intro inner outer isParent
  cases isParent

theorem Ordered.settle (ordered : forest.Ordered) {result : Except Fault (Forest β φ)}
    (defined : ∀ after, result = .ok after → after.Ordered) : (forest.settle result).Ordered := by
  cases result with
  | ok after => exact defined after rfl
  | error _ => exact ordered

theorem BindingKind.Lawful.ordered [DecidableEq κ] {kind : BindingKind β φ κ γ}
    (lawful : kind.Lawful) (ordered : forest.Ordered) {id : Nat} (opened : forest.Opened id)
    {key : κ} {entry : γ} {offset : Nat} {after : Forest β φ}
    (defined : kind.define forest id key entry offset = .ok after) : after.Ordered := by
  obtain ⟨_, rfl⟩ := (lawful.define_eq_ok opened).mp defined
  exact ordered.congr (parent?_withFrame forest id _)

theorem Ordered.perform (ordered : forest.Ordered) (operation : Operation β φ)
    (opened : ∀ scope ∈ operation.scope?, forest.Opened scope) :
    (forest.perform operation).Ordered := by
  cases operation with
  | root => exact ordered.add _ opened
  | withFunctions functions => exact ordered.add _ opened
  | child scope => exact ordered.add _ opened
  | functionBody scope returnType => exact ordered.add _ opened
  | defineVariable scope name entry offset =>
      exact ordered.settle fun after =>
        BindingKind.variableBindings_lawful.ordered ordered (opened scope rfl)
  | defineFunction scope key entry offset =>
      exact ordered.settle fun after =>
        BindingKind.functionBindings_lawful.ordered ordered (opened scope rfl)
  | updateVariable scope name change =>
      exact ordered.congr (ordered.updates scope name change).variablesOnly.parents
  | lookupVariable | lookupFunction | returnType => exact ordered

theorem ordered_run (operations : List (Operation β φ)) : (run operations).Ordered := by
  unfold run
  refine List.foldlRecOn operations _ ordered_empty fun forest ordered operation _ => ?_
  split
  next opened => exact ordered.perform operation opened
  next => exact ordered

theorem Ordered.nestedMaps (ordered : forest.Ordered) : forest.NestedMaps where
  acyclic := ordered.wellFounded
  variableMaps := BindingKind.variableBindings_lawful.nestedMaps ordered
  functionMaps := BindingKind.functionBindings_lawful.nestedMaps ordered
  returnType_some _ _ := ordered.seen?_eq_some
  returnType_none _ := ordered.seen?_eq_none
  variableRefused id name entry offset opened taken := by
    have failed : forest.defineVariable id name entry offset = .error _ :=
      ((BindingKind.variableBindings_lawful.nestedMaps ordered).taken id name entry offset _
        opened).mpr ⟨rfl, taken⟩
    change forest.settle (forest.defineVariable id name entry offset) = forest
    rw [failed]
    rfl
  functionRefused id key entry offset opened taken := by
    have failed : forest.defineFunction id key entry offset = .error _ :=
      ((BindingKind.functionBindings_lawful.nestedMaps ordered).taken id key entry offset _
        opened).mpr ⟨rfl, taken⟩
    change forest.settle (forest.defineFunction id key entry offset) = forest
    rw [failed]
    rfl
  variableDefined id name entry offset after opened defined := by
    obtain ⟨_, rfl⟩ := (BindingKind.variableBindings_lawful.define_eq_ok opened).mp defined
    exact variablesOnly_withFrame opened rfl rfl
  functionDefined id key entry offset after opened defined := by
    obtain ⟨_, rfl⟩ := (BindingKind.functionBindings_lawful.define_eq_ok opened).mp defined
    exact functionsOnly_withFrame opened rfl rfl
  updated := ordered.updates
  root := ordered.opens _ (fun _ impossible => nomatch impossible)
  withFunctions functions := ordered.opens _ (fun _ impossible => nomatch impossible)
  child id opened := ordered.opens _ fun _ isParent => Option.some.inj isParent ▸ opened
  functionBody id returnType opened :=
    ordered.opens _ fun _ isParent => Option.some.inj isParent ▸ opened

/-- Scopes behave as nested maps after whatever has been done to them. -/
theorem run_nestedMaps (operations : List (Operation β φ)) : (run operations).NestedMaps :=
  (ordered_run operations).nestedMaps

end Run

end Forest
end ScriptLang
