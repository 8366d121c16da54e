import Mathlib.Data.List.Basic
import ScriptLang.Proofs.ScopeOperations
import ScriptLang.Scope.Chain

/-!
Chains of frames as they lie among scopes.

Checking and running keep a chain of frames for the scope that they are in and those around it.
The scopes themselves are linked to their parents, and others live beside them: those of callers,
and those that were left.  Whatever is done to a chain can be done to scopes that show it, and it
reaches none of the others.
-/

namespace ScriptLang
namespace Forest

variable {β φ γ : Type} {forest middle later : Forest β φ} {id other parent : Nat}
  {chain : Chain β φ} {frame : Frame β φ}

/-- The scope and those around it have the frames of the chain, from the inside out. -/
structure Shows (forest : Forest β φ) (id : Nat) (chain : Chain β φ) : Prop where
  ordered : forest.Ordered
  opened : forest.Opened id
  frames : forest.frames id = chain.frames

/-- An operation, on a scope that has been opened, leads from one forest to the other. -/
def Performs (forest later : Forest β φ) : Prop :=
  ∃ operation : Operation β φ, (∀ scope ∈ operation.scope?, forest.Opened scope) ∧
    later = forest.perform operation

/-- Operations lead from one forest to the other.  Of the scopes that were there, they may have
changed the frames of those in `reach`, and nothing else. -/
structure Continues (forest : Forest β φ) (reach : List Nat) (later : Forest β φ) : Prop where
  performed : Relation.ReflTransGen Performs forest later
  opened : ∀ other, forest.Opened other → later.Opened other
  parents : ∀ other, forest.Opened other → later.parent? other = forest.parent? other
  kept : ∀ other, forest.Opened other → other ∉ reach → later.frame? other = forest.frame? other

/-- The outermost scope around a scope. -/
def root (forest : Forest β φ) (id : Nat) : Nat :=
  (forest.ancestry id).getLastD id

/-- A scope and those around it but for the outermost one, from the inside out. -/
def blocks (forest : Forest β φ) (id : Nat) : List Nat :=
  (forest.ancestry id).dropLast

/-! ### Parent chains as lists -/

theorem Ordered.mem_ancestry (ordered : forest.Ordered) {inner outer : Nat} :
    outer ∈ forest.ancestry inner ↔ forest.Inside inner outer := by
  induction inner using Nat.strongRecOn with
  | ind inner inductionHypothesis =>
      cases parentEq : forest.parent? inner with
      | none =>
          rw [ancestry_of_no_parent parentEq, inside_of_no_parent parentEq, List.mem_singleton]
      | some parent =>
          rw [ordered.ancestry_of_parent parentEq, inside_of_parent parentEq, List.mem_cons,
            inductionHypothesis parent (ordered inner parent parentEq)]

theorem ancestry_eq_cons (forest : Forest β φ) (id : Nat) :
    forest.ancestry id = id :: (forest.ancestry id).tail := by
  rw [ancestry]
  split
  · split
    · rfl
    · rfl
  · rfl

theorem self_mem_ancestry (forest : Forest β φ) (id : Nat) : id ∈ forest.ancestry id := by
  rw [ancestry_eq_cons]
  exact List.mem_cons_self

theorem ancestry_ne_nil (forest : Forest β φ) (id : Nat) : forest.ancestry id ≠ [] :=
  List.ne_nil_of_mem (forest.self_mem_ancestry id)

theorem Ordered.opened_of_mem (ordered : forest.Ordered) (opened : forest.Opened id)
    (member : other ∈ forest.ancestry id) : forest.Opened other :=
  Nat.lt_of_le_of_lt (ordered.le_of_inside (ordered.mem_ancestry.mp member)) opened

theorem ancestry_eq_blocks (forest : Forest β φ) (id : Nat) :
    forest.ancestry id = forest.blocks id ++ [forest.root id] := by
  have nonempty := forest.ancestry_ne_nil id
  unfold blocks root
  rw [List.getLastD_eq_getLast?, List.getLast?_eq_some_getLast nonempty, Option.getD_some,
    List.dropLast_concat_getLast]

theorem mem_ancestry_of_mem_blocks (forest : Forest β φ) (member : other ∈ forest.blocks id) :
    other ∈ forest.ancestry id :=
  (List.dropLast_sublist _).mem member

theorem root_mem_ancestry (forest : Forest β φ) (id : Nat) :
    forest.root id ∈ forest.ancestry id := by
  rw [ancestry_eq_blocks]
  exact List.mem_append_right _ (List.mem_singleton_self _)

theorem Ordered.pairwise_ancestry (ordered : forest.Ordered) (id : Nat) :
    (forest.ancestry id).Pairwise (· > ·) := by
  induction id using Nat.strongRecOn with
  | ind id inductionHypothesis =>
      cases parentEq : forest.parent? id with
      | none =>
          rw [ancestry_of_no_parent parentEq]
          exact List.pairwise_singleton _ id
      | some parent =>
          have lower := ordered id parent parentEq
          rw [ordered.ancestry_of_parent parentEq, List.pairwise_cons]
          refine ⟨fun outer member => ?_, inductionHypothesis parent lower⟩
          have further := ordered.le_of_inside (ordered.mem_ancestry.mp member)
          exact Nat.lt_of_le_of_lt further lower

theorem Ordered.root_not_mem_blocks (ordered : forest.Ordered) (id : Nat) :
    forest.root id ∉ forest.blocks id := by
  intro member
  have falls := ordered.pairwise_ancestry id
  rw [ancestry_eq_blocks, List.pairwise_append] at falls
  exact Nat.lt_irrefl _ (falls.2.2 _ member _ (List.mem_singleton_self _))

theorem Ordered.not_mem_tail (ordered : forest.Ordered) (id : Nat) :
    id ∉ (forest.ancestry id).tail := by
  intro member
  have falls := ordered.pairwise_ancestry id
  rw [ancestry_eq_cons, List.pairwise_cons] at falls
  exact Nat.lt_irrefl id (falls.1 id member)

theorem Ordered.parent?_root (ordered : forest.Ordered) (id : Nat) :
    forest.parent? (forest.root id) = none := by
  induction id using Nat.strongRecOn with
  | ind id inductionHypothesis =>
      unfold root at inductionHypothesis ⊢
      cases parentEq : forest.parent? id with
      | none =>
          rw [ancestry_of_no_parent parentEq]
          exact parentEq
      | some parent =>
          have outer := inductionHypothesis parent (ordered id parent parentEq)
          have nonempty := forest.ancestry_ne_nil parent
          rw [List.getLastD_eq_getLast?, List.getLast?_eq_some_getLast nonempty] at outer
          rw [ordered.ancestry_of_parent parentEq, List.getLastD_eq_getLast?,
            List.getLast?_cons_of_ne_nil nonempty, List.getLast?_eq_some_getLast nonempty]
          exact outer

/-! ### What shows a chain -/

namespace Shows

theorem split_first (shows : forest.Shows id chain) :
    forest.frame? id = some chain.innermost ∧
      (forest.ancestry id).tail.filterMap forest.frame? = chain.frames.tail := by
  obtain ⟨frame, framed⟩ := frame?_of_opened shows.opened
  have framesEq := shows.frames
  unfold Forest.frames at framesEq
  rw [ancestry_eq_cons, List.filterMap_cons, framed, Chain.frames_eq_cons] at framesEq
  obtain ⟨frameEq, outerEq⟩ := List.cons.inj framesEq
  exact ⟨framed.trans (congrArg some frameEq), outerEq⟩

theorem split_root (shows : forest.Shows id chain) :
    (forest.blocks id).filterMap forest.frame? = chain.locals ∧
      forest.frame? (forest.root id) = some chain.globals := by
  have rootOpened := shows.ordered.opened_of_mem shows.opened (forest.root_mem_ancestry id)
  obtain ⟨frame, framed⟩ := frame?_of_opened rootOpened
  have framesEq := shows.frames
  unfold Forest.frames Chain.frames at framesEq
  rw [ancestry_eq_blocks, List.filterMap_append, List.filterMap_cons, framed,
    List.filterMap_nil] at framesEq
  obtain ⟨localsEq, globalsEq⟩ := List.append_inj' framesEq rfl
  cases globalsEq
  exact ⟨localsEq, framed⟩

theorem opened_of_mem_blocks (shows : forest.Shows id chain) (member : other ∈ forest.blocks id) :
    forest.Opened other ∧ other ≠ forest.root id := by
  refine ⟨shows.ordered.opened_of_mem shows.opened (forest.mem_ancestry_of_mem_blocks member), ?_⟩
  rintro rfl
  exact shows.ordered.root_not_mem_blocks id member

theorem of_split_root (ordered : forest.Ordered) (opened : forest.Opened id)
    (locals : (forest.blocks id).filterMap forest.frame? = chain.locals)
    (globals : forest.frame? (forest.root id) = some chain.globals) : forest.Shows id chain := by
  refine ⟨ordered, opened, ?_⟩
  unfold Forest.frames Chain.frames
  rw [ancestry_eq_blocks, List.filterMap_append, List.filterMap_cons, globals, locals]
  rfl

theorem lookupVariable (shows : forest.Shows id chain) (name : String) (offset : Nat) :
    forest.lookupVariable id name offset = chain.lookupVariable name offset := by
  unfold Forest.lookupVariable Chain.lookupVariable Chain.findVariable?
  rewrite [shows.frames]
  rfl

theorem lookupFunction (shows : forest.Shows id chain) (key : String × Nat) (offset : Nat) :
    forest.lookupFunction id key offset = chain.lookupFunction key offset := by
  unfold Forest.lookupFunction Chain.lookupFunction Chain.findFunction?
  rewrite [shows.frames]
  rfl

theorem returnType? (shows : forest.Shows id chain) :
    forest.returnType? id = chain.returnType? := by
  unfold Forest.returnType? Chain.returnType?
  rw [shows.frames]

theorem root (shows : forest.Shows id chain) :
    forest.Shows (forest.root id) (.ofGlobals chain.globals) := by
  have noParent := shows.ordered.parent?_root id
  refine ⟨shows.ordered, shows.ordered.opened_of_mem shows.opened (root_mem_ancestry _ _), ?_⟩
  unfold Forest.frames
  rw [ancestry_of_no_parent noParent, List.filterMap_cons, shows.split_root.2]
  rfl

theorem outer (shows : forest.Shows id chain) (isParent : forest.parent? id = some parent) :
    forest.Shows parent { chain with locals := chain.locals.tail } := by
  have opened := Nat.lt_trans (shows.ordered id parent isParent) shows.opened
  have outerEq := shows.split_first.2
  rw [shows.ordered.ancestry_of_parent isParent, List.tail_cons] at outerEq
  refine ⟨shows.ordered, opened, outerEq.trans ?_⟩
  obtain ⟨locals, globals⟩ := chain
  cases locals with
  | nil =>
      -- the scope around has a frame, too, so that there are two at least
      obtain ⟨frame, framed⟩ := frame?_of_opened opened
      rw [ancestry_eq_cons, List.filterMap_cons, framed] at outerEq
      cases outerEq
  | cons first outer => rfl

end Shows

/-! ### Continuing -/

namespace Continues

variable {reach wider : List Nat}

theorem refl (forest : Forest β φ) (reach : List Nat) : forest.Continues reach forest where
  performed := .refl
  opened _ opened := opened
  parents _ _ := rfl
  kept _ _ _ := rfl

theorem widen (continues : forest.Continues [] later) : forest.Continues reach later where
  performed := continues.performed
  opened := continues.opened
  parents := continues.parents
  kept other opened _ := continues.kept other opened List.not_mem_nil

theorem trans (first : forest.Continues reach middle) (second : middle.Continues wider later)
    (within : ∀ other, forest.Opened other → other ∈ wider → other ∈ reach) :
    forest.Continues reach later where
  performed := first.performed.trans second.performed
  opened other opened := second.opened other (first.opened other opened)
  parents other opened :=
    (second.parents other (first.opened other opened)).trans (first.parents other opened)
  kept other opened apart :=
    (second.kept other (first.opened other opened) (mt (within other opened) apart)).trans
      (first.kept other opened apart)

theorem followed (first : forest.Continues reach middle) (second : middle.Continues reach later) :
    forest.Continues reach later :=
  first.trans second fun _ _ member => member

theorem mono (continues : forest.Continues reach later)
    (within : ∀ other, forest.Opened other → other ∈ reach → other ∈ wider) :
    forest.Continues wider later :=
  (refl forest wider).trans continues within

theorem ordered (continues : forest.Continues reach later) (ordered : forest.Ordered) :
    later.Ordered := by
  have performed := continues.performed
  clear continues
  induction performed with
  | refl => exact ordered
  | tail _ performs inductionHypothesis =>
      obtain ⟨operation, opened, rfl⟩ := performs
      exact inductionHypothesis.perform operation opened

theorem ancestry_eq (continues : forest.Continues reach later) (ordered : forest.Ordered)
    (opened : forest.Opened id) : later.ancestry id = forest.ancestry id := by
  induction id using Nat.strongRecOn with
  | ind id inductionHypothesis =>
      have parentEq := continues.parents id opened
      cases isParent : forest.parent? id with
      | none =>
          rw [isParent] at parentEq
          rw [ancestry_of_no_parent parentEq, ancestry_of_no_parent isParent]
      | some parent =>
          have lower := ordered id parent isParent
          rw [isParent] at parentEq
          rw [(continues.ordered ordered).ancestry_of_parent parentEq,
            ordered.ancestry_of_parent isParent,
            inductionHypothesis parent lower (Nat.lt_trans lower opened)]

theorem root_eq (continues : forest.Continues reach later) (ordered : forest.Ordered)
    (opened : forest.Opened id) : later.root id = forest.root id := by
  unfold root
  rw [continues.ancestry_eq ordered opened]

theorem blocks_eq (continues : forest.Continues reach later) (ordered : forest.Ordered)
    (opened : forest.Opened id) : later.blocks id = forest.blocks id := by
  unfold blocks
  rw [continues.ancestry_eq ordered opened]

theorem filterMap_frame? (continues : forest.Continues reach later) {scopes : List Nat}
    (apart : ∀ other ∈ scopes, forest.Opened other ∧ other ∉ reach) :
    scopes.filterMap later.frame? = scopes.filterMap forest.frame? := by
  refine List.filterMap_congr fun other member => ?_
  obtain ⟨opened, outside⟩ := apart other member
  exact continues.kept other opened outside

/-- A scope out of reach, as well as those around it, shows what it showed. -/
theorem shows (continues : forest.Continues reach later) (shows : forest.Shows id chain)
    (apart : ∀ other ∈ forest.ancestry id, other ∉ reach) : later.Shows id chain := by
  refine ⟨continues.ordered shows.ordered, continues.opened id shows.opened, ?_⟩
  unfold frames
  rw [continues.ancestry_eq shows.ordered shows.opened, continues.filterMap_frame?]
  · exact shows.frames
  · exact fun other member =>
      ⟨shows.ordered.opened_of_mem shows.opened member, apart other member⟩

theorem shows_beside (continues : forest.Continues [] later) (shows : forest.Shows id chain) :
    later.Shows id chain :=
  continues.shows shows fun _ _ => List.not_mem_nil

end Continues

/-! ### Operations on the scope of a chain -/

section Operations

variable {reach : List Nat}

theorem frame?_withFrame (opened : forest.Opened id) (frame : Frame β φ) (other : Nat) :
    (forest.withFrame id frame).frame? other =
      if other = id then some frame else forest.frame? other := by
  have owns := own?_withFrame opened frame some other
  unfold own? at owns
  rwa [Option.bind_fun_some, Option.bind_fun_some] at owns

theorem frame?_add (forest : Forest β φ) (frame : Frame β φ) (parent : Option Nat) (other : Nat) :
    (forest.add frame parent).frame? other =
      if other = forest.scopes.length then some frame else forest.frame? other := by
  have owns := own?_add forest frame parent some other
  unfold own? at owns
  rwa [Option.bind_fun_some, Option.bind_fun_some] at owns

theorem opened_add (forest : Forest β φ) (frame : Frame β φ) (parent : Option Nat) :
    (forest.add frame parent).Opened other ↔
      other = forest.scopes.length ∨ forest.Opened other := by
  change other < (forest.scopes ++ [_]).length ↔ _ ∨ other < forest.scopes.length
  rw [List.length_append, List.length_singleton]
  omega

theorem opened_of_some (opened : forest.Opened id) :
    ∀ scope ∈ some id, forest.Opened scope :=
  fun _ isScope => Option.some.inj isScope ▸ opened

theorem continues_add (operation : Operation β φ) {parent : Option Nat}
    (scope : ∀ scope ∈ operation.scope?, forest.Opened scope)
    (adds : forest.perform operation = forest.add frame parent) :
    forest.Continues [] (forest.add frame parent) where
  performed := .single ⟨operation, scope, adds.symm⟩
  opened other opened := (forest.opened_add frame parent).mpr (.inr opened)
  parents other opened := by
    rw [parent?_add, if_neg (Nat.ne_of_lt opened)]
  kept other opened _ := by
    rw [frame?_add, if_neg (Nat.ne_of_lt opened)]

theorem continues_withFrame (operation : Operation β φ)
    (scope : ∀ scope ∈ operation.scope?, forest.Opened scope) (opened : forest.Opened id)
    (replaces : forest.perform operation = forest.withFrame id frame) :
    forest.Continues [id] (forest.withFrame id frame) where
  performed := .single ⟨operation, scope, replaces.symm⟩
  opened other opened := by
    unfold Opened withFrame
    rw [List.length_modify]
    exact opened
  parents other _ := parent?_withFrame forest id frame other
  kept other _ apart := by
    rw [frame?_withFrame opened, if_neg (List.ne_of_not_mem_cons apart)]

/-- A new scope has been opened inside another one, beside all that were there, and shows the
chain. -/
structure OpensInside (forest : Forest β φ) (id : Nat) (later : Forest β φ) (chain : Chain β φ) :
    Prop where
  continues : forest.Continues [] later
  parent : later.parent? forest.scopes.length = some id
  shows : later.Shows forest.scopes.length chain

theorem OpensInside.ancestry_eq (opens : forest.OpensInside id later chain)
    (ordered : forest.Ordered) (opened : forest.Opened id) :
    later.ancestry forest.scopes.length = forest.scopes.length :: forest.ancestry id := by
  rw [opens.shows.ordered.ancestry_of_parent opens.parent,
    opens.continues.ancestry_eq ordered opened]

/-- Of the scopes that were there, those around the new one lie around the other one, too. -/
theorem OpensInside.around (opens : forest.OpensInside id later chain)
    (ordered : forest.Ordered) (opened : forest.Opened id) (isOpened : forest.Opened other)
    (member : other ∈ later.ancestry forest.scopes.length) : other ∈ forest.ancestry id := by
  rw [opens.ancestry_eq ordered opened] at member
  exact (List.mem_cons.mp member).resolve_left (Nat.ne_of_lt isOpened)

namespace Shows

theorem add (shows : forest.Shows id chain)
    (continues : forest.Continues [] (forest.add frame (some id))) :
    forest.OpensInside id (forest.add frame (some id)) (chain.push frame) := by
  have isParent := parent?_add forest frame (some id) forest.scopes.length
  rw [if_pos rfl] at isParent
  have ordered := continues.ordered shows.ordered
  have outer := continues.shows_beside shows
  refine ⟨continues, isParent, ordered, (opened_add _ _ _).mpr (.inl rfl), ?_⟩
  unfold Forest.frames
  rw [ordered.ancestry_of_parent isParent, List.filterMap_cons, frame?_add, if_pos rfl]
  exact congrArg (frame :: ·) outer.frames

theorem child (shows : forest.Shows id chain) :
    forest.OpensInside id (forest.perform (.child id)) chain.child :=
  shows.add (continues_add (.child id) (opened_of_some shows.opened) rfl)

theorem functionBody (shows : forest.Shows id chain) (returnType : Ty) :
    forest.OpensInside id (forest.perform (.functionBody id returnType)) (chain.body returnType) :=
  shows.add (continues_add (.functionBody id returnType) (opened_of_some shows.opened) rfl)

theorem withFrame (shows : forest.Shows id chain)
    (continues : forest.Continues [id] (forest.withFrame id frame)) :
    (forest.withFrame id frame).Shows id (chain.withInnermost frame) := by
  refine ⟨continues.ordered shows.ordered, continues.opened id shows.opened, ?_⟩
  have outer : (forest.ancestry id).tail.filterMap (forest.withFrame id frame).frame? =
      (forest.ancestry id).tail.filterMap forest.frame? := by
    refine continues.filterMap_frame? fun other member => ?_
    refine ⟨shows.ordered.opened_of_mem shows.opened (List.mem_of_mem_tail member), ?_⟩
    rw [List.mem_singleton]
    rintro rfl
    exact shows.ordered.not_mem_tail other member
  unfold Forest.frames
  rw [continues.ancestry_eq shows.ordered shows.opened, ancestry_eq_cons, List.filterMap_cons,
    frame?_withFrame shows.opened, if_pos rfl, outer, shows.split_first.2,
    Chain.frames_withInnermost]

theorem replaces (shows : forest.Shows id chain) (operation : Operation β φ)
    (onScope : operation.scope? = some id)
    (replaces : forest.perform operation = forest.withFrame id frame) :
    forest.Continues [id] (forest.withFrame id frame) ∧
      (forest.withFrame id frame).Shows id (chain.withInnermost frame) := by
  have continues := continues_withFrame operation (onScope ▸ opened_of_some shows.opened)
    shows.opened replaces
  exact ⟨continues, shows.withFrame continues⟩

theorem defineVariable_eq (shows : forest.Shows id chain) (name : String) (entry : β)
    (offset : Nat) :
    forest.defineVariable id name entry offset =
      (chain.innermost.defineVariable name entry offset).map (forest.withFrame id) := by
  unfold Forest.defineVariable
  rw [shows.split_first.1, Option.getD_some]

theorem defineFunction_eq (shows : forest.Shows id chain) (key : String × Nat) (entry : φ)
    (offset : Nat) :
    forest.defineFunction id key entry offset =
      (chain.innermost.defineFunction key entry offset).map (forest.withFrame id) := by
  unfold Forest.defineFunction
  rw [shows.split_first.1, Option.getD_some]

theorem definesVariable (shows : forest.Shows id chain) {name : String} {entry : β} {offset : Nat}
    (defined : chain.innermost.defineVariable name entry offset = .ok frame) :
    forest.Continues [id] (forest.withFrame id frame) ∧
      (forest.withFrame id frame).Shows id (chain.withInnermost frame) := by
  apply shows.replaces (.defineVariable id name entry offset) rfl
  change forest.settle (forest.defineVariable id name entry offset) = _
  rw [shows.defineVariable_eq, defined]
  rfl

theorem definesFunction (shows : forest.Shows id chain) {key : String × Nat} {entry : φ}
    {offset : Nat} (defined : chain.innermost.defineFunction key entry offset = .ok frame) :
    forest.Continues [id] (forest.withFrame id frame) ∧
      (forest.withFrame id frame).Shows id (chain.withInnermost frame) := by
  apply shows.replaces (.defineFunction id key entry offset) rfl
  change forest.settle (forest.defineFunction id key entry offset) = _
  rw [shows.defineFunction_eq, defined]
  rfl

end Shows

theorem shows_withFunctions (functions : List ((String × Nat) × φ)) :
    ((empty : Forest β φ).perform (.withFunctions functions)).Shows 0
      (.ofGlobals (.ofFunctions functions)) := by
  have noParent : ((empty : Forest β φ).perform (.withFunctions functions)).parent? 0 = none := rfl
  have ordered := ordered_empty.perform (.withFunctions functions : Operation β φ)
    fun _ impossible => nomatch impossible
  refine ⟨ordered, Nat.zero_lt_one, ?_⟩
  unfold frames
  rw [ancestry_of_no_parent noParent]
  rfl

end Operations

/-! ### Updates -/

section Updates

variable {name : String} {change : β → β} {scopes : List Nat}

theorem getD_updateFirst (locals : List (Frame β φ)) (globals : Frame β φ) :
    (Chain.updateFirst name change (locals ++ [globals])).getD (locals ++ [globals]) =
      ((Chain.updateFirst name change locals).map (· ++ [globals])).getD
        (locals ++ [globals.updateVariable name change]) := by
  induction locals with
  | nil =>
      simp only [List.nil_append, Chain.updateFirst]
      cases free : globals.findVariable? name with
      | none => exact congrArg ([·]) (Frame.updateVariable_of_free free).symm
      | some entry => rfl
  | cons frame outer inductionHypothesis =>
      simp only [List.cons_append, Chain.updateFirst]
      cases frame.findVariable? name with
      | some entry => rfl
      | none =>
          dsimp only
          rw [Option.map_map, Option.getD_map, inductionHypothesis]
          cases Chain.updateFirst name change outer with
          | none => rfl
          | some updated => rfl

/-- Of the frames of a chain, an update changes the first one that binds the name. -/
theorem frames_updateVariable (chain : Chain β φ) (name : String) (change : β → β) :
    (chain.updateVariable name change).frames =
      (Chain.updateFirst name change chain.frames).getD chain.frames := by
  unfold Chain.updateVariable Chain.frames
  rw [getD_updateFirst]
  cases Chain.updateFirst name change chain.locals with
  | none => rfl
  | some updated => rfl

theorem updateFirst_filterMap (opened : ∀ other ∈ scopes, forest.Opened other)
    (distinct : scopes.Nodup) (name : String) (change : β → β) :
    Chain.updateFirst name change (scopes.filterMap forest.frame?) =
      (scopes.find? fun other =>
          ((forest.frame? other).bind (·.findVariable? name)).isSome).map fun owner =>
        scopes.filterMap (forest.withFrame owner
          (((forest.frame? owner).getD .empty).updateVariable name change)).frame? := by
  induction scopes with
  | nil => rfl
  | cons first rest inductionHypothesis =>
      obtain ⟨frame, framed⟩ := frame?_of_opened (opened first List.mem_cons_self)
      have restOpened : ∀ other ∈ rest, forest.Opened other :=
        fun other member => opened other (List.mem_cons_of_mem first member)
      obtain ⟨fresh, restDistinct⟩ := List.nodup_cons.mp distinct
      rw [List.filterMap_cons, framed, List.find?_cons, framed, Chain.updateFirst,
        Option.bind_some]
      cases bound : frame.findVariable? name with
      | some entry =>
          rw [Option.isSome_some]
          dsimp only
          rw [Option.map_some, framed, Option.getD_some, List.filterMap_cons,
            frame?_withFrame (opened first List.mem_cons_self), if_pos rfl]
          refine congrArg some (congrArg (_ :: ·) ?_)
          refine List.filterMap_congr fun other member => ?_
          rw [frame?_withFrame (opened first List.mem_cons_self), if_neg]
          rintro rfl
          exact fresh member
      | none =>
          rw [Option.isSome_none, inductionHypothesis restOpened restDistinct, Option.map_map]
          refine Option.map_congr fun owner found => ?_
          have member := List.mem_of_find?_eq_some found
          rw [Function.comp_apply, List.filterMap_cons, frame?_withFrame (restOpened owner member),
            if_neg, framed]
          rintro rfl
          exact fresh member

theorem Ordered.nodup_ancestry (ordered : forest.Ordered) (id : Nat) :
    (forest.ancestry id).Nodup :=
  (ordered.pairwise_ancestry id).imp fun falls => (Nat.ne_of_lt falls).symm

namespace Shows

/-- An update reaches the scope and those around it. -/
theorem updateVariable (shows : forest.Shows id chain) (name : String) (change : β → β) :
    ∃ later, forest.Continues (forest.ancestry id) later ∧
      later.Shows id (chain.updateVariable name change) := by
  have opened : ∀ other ∈ forest.ancestry id, forest.Opened other :=
    fun _ => shows.ordered.opened_of_mem shows.opened
  have updated := updateFirst_filterMap opened (shows.ordered.nodup_ancestry id) name change
  have framesEq := frames_updateVariable chain name change
  have shown := shows.frames
  unfold Forest.frames at shown
  rw [← shown, updated] at framesEq
  cases isOwner : forest.owner? id name with
  | none =>
      unfold owner? at isOwner
      rw [isOwner] at framesEq
      exact ⟨forest, .refl _ _, shows.ordered, shows.opened, framesEq.symm⟩
  | some owner =>
      have member : owner ∈ forest.ancestry id := List.mem_of_find?_eq_some isOwner
      have continues := continues_withFrame (.updateVariable id name change)
        (opened_of_some shows.opened) (opened owner member)
        (updateVariable_eq forest change isOwner)
      refine ⟨_, continues.mono ?_, continues.ordered shows.ordered,
        continues.opened id shows.opened, ?_⟩
      · intro other _ isOther
        exact List.mem_singleton.mp isOther ▸ member
      · unfold owner? at isOwner
        rw [isOwner] at framesEq
        unfold Forest.frames
        rw [continues.ancestry_eq shows.ordered shows.opened, framesEq]
        rfl

end Shows

end Updates

end Forest
end ScriptLang
