import Mathlib.Logic.Relation
import ScriptLang.Scope.Forest

/-!
What a scope sees of the scopes around it.

The parents of a scope, their parents and so on make up its parent chain.  Every scope is opened
after the one around it, so the numbers fall along a chain, and chains are finite and never meet a
scope twice.  What a scope sees is what the nearest scope of its chain shows.
-/

namespace ScriptLang
namespace Forest

variable {β φ γ : Type} {forest : Forest β φ} {view : Frame β φ → Option γ}
  {inner outer parent : Nat} {value : γ}

/-- The second scope is on the parent chain of the first; it may be the first itself. -/
def Inside (forest : Forest β φ) : Nat → Nat → Prop :=
  Relation.ReflTransGen fun inner outer => forest.parent? inner = some outer

/-- What a view of its frame shows in a scope, whatever is around it. -/
def own? (forest : Forest β φ) (view : Frame β φ → Option γ) (id : Nat) : Option γ :=
  (forest.frame? id).bind view

/-- What a scope sees in a view of the frames of its parent chain, from the inside out. -/
def seen? (forest : Forest β φ) (view : Frame β φ → Option γ) (id : Nat) : Option γ :=
  (forest.frames id).findSome? view

def nearest? (forest : Forest β φ) (view : Frame β φ → Option γ) (id : Nat) : Option Nat :=
  (forest.ancestry id).find? fun outer => (forest.own? view outer).isSome

/-- Of the scopes on the parent chain in which the view shows something, `outer` is the one that
is nearest, and it shows the value. -/
structure Nearest (forest : Forest β φ) (view : Frame β φ → Option γ) (inner outer : Nat)
    (value : γ) : Prop where
  inside : forest.Inside inner outer
  own : forest.own? view outer = some value
  nearest : ∀ other, forest.Inside inner other → (forest.own? view other).isSome →
    forest.Inside outer other

/-- Every scope is opened after the one around it. -/
def Ordered (forest : Forest β φ) : Prop :=
  ∀ inner outer, forest.parent? inner = some outer → outer < inner

/-! ### Parent chains -/

theorem inside_refl (id : Nat) : forest.Inside id id :=
  .refl

theorem Inside.trans {middle : Nat} (first : forest.Inside inner middle)
    (second : forest.Inside middle outer) : forest.Inside inner outer :=
  Relation.ReflTransGen.trans first second

theorem Inside.total {other : Nat} (first : forest.Inside inner outer)
    (second : forest.Inside inner other) :
    forest.Inside outer other ∨ forest.Inside other outer := by
  refine Relation.ReflTransGen.total_of_right_unique ?_ first second
  intro id parent parent' isParent isParent'
  exact Option.some.inj (isParent.symm.trans isParent')

theorem inside_of_no_parent (noParent : forest.parent? inner = none) :
    forest.Inside inner outer ↔ outer = inner := by
  constructor
  · intro inside
    rcases Relation.ReflTransGen.cases_head inside with same | ⟨parent, isParent, _⟩
    · exact same.symm
    · rw [noParent] at isParent
      cases isParent
  · rintro rfl
    exact .refl

theorem inside_of_parent (isParent : forest.parent? inner = some parent) :
    forest.Inside inner outer ↔ outer = inner ∨ forest.Inside parent outer := by
  constructor
  · intro inside
    rcases Relation.ReflTransGen.cases_head inside with same | ⟨parent', isParent', rest⟩
    · exact .inl same.symm
    · rw [isParent] at isParent'
      cases isParent'
      exact .inr rest
  · rintro (rfl | inside)
    · exact .refl
    · exact .head isParent inside

theorem Ordered.le_of_inside (ordered : forest.Ordered) (inside : forest.Inside inner outer) :
    outer ≤ inner := by
  induction inside with
  | refl => exact Nat.le_refl inner
  | tail _ isParent inductionHypothesis =>
      exact Nat.le_trans (Nat.le_of_lt (ordered _ _ isParent)) inductionHypothesis

theorem Ordered.inside_antisymm (ordered : forest.Ordered)
    (first : forest.Inside inner outer) (second : forest.Inside outer inner) : inner = outer :=
  Nat.le_antisymm (ordered.le_of_inside second) (ordered.le_of_inside first)

theorem Ordered.wellFounded (ordered : forest.Ordered) :
    WellFounded fun outer inner => forest.parent? inner = some outer :=
  Subrelation.wf (fun {outer inner} isParent => ordered inner outer isParent) Nat.lt_wfRel.wf

theorem ancestry_of_no_parent (noParent : forest.parent? inner = none) :
    forest.ancestry inner = [inner] := by
  rw [ancestry, noParent]

theorem Ordered.ancestry_of_parent (ordered : forest.Ordered)
    (isParent : forest.parent? inner = some parent) :
    forest.ancestry inner = inner :: forest.ancestry parent := by
  rw [ancestry, isParent]
  exact if_pos (ordered inner parent isParent)

/-! ### What is seen -/

theorem seen?_eq_ancestry (forest : Forest β φ) (view : Frame β φ → Option γ) (id : Nat) :
    forest.seen? view id = (forest.ancestry id).findSome? (forest.own? view) := by
  unfold seen? frames
  induction forest.ancestry id with
  | nil =>
      rfl
  | cons first rest inductionHypothesis =>
      rw [List.filterMap_cons, List.findSome?_cons, ← inductionHypothesis]
      unfold own?
      cases forest.frame? first with
      | none => rfl
      | some frame => rw [List.findSome?_cons, Option.bind_some]

theorem seen?_of_no_parent (noParent : forest.parent? inner = none)
    (view : Frame β φ → Option γ) : forest.seen? view inner = forest.own? view inner := by
  rw [seen?_eq_ancestry, ancestry_of_no_parent noParent, List.findSome?_singleton]

/-- A scope sees what it shows itself, or else what its parent sees. -/
theorem Ordered.seen?_of_parent (ordered : forest.Ordered)
    (isParent : forest.parent? inner = some parent) (view : Frame β φ → Option γ) :
    forest.seen? view inner = (forest.own? view inner).or (forest.seen? view parent) := by
  rw [seen?_eq_ancestry, seen?_eq_ancestry, ordered.ancestry_of_parent isParent,
    List.findSome?_cons]
  cases forest.own? view inner with
  | none => rfl
  | some value => rfl

theorem Ordered.nearest_of_own (ordered : forest.Ordered)
    (own : forest.own? view inner = some value) {other : γ} :
    forest.Nearest view inner outer other ↔ outer = inner ∧ other = value := by
  constructor
  · intro isNearest
    have itself : (forest.own? view inner).isSome := by rw [own]; rfl
    obtain rfl : outer = inner :=
      ordered.inside_antisymm (isNearest.nearest inner .refl itself) isNearest.inside
    exact ⟨rfl, Option.some.inj (isNearest.own.symm.trans own)⟩
  · rintro ⟨rfl, rfl⟩
    exact ⟨.refl, own, fun other inside _ => inside⟩

theorem nearest_of_parent (isParent : forest.parent? inner = some parent)
    (own : forest.own? view inner = none) :
    forest.Nearest view inner outer value ↔ forest.Nearest view parent outer value := by
  constructor
  · rintro ⟨inside, shows, nearest⟩
    refine ⟨((inside_of_parent isParent).mp inside).resolve_left ?_, shows, ?_⟩
    · rintro rfl
      rw [own] at shows
      cases shows
    · intro other insideOther
      exact nearest other ((inside_of_parent isParent).mpr (.inr insideOther))
  · rintro ⟨inside, shows, nearest⟩
    refine ⟨(inside_of_parent isParent).mpr (.inr inside), shows, ?_⟩
    intro other insideOther otherShows
    rcases (inside_of_parent isParent).mp insideOther with rfl | further
    · rw [own] at otherShows
      cases otherShows
    · exact nearest other further otherShows

theorem nearest?_of_no_parent (noParent : forest.parent? inner = none)
    (view : Frame β φ → Option γ) :
    forest.nearest? view inner =
      if (forest.own? view inner).isSome then some inner else none := by
  unfold nearest?
  rw [ancestry_of_no_parent noParent, List.find?_singleton]

theorem Ordered.nearest?_of_parent (ordered : forest.Ordered)
    (isParent : forest.parent? inner = some parent) (view : Frame β φ → Option γ) :
    forest.nearest? view inner =
      if (forest.own? view inner).isSome then some inner else forest.nearest? view parent := by
  unfold nearest?
  rw [ordered.ancestry_of_parent isParent, List.find?_cons]
  cases (forest.own? view inner).isSome with
  | true => rfl
  | false => rfl

theorem Ordered.nearest?_eq_some (ordered : forest.Ordered) {inner : Nat} :
    forest.nearest? view inner = some outer ↔
      ∃ value, forest.Nearest view inner outer value := by
  induction inner using Nat.strongRecOn with
  | ind inner inductionHypothesis =>
      cases own : forest.own? view inner with
      | some shown =>
          have nearest : forest.nearest? view inner = some inner := by
            cases parentEq : forest.parent? inner with
            | none => rw [nearest?_of_no_parent parentEq, own]; rfl
            | some parent => rw [ordered.nearest?_of_parent parentEq, own]; rfl
          rw [nearest]
          simp only [ordered.nearest_of_own own, exists_and_left, exists_eq, and_true,
            Option.some.injEq]
          exact eq_comm
      | none =>
          cases parentEq : forest.parent? inner with
          | none =>
              rw [nearest?_of_no_parent parentEq, own]
              constructor
              · intro impossible
                cases impossible
              · rintro ⟨value, inside, shows, _⟩
                obtain rfl := (inside_of_no_parent parentEq).mp inside
                rw [own] at shows
                cases shows
          | some parent =>
              rw [ordered.nearest?_of_parent parentEq, own]
              simp only [Option.isSome_none, Bool.false_eq_true, if_false,
                nearest_of_parent parentEq own]
              exact inductionHypothesis parent (ordered inner parent parentEq)

theorem seen?_eq_bind (forest : Forest β φ) (view : Frame β φ → Option γ) (id : Nat) :
    forest.seen? view id = (forest.nearest? view id).bind (forest.own? view) := by
  rw [seen?_eq_ancestry]
  unfold nearest?
  induction forest.ancestry id with
  | nil =>
      rfl
  | cons first rest inductionHypothesis =>
      rw [List.findSome?_cons, List.find?_cons]
      cases own : forest.own? view first with
      | none => exact inductionHypothesis
      | some value => exact own.symm

/-- A scope sees what the nearest scope on its parent chain shows that shows anything. -/
theorem Ordered.seen?_eq_some (ordered : forest.Ordered) :
    forest.seen? view inner = some value ↔ ∃ outer, forest.Nearest view inner outer value := by
  rw [seen?_eq_bind, Option.bind_eq_some_iff]
  constructor
  · rintro ⟨outer, isNearest, own⟩
    obtain ⟨other, inside, shows, nearest⟩ := ordered.nearest?_eq_some.mp isNearest
    exact ⟨outer, inside, own, nearest⟩
  · rintro ⟨outer, isNearest⟩
    exact ⟨outer, ordered.nearest?_eq_some.mpr ⟨value, isNearest⟩, isNearest.own⟩

theorem Ordered.seen?_eq_none (ordered : forest.Ordered) {inner : Nat} :
    forest.seen? view inner = none ↔
      ∀ outer, forest.Inside inner outer → forest.own? view outer = none := by
  induction inner using Nat.strongRecOn with
  | ind inner inductionHypothesis =>
      cases parentEq : forest.parent? inner with
      | none =>
          rw [seen?_of_no_parent parentEq]
          simp only [inside_of_no_parent parentEq, forall_eq]
      | some parent =>
          rw [ordered.seen?_of_parent parentEq, Option.or_eq_none_iff,
            inductionHypothesis parent (ordered inner parent parentEq)]
          simp only [inside_of_parent parentEq, or_imp, forall_and, forall_eq]

end Forest
end ScriptLang
