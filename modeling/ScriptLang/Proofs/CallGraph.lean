import Mathlib.Data.List.Perm.Subperm
import ScriptLang.Evaluation.Source
import ScriptLang.Proofs.Nodes

/-!
Which functions call which.

A function calls those that have the name and the number of arguments of a call written in its body.
In a program without recursion these calls form no cycle, so that of functions each of which is
called from the body of the one before, no two are the same.
-/

namespace ScriptLang

open Relation (ReflTransGen TransGen)

/-! ### What is written in a tree -/

namespace Node

/-- The second node is the first one, or it is somewhere below it. -/
def Contains (outer inner : Node) : Prop :=
  ReflTransGen (fun outer inner => inner ∈ outer.children) outer inner

/-- In the node stands a call of that name, with so many arguments. -/
def Calls (node : Node) (key : String × Nat) : Prop :=
  ∃ name arguments span ty callee,
    node.Contains (.expression (.call name arguments span ty callee)) ∧
      key = (name, arguments.length)

/-- The nodes that stand so many steps below one of the given ones. -/
def below (nodes : List Node) : Nat → List Node
  | 0 => nodes
  | depth + 1 => (below nodes depth).flatMap children

def listed (nodes : List Node) (height : Nat) : List Node :=
  (List.range height).flatMap (below nodes)

section Listing

variable {nodes : List Node} {outer inner : Node} {height depth : Nat}

theorem exists_depth_of_contains (member : outer ∈ nodes) (contains : outer.Contains inner) :
    ∃ depth, inner ∈ below nodes depth := by
  induction contains with
  | refl => exact ⟨0, member⟩
  | tail _ child inductionHypothesis =>
      obtain ⟨depth, found⟩ := inductionHypothesis
      exact ⟨depth + 1, List.mem_flatMap.mpr ⟨_, found, child⟩⟩

theorem below_eq_nil (complete : below nodes height = []) (deeper : height ≤ depth) :
    below nodes depth = [] := by
  induction deeper with
  | refl => exact complete
  | step _ inductionHypothesis => rw [below, inductionHypothesis, List.flatMap_nil]

theorem mem_listed (complete : below nodes height = []) (member : outer ∈ nodes)
    (contains : outer.Contains inner) : inner ∈ listed nodes height := by
  obtain ⟨depth, found⟩ := exists_depth_of_contains member contains
  refine List.mem_flatMap.mpr ⟨depth, List.mem_range.mpr ?_, found⟩
  by_contra deeper
  rw [below_eq_nil complete (Nat.le_of_not_lt deeper)] at found
  exact absurd found List.not_mem_nil

end Listing

def isLoop : Node → Bool
  | statement (.loop _ _ _) => true
  | _ => false

def callKey? : Node → Option (String × Nat)
  | expression (.call name arguments _ _ _) => some (name, arguments.length)
  | _ => none

end Node

/-- What a run binds a function under: its name, and how many arguments it takes.  These are as many
as it has parameters, unless a decoration that does not fit its declaration says otherwise. -/
def FunctionDecl.boundKey (declaration : FunctionDecl) : String × Nat :=
  (Eval.functionOf declaration).signature.key

namespace Source

variable {source : Source}

/-- No loop is written anywhere in the program. -/
def LoopFree (source : Source) : Prop :=
  ∀ test body span, ¬source.HasNode (.statement (.loop test body span))

/-- In the body of the first function stands a call with the name of the second one and as many
arguments as that takes. -/
structure Calls (source : Source) (caller callee : FunctionDecl) : Prop where
  callerDeclared : caller ∈ source.functions
  calleeDeclared : callee ∈ source.functions
  written : (Node.function caller).Calls callee.boundKey

/-- No function calls itself, directly or through others. -/
def Nonrecursive (source : Source) : Prop :=
  ∀ function, ¬TransGen source.Calls function function

/-- Functions whose bodies are being run, the innermost first: each one is called, directly or
through others, by those behind it. -/
structure Nested (source : Source) (opened : List FunctionDecl) : Prop where
  declared : ∀ function ∈ opened, function ∈ source.functions
  chained : opened.Pairwise fun inner outer => TransGen source.Calls outer inner

namespace Nested

variable {opened : List FunctionDecl} {caller callee : FunctionDecl}

theorem nil (source : Source) : source.Nested [] :=
  ⟨fun _ member => absurd member List.not_mem_nil, .nil⟩

theorem singleton (member : callee ∈ source.functions) : source.Nested [callee] :=
  ⟨List.forall_mem_singleton.mpr member, List.pairwise_singleton _ _⟩

theorem cons (nested : source.Nested (caller :: opened)) (calls : source.Calls caller callee) :
    source.Nested (callee :: caller :: opened) := by
  refine ⟨List.forall_mem_cons.mpr ⟨calls.calleeDeclared, nested.declared⟩,
    List.pairwise_cons.mpr ⟨?_, nested.chained⟩⟩
  refine List.forall_mem_cons.mpr ⟨.single calls, fun outer member => ?_⟩
  exact ((List.pairwise_cons.mp nested.chained).1 outer member).tail calls

/-- Without recursion no function is entered twice. -/
theorem length_le (nested : source.Nested opened) (nonrecursive : source.Nonrecursive) :
    opened.length ≤ source.functions.length := by
  have distinct : opened.Pairwise (· ≠ ·) := by
    refine nested.chained.imp ?_
    rintro inner _ calls rfl
    exact nonrecursive inner calls
  exact (List.subperm_of_subset distinct nested.declared).length_le

end Nested

/-! ### Telling that there are no loops and no recursion -/

theorem loopFree_of_listed {height : Nat} (complete : Node.below source.roots height = [])
    (noLoops : (Node.listed source.roots height).all (fun node => !node.isLoop) = true) :
    source.LoopFree := by
  rintro test body span ⟨root, member, contains⟩
  have isListed := Node.mem_listed complete member contains
  exact absurd (List.all_eq_true.mp noLoops _ isListed) Bool.false_ne_true

/-- Every call leads to a function of a lower rank. -/
theorem nonrecursive_of_rank (rank : FunctionDecl → Nat)
    (falls : ∀ caller callee, source.Calls caller callee → rank callee < rank caller) :
    source.Nonrecursive := by
  have fallsAlong : ∀ caller callee, TransGen source.Calls caller callee →
      rank callee < rank caller := by
    intro caller callee calls
    induction calls with
    | single calls => exact falls _ _ calls
    | tail _ calls inductionHypothesis => exact (falls _ _ calls).trans inductionHypothesis
  exact fun function calls => Nat.lt_irrefl _ (fallsAlong function function calls)

theorem Calls.key_listed {caller callee : FunctionDecl} (calls : source.Calls caller callee)
    {height : Nat} (complete : Node.below [.function caller] height = []) :
    callee.boundKey ∈ (Node.listed [.function caller] height).filterMap Node.callKey? := by
  obtain ⟨name, arguments, span, ty, target, contains, keyEq⟩ := calls.written
  rw [keyEq]
  exact List.mem_filterMap.mpr
    ⟨_, Node.mem_listed complete (List.mem_singleton_self _) contains, rfl⟩

end Source

end ScriptLang
