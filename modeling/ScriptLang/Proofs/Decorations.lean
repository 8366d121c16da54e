import ScriptLang.Proofs.Preservation
import ScriptLang.Proofs.ReadTrees

/-!
Checked trees are decorated throughout.

Every slot of a typed tree is filled, and what fills it is found under the name that stands in the
tree: scopes bind variables and functions under their own names only.
-/

namespace ScriptLang

open Typing

/-! ### Trees with all their decorations -/

/-- The slot holds the variable of that name. -/
def TargetNamed (name : String) (target : Option Variable) : Prop :=
  ∃ found, target = some found ∧ found.name = name

/-- The slot holds the function of that name and number of parameters. -/
def CalleeNamed (name : String) (arity : Nat) (callee : Option Callee) : Prop :=
  ∃ found, callee = some found ∧ found.signature.name = name ∧
    found.signature.parameterTypes.length = arity

mutual

/-- Every expression in the expression has a type, every access a variable, and every call a
function. -/
def Expr.Decorated : Expr → Prop
  | .literal _ _ ty => ty.isSome
  | .group inner _ ty => ty.isSome ∧ inner.Decorated
  | .binary _ left right _ ty => ty.isSome ∧ left.Decorated ∧ right.Decorated
  | .access name _ ty target => ty.isSome ∧ TargetNamed name target
  | .element name index _ ty target => ty.isSome ∧ TargetNamed name target ∧ index.Decorated
  | .call name arguments _ ty callee =>
      ty.isSome ∧ CalleeNamed name arguments.length callee ∧ AllDecorated arguments
  | .list elements _ ty => ty.isSome ∧ AllDecorated elements

def AllDecorated : List Expr → Prop
  | [] => True
  | first :: rest => first.Decorated ∧ AllDecorated rest

end

def OptionDecorated (value : Option Expr) : Prop :=
  ∀ e, value = some e → e.Decorated

mutual

/-- The expressions in the statement are decorated, and so are the variables it declares. -/
def Stmt.Decorated : Stmt → Prop
  | .expression value _ => value.Decorated
  | .declaration name _ value _ target => TargetNamed name target ∧ OptionDecorated value
  | .assignment receiver value _ => receiver.Decorated ∧ value.Decorated
  | .conditional condition thenBlock elseBlock _ =>
      condition.Decorated ∧ BlockDecorated thenBlock ∧ BlockDecorated elseBlock
  | .switch condition cases _ => condition.Decorated ∧ CasesDecorated cases
  | .loop condition body _ => condition.Decorated ∧ BlockDecorated body
  | .result value _ => value.Decorated

def BlockDecorated : List Stmt → Prop
  | [] => True
  | first :: rest => first.Decorated ∧ BlockDecorated rest

def CasesDecorated : List Case → Prop
  | [] => True
  | .mk value body _ :: rest => OptionDecorated value ∧ BlockDecorated body ∧ CasesDecorated rest

end

structure GlobalDecl.Decorated (global : GlobalDecl) : Prop where
  target : TargetNamed global.name global.target
  value : OptionDecorated global.value

structure FunctionDecl.Decorated (function : FunctionDecl) : Prop where
  callee : CalleeNamed function.name function.arity function.callee
  body : BlockDecorated function.body

/-- No slot of the tree is empty. -/
structure Source.Decorated (source : Source) : Prop where
  globals : ∀ global ∈ source.globals, global.Decorated
  functions : ∀ function ∈ source.functions, function.Decorated

theorem OptionDecorated.none : OptionDecorated none := by
  intro e impossible
  cases impossible

theorem OptionDecorated.some {e : Expr} (decorated : e.Decorated) :
    OptionDecorated (some e) := by
  rintro _ ⟨⟩
  exact decorated

/-! ### Scopes that bind under names -/

structure LabelledFrame (frame : StaticFrame) : Prop where
  targets : ∀ name target, frame.findVariable? name = some target → target.name = name
  callees : ∀ key callee, frame.findFunction? key = some callee → callee.signature.key = key

def Labelled (scope : StaticScope) : Prop :=
  ∀ frame ∈ scope.frames, LabelledFrame frame

namespace LabelledFrame

variable {frame : StaticFrame}

theorem ofEmpty (returnType : Option Ty) :
    LabelledFrame { Frame.empty with returnType := returnType } where
  targets := nofun
  callees := nofun

theorem addVariable (labelled : LabelledFrame frame) {name : String} {target : Variable}
    (named : target.name = name) : LabelledFrame (frame.addVariable name target) where
  targets := by
    intro other found bound
    rw [Frame.findVariable?_addVariable] at bound
    by_cases same : other = name
    · rw [if_pos same] at bound
      cases bound
      rw [named, same]
    · rw [if_neg same] at bound
      exact labelled.targets other found bound
  callees := labelled.callees

theorem addFunction (labelled : LabelledFrame frame) (callee : Callee) :
    LabelledFrame (frame.addFunction callee.signature.key callee) where
  targets := labelled.targets
  callees := by
    intro key found bound
    rw [Frame.findFunction?_addFunction] at bound
    by_cases same : key = callee.signature.key
    · rw [if_pos same] at bound
      cases bound
      exact same.symm
    · rw [if_neg same] at bound
      exact labelled.callees key found bound

end LabelledFrame

theorem labelled_builtinFrame : LabelledFrame builtinFrame where
  targets := nofun
  callees := by
    intro key callee bound
    obtain ⟨builtin, _, rfl, rfl⟩ := Frame.findFunction?_ofBuiltins.mp bound
    rfl

namespace Labelled

variable {scope outer : StaticScope} {frame : StaticFrame}

theorem ofGlobals (labelled : LabelledFrame frame) : Labelled (.ofGlobals frame) :=
  List.forall_mem_singleton.mpr labelled

theorem push (labelled : Labelled outer) (innermost : LabelledFrame frame) :
    Labelled (outer.push frame) :=
  List.forall_mem_cons.mpr ⟨innermost, labelled⟩

theorem child (labelled : Labelled scope) : Labelled (scope.push .empty) :=
  labelled.push (.ofEmpty none)

theorem body (labelled : Labelled scope) {returnType : Ty} :
    Labelled (scope.push { Frame.empty with returnType := some returnType }) :=
  labelled.push (.ofEmpty (some returnType))

theorem addVariable (labelled : Labelled (outer.push frame)) {name : String} {target : Variable}
    (named : target.name = name) : Labelled (outer.push (frame.addVariable name target)) := by
  obtain ⟨innermost, others⟩ := List.forall_mem_cons.mp labelled
  exact push others (innermost.addVariable named)

theorem target (labelled : Labelled scope) {name : String} {found : Variable}
    (bound : scope.findVariable? name = some found) : TargetNamed name (some found) := by
  obtain ⟨frame, member, inFrame⟩ := List.exists_of_findSome?_eq_some bound
  exact ⟨found, rfl, (labelled frame member).targets name found inFrame⟩

theorem callee (labelled : Labelled scope) {name : String} {arity : Nat} {found : Callee}
    (bound : scope.findFunction? (name, arity) = some found) :
    CalleeNamed name arity (some found) := by
  obtain ⟨frame, member, inFrame⟩ := List.exists_of_findSome?_eq_some bound
  have keyEq := (labelled frame member).callees _ found inFrame
  exact ⟨found, rfl, congrArg Prod.fst keyEq, congrArg Prod.snd keyEq⟩

end Labelled

/-! ### Typed trees are decorated -/

variable {D : Discipline}

mutual

theorem ExprTyped.decorated {scope : StaticScope} (labelled : Labelled scope) (e : Expr)
    {context : Option Ty} {ty : Ty} (typed : ExprTyped D scope context e ty) : e.Decorated := by
  cases e with
  | literal value span found =>
      cases typed with
      | literal inRange => exact rfl
  | group inner span found =>
      cases typed with
      | group innerTyped => exact ⟨rfl, innerTyped.decorated labelled inner⟩
  | binary op left right span found =>
      cases typed with
      | binary leftTyped rightTyped rule =>
          exact ⟨rfl, leftTyped.decorated labelled left, rightTyped.decorated labelled right⟩
  | access name span found target =>
      cases typed with
      | access bound whole => exact ⟨rfl, labelled.target bound⟩
  | element name index span found target =>
      cases typed with
      | element indexTyped bound isList =>
          exact ⟨rfl, labelled.target bound, indexTyped.decorated labelled index⟩
  | call name arguments span found callee =>
      cases typed with
      | call bound argumentsTyped =>
          exact ⟨rfl, labelled.callee bound, argumentsTyped.decorated labelled arguments⟩
  | list elements span found => cases typed

theorem ExprsTyped.decorated {scope : StaticScope} (labelled : Labelled scope) (es : List Expr)
    {types : List Ty} (typed : ExprsTyped D scope types es) : AllDecorated es := by
  cases es with
  | nil => trivial
  | cons first rest =>
      cases typed with
      | cons firstTyped accepts restTyped =>
          exact ⟨firstTyped.decorated labelled first, restTyped.decorated labelled rest⟩

end

theorem BindingTyped.decorated {scope : StaticScope} (labelled : Labelled scope)
    {value : Option Expr} {ty : Ty} (typed : BindingTyped D scope value ty) :
    OptionDecorated value := by
  cases typed with
  | inferred typed => exact .some (typed.decorated labelled _)
  | given named typed accepts => exact .some (typed.decorated labelled _)
  | blank => exact .none

mutual

theorem StmtTyped.decorated {returns : Ty} {outer : StaticScope} {frame next : StaticFrame}
    (labelled : Labelled (outer.push frame)) (s : Stmt)
    (typed : StmtTyped D returns outer frame s next) :
    s.Decorated ∧ Labelled (outer.push next) := by
  cases s with
  | expression value span =>
      cases typed with
      | expression typed => exact ⟨typed.decorated labelled value, labelled⟩
  | declaration name typeName value span target =>
      cases typed with
      | declaration typed unbound =>
          exact ⟨⟨⟨_, rfl, rfl⟩, typed.decorated labelled⟩, labelled.addVariable rfl⟩
  | assignment receiver value span =>
      cases typed with
      | assignWhole bound isSingle isMutable typed accepts =>
          exact ⟨⟨⟨rfl, labelled.target bound⟩, typed.decorated labelled value⟩, labelled⟩
      | assignElement indexTyped bound isList isMutable typed accepts =>
          exact ⟨⟨⟨rfl, labelled.target bound, indexTyped.decorated labelled _⟩,
            typed.decorated labelled value⟩, labelled⟩
  | conditional condition thenBlock elseBlock span =>
      cases typed with
      | conditional conditionTyped thenTyped elseTyped =>
          exact ⟨⟨conditionTyped.decorated labelled condition,
            thenTyped.decorated labelled.child thenBlock,
            elseTyped.decorated labelled.child elseBlock⟩, labelled⟩
  | switch condition cases span =>
      cases typed with
      | switch subjectTyped casesTyped =>
          exact ⟨⟨subjectTyped.decorated labelled condition, casesTyped.decorated labelled cases⟩,
            labelled⟩
  | loop condition body span =>
      cases typed with
      | loop conditionTyped bodyTyped =>
          exact ⟨⟨conditionTyped.decorated labelled condition,
            bodyTyped.decorated labelled.child body⟩, labelled⟩
  | result value span =>
      cases typed with
      | result typed accepts => exact ⟨typed.decorated labelled value, labelled⟩

theorem BlockTyped.decorated {returns : Ty} {outer : StaticScope} {frame : StaticFrame}
    (labelled : Labelled (outer.push frame)) (b : List Stmt)
    (typed : BlockTyped D returns outer frame b) : BlockDecorated b := by
  cases b with
  | nil => trivial
  | cons first rest =>
      cases typed with
      | cons firstTyped restTyped =>
          obtain ⟨firstDecorated, behind⟩ := firstTyped.decorated labelled first
          exact ⟨firstDecorated, restTyped.decorated behind rest⟩

theorem CasesTyped.decorated {returns : Ty} {scope : StaticScope} (labelled : Labelled scope)
    (cs : List Case) (typed : CasesTyped D returns scope cs) : CasesDecorated cs := by
  cases cs with
  | nil => trivial
  | cons first rest =>
      obtain ⟨value, body, span⟩ := first
      cases typed with
      | value valueTyped bodyTyped restTyped =>
          exact ⟨.some (valueTyped.decorated labelled _),
            bodyTyped.decorated labelled.child body, restTyped.decorated labelled rest⟩
      | default bodyTyped restTyped =>
          exact ⟨.none, bodyTyped.decorated labelled.child body,
            restTyped.decorated labelled rest⟩

end

/-! ### Typed programs are decorated -/

theorem GlobalTyped.decorated {globals : StaticFrame} (labelled : LabelledFrame globals)
    {global : GlobalDecl} {target : Variable} (typed : GlobalTyped D globals global target)
    (found : global.target = some target) : global.Decorated := by
  have scopeLabelled := Labelled.ofGlobals labelled
  cases typed with
  | list isList initial named sized typed =>
      refine ⟨⟨_, found, rfl⟩, ?_⟩
      rw [initial]
      exact .some ⟨rfl, typed.decorated scopeLabelled _⟩
  | single isSingle typed => exact ⟨⟨_, found, rfl⟩, typed.decorated scopeLabelled⟩

theorem GlobalsTyped.decorated {globals last : StaticFrame} (labelled : LabelledFrame globals)
    {list : List GlobalDecl} (typed : GlobalsTyped D globals list last) :
    (∀ global ∈ list, global.Decorated) ∧ LabelledFrame last := by
  induction typed with
  | nil => exact ⟨List.forall_mem_nil _, labelled⟩
  | cons firstTyped found unbound _ inductionHypothesis =>
      have firstDecorated := firstTyped.decorated labelled found
      obtain ⟨named, sameTarget, nameEq⟩ := firstDecorated.target
      cases found.symm.trans sameTarget
      obtain ⟨restDecorated, lastLabelled⟩ := inductionHypothesis (labelled.addVariable nameEq)
      exact ⟨List.forall_mem_cons.mpr ⟨firstDecorated, restDecorated⟩, lastLabelled⟩

theorem FunctionsDeclared.labelled {globals last : StaticFrame} (labelled : LabelledFrame globals)
    {list : List FunctionDecl} (declared : FunctionsDeclared globals list last) :
    LabelledFrame last ∧ ∀ function ∈ list, ∃ callee, function.callee = some callee ∧
      callee.signature.name = function.name := by
  induction declared with
  | nil => exact ⟨labelled, List.forall_mem_nil _⟩
  | @cons _ _ _ _ callee decorated named _ _ _ inductionHypothesis =>
      obtain ⟨lastLabelled, restNamed⟩ := inductionHypothesis (labelled.addFunction callee)
      exact ⟨lastLabelled, List.forall_mem_cons.mpr ⟨⟨callee, decorated, named⟩, restNamed⟩⟩

theorem Labelled.bindParameters {offset : Nat} {outer : StaticScope} {frame inner : StaticFrame}
    {parameters : List (Parameter × Ty)} (labelled : Labelled (outer.push frame))
    (bound : bindParameters offset (outer.push frame) parameters = .ok (outer.push inner)) :
    Labelled (outer.push inner) := by
  induction parameters generalizing frame with
  | nil =>
      cases bound
      exact labelled
  | cons first rest inductionHypothesis =>
      rw [Typing.bindParameters] at bound
      obtain ⟨wider, defined, bound⟩ := bind_eq_ok.mp bound
      obtain ⟨_, rfl⟩ := Chain.defineVariable_push_eq_ok.mp defined
      refine inductionHypothesis (labelled.addVariable ?_) bound
      rfl

theorem SourceTyped.decorated {source : Source} {early globals : StaticFrame}
    (typed : SourceTyped D source early globals) : source.Decorated := by
  obtain ⟨globalsDecorated, earlyLabelled⟩ := typed.globalsTyped.decorated labelled_builtinFrame
  obtain ⟨labelled, named⟩ := typed.declared.labelled earlyLabelled
  refine ⟨globalsDecorated, ?_⟩
  intro function member
  obtain ⟨callee, found, nameEq⟩ := named function member
  have bodyTyped := typed.bodies function member callee found
  generalize signatureEq : callee.signature = signature at bodyTyped
  cases bodyTyped with
  | declared arity typesNamed returnsNamed bound blockTyped ends =>
      refine ⟨⟨callee, found, nameEq, ?_⟩, ?_⟩
      · rw [signatureEq]
        exact arity
      · exact blockTyped.decorated ((Labelled.ofGlobals labelled).body.bindParameters bound) _

/-! ### Program texts -/

namespace Program

/-- The tree that checking yields is the tree of the text with a decoration in every slot. -/
theorem check_decorates {text file : String} {source : Source}
    (checked : check text file = .ok source) :
    Source.parse text = .ok source.erased ∧ source.Decorated := by
  obtain ⟨tree, parsed, accepted⟩ := check_eq_ok.mp checked
  obtain ⟨early, globals, typed⟩ := typed_of_check checked
  refine ⟨?_, typed.decorated⟩
  rw [Source.erased_of_check accepted, Source.erased_of_parse parsed]
  exact parsed

/-- Has expressions at all sorts of places: in a list, an index, a receiver, a case, arguments. -/
def variedText : String :=
  "LIST ns: Integer = [1, 2]; VAL k = (1); FUN pick(i: Integer): Integer DO RETURN ns[i - k]; END "
    ++ "FUN main(): Integer DO LET s = 0; WHILE s < 2 DO s = s + pick(1); ns[s - 1] = s; END "
    ++ "SWITCH s CASE pick(2): print(ns); DEFAULT IF TRUE DO s = 3; END END RETURN s; END"

theorem check_decorates_varied :
    ∃ source, check variedText "varied" = .ok source ∧
      Source.parse variedText = .ok source.erased ∧ source.Decorated := by
  have accepted : (check variedText "varied").isOk = true := by decide +kernel
  cases checked : check variedText "varied" with
  | error error =>
      rw [checked] at accepted
      cases accepted
  | ok source => exact ⟨source, rfl, check_decorates checked⟩

end Program
end ScriptLang
