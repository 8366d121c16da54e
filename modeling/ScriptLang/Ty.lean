import ScriptLang.Error.Basic

/-!
Static types.

There are six concrete types, `Any`, which accepts every type, and `Comparable`, which accepts
every type but `Boolean`.
-/

namespace ScriptLang

inductive Ty where
  | any
  | nil
  | comparable
  | boolean
  | integer
  | decimal
  | character
  | string
  deriving DecidableEq, Inhabited, Repr

namespace Ty

def name : Ty → String
  | any => "Any"
  | nil => "Nil"
  | comparable => "Comparable"
  | boolean => "Boolean"
  | integer => "Integer"
  | decimal => "Decimal"
  | character => "Character"
  | string => "String"

def all : List Ty :=
  [any, nil, comparable, boolean, integer, decimal, character, string]

def ofName? (name : String) : Option Ty :=
  all.find? fun ty => ty.name == name

/-- The type that an annotation at the given offset names. -/
def resolve (name : String) (offset : Nat) : Except Fault Ty :=
  match ofName? name with
  | some ty => .ok ty
  | none => .error { cause := .unknownType name, offset := offset }

def isNumeric : Ty → Bool
  | integer | decimal => true
  | _ => false

/-- Whether a value of type `source` may stand where `target` is expected. -/
def accepts (target source : Ty) : Bool :=
  match target with
  | any => true
  | comparable => source != boolean
  | _ => target == source

def require (target source : Ty) (offset : Nat) : Except Fault Unit :=
  if target.accepts source then .ok ()
  else .error { cause := .typeMatchError target.name source.name, offset := offset }

theorem resolve_eq_ok {name : String} {offset : Nat} {ty : Ty} :
    resolve name offset = .ok ty ↔ ofName? name = some ty := by
  unfold resolve
  cases ofName? name with
  | none =>
      simp
  | some found =>
      simp

theorem require_eq_ok {target source : Ty} {offset : Nat} {done : Unit} :
    target.require source offset = .ok done ↔ target.accepts source = true := by
  unfold require
  by_cases accepted : target.accepts source = true
  · simp [accepted]
  · simp [accepted]

theorem accepts_self (ty : Ty) : ty.accepts ty = true := by
  cases ty with
  | _ => rfl

/-- Only `Any` and `Comparable` accept other types than themselves. -/
theorem eq_of_accepts {target source : Ty} (isNotAny : target ≠ any)
    (isNotComparable : target ≠ comparable) (accepted : target.accepts source = true) :
    source = target := by
  cases target with
  | any =>
      contradiction
  | comparable =>
      contradiction
  | _ =>
      exact (eq_of_beq accepted).symm

end Ty
end ScriptLang
