import ScriptLang.Evaluation.Operator
import ScriptLang.Proofs.Quotients

/-!
The order and equality of values.

The order of two values of one comparable class is that of what they stand for: numbers by their
numeric value, whatever the scale, and texts by their code points.  Equality is an equivalence that
goes into lists element by element, and agrees with the order where there is one.
-/

namespace ScriptLang

namespace Decimal

theorem digitsAt_eq_toRat (d : Decimal) {scale : Int} (large : d.scale ≤ scale) :
    (d.digitsAt scale : ℚ) = d.toRat * (10 : ℚ) ^ scale := by
  have exponent : -d.scale + scale = ((scale - d.scale).toNat : Int) := by omega
  rw [digitsAt_eq, toRat, mul_assoc, ← zpow_add₀ (by norm_num), exponent, zpow_natCast]
  have power : (powerOfTen (scale - d.scale).toNat : ℚ) = 10 ^ (scale - d.scale).toNat := by
    exact_mod_cast rfl
  rw [Int.cast_mul, Int.cast_natCast, power]

/-- Decimals are ordered by the numbers that they stand for. -/
theorem order_eq_compare_toRat (a b : Decimal) : a.order b = compare a.toRat b.toRat := by
  have unit : (0 : ℚ) < (10 : ℚ) ^ max a.scale b.scale := by positivity
  calc
    a.order b =
        compare (a.digitsAt (max a.scale b.scale)) (b.digitsAt (max a.scale b.scale)) :=
      order_eq_compare_digitsAt a b
    _ = cmp (a.digitsAt (max a.scale b.scale)) (b.digitsAt (max a.scale b.scale)) :=
      (cmp_eq_compare _ _).symm
    _ = cmp (a.digitsAt (max a.scale b.scale) : ℚ) (b.digitsAt (max a.scale b.scale)) :=
      (Int.cast_strictMono.cmp_map_eq _ _).symm
    _ = cmp (a.toRat * (10 : ℚ) ^ max a.scale b.scale)
        (b.toRat * (10 : ℚ) ^ max a.scale b.scale) := by
      rw [digitsAt_eq_toRat a (le_max_left a.scale b.scale),
        digitsAt_eq_toRat b (le_max_right a.scale b.scale)]
    _ = cmp a.toRat b.toRat := cmp_mul_pos_right unit _ _
    _ = compare a.toRat b.toRat := cmp_eq_compare _ _

end Decimal

namespace Value

theorem orderChars_eq (as bs : List Char) :
    orderChars as bs = compare (as.map Char.toNat) (bs.map Char.toNat) := by
  induction as generalizing bs with
  | nil =>
      cases bs with
      | nil => rfl
      | cons b bs => rfl
  | cons a as inductionHypothesis =>
      cases bs with
      | nil => rfl
      | cons b bs =>
          rw [orderChars, inductionHypothesis, List.map_cons, List.map_cons,
            List.compare_cons_cons]

/-! ### The order -/

/-- How two values of one comparable class compare: by what they stand for. -/
inductive Compares : Value → Value → Ordering → Prop where
  | nil : Compares .nil .nil .eq
  | character (a b : Char) : Compares (.character a) (.character b) (compare a.toNat b.toNat)
  | string (a b : String) :
      Compares (.string a) (.string b)
        (compare (a.toList.map Char.toNat) (b.toList.map Char.toNat))
  | integer (a b : Int) : Compares (.integer a) (.integer b) (compare a b)
  | decimal (a b : Decimal) : Compares (.decimal a) (.decimal b) (compare a.toRat b.toRat)

theorem order?_eq_some_iff {a b : Value} {order : Ordering} :
    a.order? b = some order ↔ Compares a b order := by
  constructor
  · intro ordered
    unfold order? at ordered
    split at ordered
    · cases ordered
      exact .nil
    · cases ordered
      exact .character _ _
    · cases ordered
      rw [orderChars_eq]
      exact .string _ _
    · cases ordered
      exact .integer _ _
    · cases ordered
      rw [Decimal.order_eq_compare_toRat]
      exact .decimal _ _
    · cases ordered
  · intro compares
    cases compares with
    | nil => rfl
    | character a b => rfl
    | string a b => rw [order?, orderChars_eq]
    | integer a b => rfl
    | decimal a b => rw [order?, Decimal.order_eq_compare_toRat]

namespace Compares

variable {a b c : Value} {order first second : Ordering}

theorem swap (compares : Compares a b order) : Compares b a order.swap := by
  cases compares with
  | nil => exact .nil
  | character a b =>
      rw [← Std.OrientedOrd.eq_swap]
      exact .character b a
  | string a b =>
      rw [← Std.OrientedOrd.eq_swap]
      exact .string b a
  | integer a b =>
      rw [← Std.OrientedOrd.eq_swap]
      exact .integer b a
  | decimal a b =>
      rw [← Std.OrientedOrd.eq_swap]
      exact .decimal b a

theorem trans (below : Compares a b first) (above : Compares b c second)
    (firstLE : first.isLE = true) (secondLE : second.isLE = true) :
    ∃ order, Compares a c order ∧ order.isLE = true := by
  cases below with
  | nil =>
      cases above
      exact ⟨.eq, .nil, rfl⟩
  | character a b =>
      cases above
      exact ⟨_, .character a _, Std.TransOrd.isLE_trans firstLE secondLE⟩
  | string a b =>
      cases above
      exact ⟨_, .string a _, Std.TransOrd.isLE_trans firstLE secondLE⟩
  | integer a b =>
      cases above
      exact ⟨_, .integer a _, Std.TransOrd.isLE_trans firstLE secondLE⟩
  | decimal a b =>
      cases above
      exact ⟨_, .decimal a _, Std.TransOrd.isLE_trans firstLE secondLE⟩

theorem unique (compares : Compares a b first) (again : Compares a b second) : first = second := by
  have ordered := order?_eq_some_iff.mpr compares
  rw [order?_eq_some_iff.mpr again] at ordered
  exact (Option.some.inj ordered).symm

theorem antisymm (below : Compares a b first) (above : Compares b a second)
    (firstLE : first.isLE = true) (secondLE : second.isLE = true) : first = .eq := by
  rw [above.unique below.swap] at secondLE
  cases first with
  | lt => cases secondLE
  | eq => rfl
  | gt => cases firstLE

theorem self (compares : Compares a a order) : order = .eq := by
  have symmetric := compares.unique compares.swap
  cases order with
  | lt => cases symmetric
  | eq => rfl
  | gt => cases symmetric

theorem eq_trans (first : Compares a b .eq) (second : Compares b c .eq) : Compares a c .eq := by
  obtain ⟨order, below, belowLE⟩ := first.trans second rfl rfl
  obtain ⟨reversed, above, aboveLE⟩ := second.swap.trans first.swap rfl rfl
  rw [below.antisymm above belowLE aboveLE] at below
  exact below

end Compares

/-- Two values of one class that has an order. -/
def Comparable (a b : Value) : Prop :=
  a.className = b.className ∧
    a.className ∈ ["Nil", "Character", "String", "Integer", "Decimal"]

theorem comparable_iff {a b : Value} : Comparable a b ↔ ∃ order, Compares a b order := by
  constructor
  · rintro ⟨sameClass, ordered⟩
    cases a with
    | nil =>
        cases b with
        | nil => exact ⟨_, .nil⟩
        | _ => simp [className] at sameClass
    | character a =>
        cases b with
        | character b => exact ⟨_, .character a b⟩
        | _ => simp [className] at sameClass
    | string a =>
        cases b with
        | string b => exact ⟨_, .string a b⟩
        | _ => simp [className] at sameClass
    | integer a =>
        cases b with
        | integer b => exact ⟨_, .integer a b⟩
        | _ => simp [className] at sameClass
    | decimal a =>
        cases b with
        | decimal b => exact ⟨_, .decimal a b⟩
        | _ => simp [className] at sameClass
    | _ => simp [className] at ordered
  · rintro ⟨order, compares⟩
    cases compares with
    | _ => exact ⟨rfl, by simp [className]⟩

theorem order?_isSome_iff {a b : Value} : (a.order? b).isSome = true ↔ Comparable a b := by
  simp only [comparable_iff, Option.isSome_iff_exists, order?_eq_some_iff]

theorem order?_swap (a b : Value) : b.order? a = (a.order? b).map Ordering.swap := by
  cases ordered : a.order? b with
  | some order =>
      exact order?_eq_some_iff.mpr (order?_eq_some_iff.mp ordered).swap
  | none =>
      cases reversed : b.order? a with
      | none => rfl
      | some order =>
          have forward := order?_eq_some_iff.mpr (order?_eq_some_iff.mp reversed).swap
          rw [ordered] at forward
          cases forward

/-! ### Equality -/

inductive EqualBy : Value → Value → Prop where
  | truth (value : Bool) : EqualBy (.boolean value) (.boolean value)
  | elements {as bs : List Value} (each : equalsAll as bs = true) :
      EqualBy (.list as) (.list bs)
  | identity (object : Nat) (name name' : String) (arity arity' : Nat) :
      EqualBy (.function object name arity) (.function object name' arity')
  | order {a b : Value} (same : Compares a b .eq) : EqualBy a b

theorem equals_of_compares {a b : Value} {order : Ordering} (compares : Compares a b order) :
    a.equals b = (order == .eq) := by
  have ordered := order?_eq_some_iff.mpr compares
  have equal : a.equals b = (a.order? b == some .eq) := by
    cases compares with
    | _ => rfl
  rw [equal, ordered]
  rfl

theorem equals_eq_true_iff {a b : Value} : a.equals b = true ↔ EqualBy a b := by
  constructor
  · intro equal
    unfold equals at equal
    split at equal
    · rw [beq_iff_eq.mp equal]
      exact .truth _
    · exact .elements equal
    · rw [beq_iff_eq.mp equal]
      exact .identity _ _ _ _ _
    · exact .order (order?_eq_some_iff.mp (beq_iff_eq.mp equal))
  · intro equal
    cases equal with
    | truth value => exact beq_self_eq_true value
    | elements each => exact each
    | identity object name name' arity arity' => exact beq_self_eq_true object
    | order same => exact equals_of_compares same

theorem equalsAll_eq_true_iff {as bs : List Value} :
    equalsAll as bs = true ↔ List.Forall₂ (fun a b => a.equals b = true) as bs := by
  induction as generalizing bs with
  | nil =>
      cases bs with
      | nil => simp [equalsAll]
      | cons b bs => simp [equalsAll]
  | cons a as inductionHypothesis =>
      cases bs with
      | nil => simp [equalsAll]
      | cons b bs => simp [equalsAll, inductionHypothesis]

theorem equals_self_of_comparable {a : Value} (comparable : Comparable a a) :
    a.equals a = true := by
  obtain ⟨order, compares⟩ := comparable_iff.mp comparable
  rw [equals_of_compares compares, compares.self]
  rfl

mutual

theorem equals_self (a : Value) : a.equals a = true := by
  cases a with
  | list as => exact equalsAll_self as
  | boolean value => exact equals_eq_true_iff.mpr (.truth value)
  | function object name arity => exact equals_eq_true_iff.mpr (.identity _ _ _ _ _)
  | _ => exact equals_self_of_comparable ⟨rfl, by simp [className]⟩

theorem equalsAll_self (as : List Value) : equalsAll as as = true := by
  cases as with
  | nil => rfl
  | cons first rest =>
      rw [equalsAll, equals_self first, equalsAll_self rest]
      rfl

end

mutual

theorem equals_symm {a b : Value} (equal : a.equals b = true) : b.equals a = true := by
  rw [equals_eq_true_iff] at equal ⊢
  cases equal with
  | truth value => exact .truth value
  | elements each => exact .elements (equalsAll_symm each)
  | identity object name name' arity arity' => exact .identity _ _ _ _ _
  | order same => exact .order same.swap

theorem equalsAll_symm {as bs : List Value} (equal : equalsAll as bs = true) :
    equalsAll bs as = true := by
  cases as with
  | nil =>
      cases bs with
      | nil => rfl
      | cons _ _ => cases equal
  | cons a as =>
      cases bs with
      | nil => cases equal
      | cons b bs =>
          rw [equalsAll, Bool.and_eq_true] at equal ⊢
          exact ⟨equals_symm equal.1, equalsAll_symm equal.2⟩

end

mutual

theorem equals_trans {a b c : Value} (first : a.equals b = true) (second : b.equals c = true) :
    a.equals c = true := by
  rw [equals_eq_true_iff] at first second ⊢
  cases first with
  | truth value => exact second
  | elements each =>
      cases second with
      | elements each' => exact .elements (equalsAll_trans each each')
      | order same => cases same
  | identity object name name' arity arity' =>
      cases second with
      | identity _ _ name'' _ arity'' => exact .identity _ _ _ _ _
      | order same => cases same
  | order same =>
      cases second with
      | truth value => cases same
      | elements each => cases same
      | identity object name name' arity arity' => cases same
      | order same' => exact .order (same.eq_trans same')

theorem equalsAll_trans {as bs cs : List Value} (first : equalsAll as bs = true)
    (second : equalsAll bs cs = true) : equalsAll as cs = true := by
  cases as with
  | nil =>
      cases bs with
      | nil => exact second
      | cons _ _ => cases first
  | cons a as =>
      cases bs with
      | nil => cases first
      | cons b bs =>
          cases cs with
          | nil => cases second
          | cons c cs =>
              rw [equalsAll, Bool.and_eq_true] at first second ⊢
              exact ⟨equals_trans first.1 second.1, equalsAll_trans first.2 second.2⟩

end

/-! ### The laws -/

/-- An equality that is an equivalence, and goes into lists element by element. -/
structure EqualsLawfully (equals : Value → Value → Bool) : Prop where
  equivalence : Equivalence fun a b => equals a b = true
  lists : ∀ as bs, equals (.list as) (.list bs) = true ↔
    List.Forall₂ (fun a b => equals a b = true) as bs

/-- The first value is less than the second one or as great. -/
def AtMost (order? : Value → Value → Option Ordering) (a b : Value) : Prop :=
  ∃ order, order? a b = some order ∧ order.isLE = true

/-- An order of the comparable values that is total, up to an equality of values, and orders
decimals by the numbers that they stand for. -/
structure OrdersLawfully (order? : Value → Value → Option Ordering)
    (equals : Value → Value → Bool) : Prop where
  defined : ∀ a b, (order? a b).isSome = true ↔ Comparable a b
  reversed : ∀ a b, order? b a = (order? a b).map Ordering.swap
  total : ∀ a b, Comparable a b → AtMost order? a b ∨ AtMost order? b a
  transitive : ∀ a b c, AtMost order? a b → AtMost order? b c → AtMost order? a c
  antisymmetric : ∀ a b, AtMost order? a b → AtMost order? b a → equals a b = true
  equal : ∀ a b, Comparable a b → (order? a b = some .eq ↔ equals a b = true)
  numeric : ∀ a b : Decimal,
    order? (.decimal a) (.decimal b) = some (compare a.toRat b.toRat)

theorem ordersLawfully : OrdersLawfully Value.order? Value.equals where
  defined := fun _ _ => order?_isSome_iff
  reversed := order?_swap
  total := by
    intro a b comparable
    obtain ⟨order, compares⟩ := comparable_iff.mp comparable
    by_cases below : order.isLE = true
    · exact .inl ⟨order, order?_eq_some_iff.mpr compares, below⟩
    · refine .inr ⟨order.swap, order?_eq_some_iff.mpr compares.swap, ?_⟩
      cases order with
      | gt => rfl
      | _ => exact absurd rfl below
  transitive := by
    rintro a b c ⟨first, below, firstLE⟩ ⟨second, above, secondLE⟩
    rw [order?_eq_some_iff] at below above
    obtain ⟨order, compares, orderLE⟩ := below.trans above firstLE secondLE
    exact ⟨order, order?_eq_some_iff.mpr compares, orderLE⟩
  antisymmetric := by
    rintro a b ⟨first, below, firstLE⟩ ⟨second, above, secondLE⟩
    rw [order?_eq_some_iff] at below above
    rw [equals_of_compares below, below.antisymm above firstLE secondLE]
    rfl
  equal := by
    intro a b comparable
    obtain ⟨order, compares⟩ := comparable_iff.mp comparable
    rw [order?_eq_some_iff.mpr compares, equals_of_compares compares, Option.some_inj,
      beq_iff_eq]
  numeric := fun a b => order?_eq_some_iff.mpr (.decimal a b)

/-- The comparisons of two values yield truths.  Exactly one of less, equal and greater is true,
and unequal is true when equal is not. -/
def Decides (a b : Value) : Prop :=
  ∃ less equal greater : Bool,
    BinaryOp.less.apply a b = .ok (.boolean less) ∧
      BinaryOp.equals.apply a b = .ok (.boolean equal) ∧
      BinaryOp.greater.apply a b = .ok (.boolean greater) ∧
      BinaryOp.notEquals.apply a b = .ok (.boolean !equal) ∧
      [less, equal, greater].count true = 1 ∧ equal = a.equals b

theorem compareValues_of_compares {a b : Value} {order : Ordering} (compares : Compares a b order)
    {op : BinaryOp} {verdict : Bool} (judged : op.verdict? order = some verdict) :
    op.compareValues a b = .ok (.boolean verdict) := by
  unfold BinaryOp.compareValues
  rw [order?_eq_some_iff.mpr compares, Option.bind_some, judged]

theorem decides_of_comparable {a b : Value} (comparable : Comparable a b) : Decides a b := by
  obtain ⟨order, compares⟩ := comparable_iff.mp comparable
  refine ⟨order == .lt, order == .eq, order == .gt, compareValues_of_compares compares rfl,
    compareValues_of_compares compares rfl, compareValues_of_compares compares rfl,
    compareValues_of_compares compares rfl, ?_, (equals_of_compares compares).symm⟩
  cases order with
  | lt => rfl
  | eq => rfl
  | gt => rfl

/-- Values are ordered and equated lawfully, and the comparison operators decide accordingly. -/
theorem order_equals_lawful :
    EqualsLawfully Value.equals ∧ OrdersLawfully Value.order? Value.equals ∧
      ∀ a b, Comparable a b → Decides a b := by
  refine ⟨⟨⟨equals_self, equals_symm, equals_trans⟩, ?_⟩, ordersLawfully, ?_⟩
  · intro as bs
    exact equalsAll_eq_true_iff
  · intro a b comparable
    exact decides_of_comparable comparable

/-- Decimals that differ in scale only are equal, also within lists. -/
example : (Value.list [.decimal ⟨250, 2⟩]).equals (.list [.decimal ⟨25, 1⟩]) = true := by
  decide

end Value
end ScriptLang
