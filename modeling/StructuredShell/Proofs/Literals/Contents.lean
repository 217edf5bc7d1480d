import StructuredShell.Lowering.Condition
import StructuredShell.Syntax.Names

/-!
# The literal texts of values

A value is a shape and the contents of its literal texts, and so is a condition. The literal texts
are numbered in the order in which they are written, and a shape is filled with any contents by
giving each of them the content with its number. Filling a shape changes nothing else: not the names
in it, and not what lowering asks about it.
-/

set_option autoImplicit false

namespace StructuredShell

/-! ## Values -/

mutual

/-- The literal texts in a value. Those in the splices of raw text count; raw text itself is no
literal text. -/
def Expr.literals : Expr → List String
  | .var _ => []
  | .number _ => []
  | .text value => [value]
  | .binary _ left right => left.literals ++ right.literals
  | .call _ arguments => Expr.literalsOf arguments
  | .raw fragments => Fragment.literalsOf fragments

def Expr.literalsOf : List Expr → List String
  | [] => []
  | value :: rest => value.literals ++ Expr.literalsOf rest

def Fragment.literalsOf : List Fragment → List String
  | [] => []
  | .shell _ :: rest => Fragment.literalsOf rest
  | .splice value :: rest => value.literals ++ Fragment.literalsOf rest

end

mutual

/-- A value with other contents, where the first of its literal texts has the number `first`. -/
def Expr.refill (contents : Nat → String) (first : Nat) : Expr → Expr
  | .var name => .var name
  | .number value => .number value
  | .text _ => .text (contents first)
  | .binary operator left right =>
    .binary operator (left.refill contents first)
      (right.refill contents (first + left.literals.length))
  | .call name arguments => .call name (Expr.refillAll contents first arguments)
  | .raw fragments => .raw (Fragment.refillAll contents first fragments)

def Expr.refillAll (contents : Nat → String) (first : Nat) : List Expr → List Expr
  | [] => []
  | value :: rest =>
    value.refill contents first :: Expr.refillAll contents (first + value.literals.length) rest

def Fragment.refillAll (contents : Nat → String) (first : Nat) : List Fragment → List Fragment
  | [] => []
  | .shell text :: rest => .shell text :: Fragment.refillAll contents first rest
  | .splice value :: rest =>
    .splice (value.refill contents first) ::
      Fragment.refillAll contents (first + value.literals.length) rest

end

mutual

/-- Whether no splice in a value is just literal text. Such text would become shell code. -/
def Expr.noTextSpliced : Expr → Bool
  | .var _ | .number _ | .text _ => true
  | .binary _ left right => left.noTextSpliced && right.noTextSpliced
  | .call _ arguments => Expr.noneTextSpliced arguments
  | .raw fragments => Fragment.noneTextSpliced fragments

def Expr.noneTextSpliced : List Expr → Bool
  | [] => true
  | value :: rest => value.noTextSpliced && Expr.noneTextSpliced rest

def Fragment.noneTextSpliced : List Fragment → Bool
  | [] => true
  | .shell _ :: rest => Fragment.noneTextSpliced rest
  | .splice value :: rest =>
    !value.isText && value.noTextSpliced && Fragment.noneTextSpliced rest

end

section

variable (contents : Nat → String)

mutual

@[simp] theorem Expr.literals_refill (first : Nat) (value : Expr) :
    (value.refill contents first).literals =
      (List.range' first value.literals.length).map contents := by
  match value with
  | .var _ => rfl
  | .number _ => rfl
  | .text _ => rfl
  | .binary _ left right =>
      simp only [Expr.refill, Expr.literals, Expr.literals_refill first left,
        Expr.literals_refill _ right, ← List.map_append, List.range'_append_1, List.length_append]
  | .call _ arguments => exact Expr.literalsOf_refillAll first arguments
  | .raw fragments => exact Fragment.literalsOf_refillAll first fragments

@[simp] theorem Expr.literalsOf_refillAll (first : Nat) (values : List Expr) :
    Expr.literalsOf (Expr.refillAll contents first values) =
      (List.range' first (Expr.literalsOf values).length).map contents := by
  match values with
  | [] => rfl
  | value :: rest =>
      simp only [Expr.refillAll, Expr.literalsOf, Expr.literals_refill first value,
        Expr.literalsOf_refillAll _ rest, ← List.map_append, List.range'_append_1,
        List.length_append]

@[simp] theorem Fragment.literalsOf_refillAll (first : Nat) (fragments : List Fragment) :
    Fragment.literalsOf (Fragment.refillAll contents first fragments) =
      (List.range' first (Fragment.literalsOf fragments).length).map contents := by
  match fragments with
  | [] => rfl
  | .shell _ :: rest => exact Fragment.literalsOf_refillAll first rest
  | .splice value :: rest =>
      simp only [Fragment.refillAll, Fragment.literalsOf, Expr.literals_refill first value,
        Fragment.literalsOf_refillAll _ rest, ← List.map_append, List.range'_append_1,
        List.length_append]

end

mutual

@[simp] theorem Expr.names_refill (first : Nat) (value : Expr) :
    (value.refill contents first).names = value.names := by
  match value with
  | .var _ => rfl
  | .number _ => rfl
  | .text _ => rfl
  | .binary _ left right =>
      simp only [Expr.refill, Expr.names, Expr.names_refill first left, Expr.names_refill _ right]
  | .call _ arguments =>
      simp only [Expr.refill, Expr.names, Expr.namesOf_refillAll first arguments]
  | .raw fragments => exact Fragment.namesOf_refillAll first fragments

@[simp] theorem Expr.namesOf_refillAll (first : Nat) (values : List Expr) :
    Expr.namesOf (Expr.refillAll contents first values) = Expr.namesOf values := by
  match values with
  | [] => rfl
  | value :: rest =>
      simp only [Expr.refillAll, Expr.namesOf, Expr.names_refill first value,
        Expr.namesOf_refillAll _ rest]

@[simp] theorem Fragment.namesOf_refillAll (first : Nat) (fragments : List Fragment) :
    Fragment.namesOf (Fragment.refillAll contents first fragments) =
      Fragment.namesOf fragments := by
  match fragments with
  | [] => rfl
  | .shell _ :: rest => exact Fragment.namesOf_refillAll first rest
  | .splice value :: rest =>
      simp only [Fragment.refillAll, Fragment.namesOf, Expr.names_refill first value,
        Fragment.namesOf_refillAll _ rest]

end

/-! ## What lowering asks about values -/

@[simp] theorem Expr.isText_refill (first : Nat) (value : Expr) :
    (value.refill contents first).isText = value.isText := by
  cases value <;> rfl

@[simp] theorem Expr.containsCall_refill (first : Nat) (value : Expr) :
    (value.refill contents first).containsCall = value.containsCall := by
  match value with
  | .binary _ left right =>
      simp only [Expr.refill, Expr.containsCall, Expr.containsCall_refill first left,
        Expr.containsCall_refill _ right]
  | .var _ | .number _ | .text _ | .call _ _ | .raw _ => rfl

@[simp] theorem Expr.isStable_refill (first : Nat) (value : Expr) :
    (value.refill contents first).isStable = value.isStable := by
  match value with
  | .binary _ left right =>
      simp only [Expr.refill, Expr.isStable, Expr.isStable_refill first left,
        Expr.isStable_refill _ right]
  | .var _ | .number _ | .text _ | .call _ _ | .raw _ => rfl

@[simp] theorem Expr.hoists_refill (first : Nat) (value : Expr) :
    (value.refill contents first).hoists = value.hoists := by
  match value with
  | .binary _ left right =>
      simp only [Expr.refill, Expr.hoists, Expr.isText_refill, Expr.hoists_refill first left,
        Expr.hoists_refill _ right]
  | .var _ | .number _ | .text _ | .call _ _ | .raw _ => rfl

theorem Expr.map_refillAll {α : Type} {ask : Expr → α}
    (kept : ∀ first value, ask (value.refill contents first) = ask value) (first : Nat)
    (values : List Expr) : (Expr.refillAll contents first values).map ask = values.map ask := by
  induction values generalizing first with
  | nil => rfl
  | cons value rest ih => simp only [Expr.refillAll, List.map_cons, kept, ih]

@[simp] theorem Expr.any_containsCall_refillAll (first : Nat) (values : List Expr) :
    (Expr.refillAll contents first values).any Expr.containsCall =
      values.any Expr.containsCall := by
  have sameCalls := Expr.map_refillAll contents (Expr.containsCall_refill contents) first values
  simpa only [List.any_map, Function.id_comp] using congrArg (·.any id) sameCalls

end

theorem Expr.literalsOf_append (values others : List Expr) :
    Expr.literalsOf (values ++ others) = Expr.literalsOf values ++ Expr.literalsOf others := by
  induction values with
  | nil => rfl
  | cons value rest ih => simp only [List.cons_append, Expr.literalsOf, ih, List.append_assoc]

theorem Expr.noneTextSpliced_append (values others : List Expr) :
    Expr.noneTextSpliced (values ++ others) =
      (Expr.noneTextSpliced values && Expr.noneTextSpliced others) := by
  induction values with
  | nil => rfl
  | cons value rest ih =>
      simp only [List.cons_append, Expr.noneTextSpliced, ih, Bool.and_assoc]

theorem Expr.refillAll_append (contents : Nat → String) (first : Nat)
    (values others : List Expr) :
    Expr.refillAll contents first (values ++ others) = Expr.refillAll contents first values ++
      Expr.refillAll contents (first + (Expr.literalsOf values).length) others := by
  induction values generalizing first with
  | nil => rfl
  | cons value rest ih =>
      simp only [List.cons_append, Expr.refillAll, Expr.literalsOf, List.length_append, ih,
        Nat.add_assoc]

/-- Whether some contents, from the number `first` on, are given texts. -/
def Gives (contents : Nat → String) (first : Nat) (texts : List String) : Prop :=
  (List.range' first texts.length).map contents = texts

theorem gives_append {contents : Nat → String} {first : Nat} {texts others : List String} :
    Gives contents first (texts ++ others) ↔
      Gives contents first texts ∧ Gives contents (first + texts.length) others := by
  unfold Gives
  rw [List.length_append, ← List.range'_append_1, List.map_append]
  constructor
  · intro same
    exact List.append_inj same (by simp)
  · intro same
    rw [same.1, same.2]

theorem gives_getD (texts : List String) : Gives (fun index => texts.getD index "") 0 texts := by
  apply List.ext_getElem
  · simp
  · intro index isIndex isText
    simp [List.getElem?_eq_getElem isText]

mutual

/-- A value filled with its own contents is the value. -/
theorem Expr.refill_own {contents : Nat → String} {first : Nat} (value : Expr)
    (own : Gives contents first value.literals) : value.refill contents first = value := by
  match value with
  | .var _ => rfl
  | .number _ => rfl
  | .text text =>
      obtain rfl : contents first = text := by simpa [Gives, Expr.literals] using own
      rfl
  | .binary _ left right =>
      obtain ⟨ownLeft, ownRight⟩ := gives_append.mp own
      rw [Expr.refill, Expr.refill_own left ownLeft, Expr.refill_own right ownRight]
  | .call _ arguments => rw [Expr.refill, Expr.refillAll_own arguments own]
  | .raw fragments => rw [Expr.refill, Fragment.refillAll_own fragments own]

theorem Expr.refillAll_own {contents : Nat → String} {first : Nat} (values : List Expr)
    (own : Gives contents first (Expr.literalsOf values)) :
    Expr.refillAll contents first values = values := by
  match values with
  | [] => rfl
  | value :: rest =>
      obtain ⟨ownValue, ownRest⟩ := gives_append.mp own
      rw [Expr.refillAll, Expr.refill_own value ownValue, Expr.refillAll_own rest ownRest]

theorem Fragment.refillAll_own {contents : Nat → String} {first : Nat} (fragments : List Fragment)
    (own : Gives contents first (Fragment.literalsOf fragments)) :
    Fragment.refillAll contents first fragments = fragments := by
  match fragments with
  | [] => rfl
  | .shell _ :: rest => rw [Fragment.refillAll, Fragment.refillAll_own rest own]
  | .splice value :: rest =>
      obtain ⟨ownValue, ownRest⟩ := gives_append.mp own
      rw [Fragment.refillAll, Expr.refill_own value ownValue, Fragment.refillAll_own rest ownRest]

end

/-! ## Conditions -/

def Condition.values : Condition → List Expr
  | .constant _ => []
  | .comparison _ left right => [left, right]
  | .conjunction left right => left.values ++ right.values
  | .disjunction left right => left.values ++ right.values

def Condition.literals (condition : Condition) : List String :=
  Expr.literalsOf condition.values

def Condition.refill (contents : Nat → String) (first : Nat) : Condition → Condition
  | .constant value => .constant value
  | .comparison operator left right =>
    .comparison operator (left.refill contents first)
      (right.refill contents (first + left.literals.length))
  | .conjunction left right =>
    .conjunction (left.refill contents first)
      (right.refill contents (first + left.literals.length))
  | .disjunction left right =>
    .disjunction (left.refill contents first)
      (right.refill contents (first + left.literals.length))

namespace Condition

theorem literals_comparison (operator : RelOp) (left right : Expr) :
    (comparison operator left right).literals = left.literals ++ right.literals := by
  simp [literals, values, Expr.literalsOf]

theorem literals_conjunction (left right : Condition) :
    (conjunction left right).literals = left.literals ++ right.literals :=
  Expr.literalsOf_append _ _

theorem literals_disjunction (left right : Condition) :
    (disjunction left right).literals = left.literals ++ right.literals :=
  Expr.literalsOf_append _ _

variable (contents : Nat → String)

theorem values_refill (first : Nat) (condition : Condition) :
    (condition.refill contents first).values =
      Expr.refillAll contents first condition.values := by
  induction condition generalizing first with
  | constant value => rfl
  | comparison operator left right => rfl
  | conjunction left right leftIH rightIH =>
      simp only [refill, values, leftIH, rightIH, Expr.refillAll_append, literals]
  | disjunction left right leftIH rightIH =>
      simp only [refill, values, leftIH, rightIH, Expr.refillAll_append, literals]

@[simp] theorem names_refill (first : Nat) (condition : Condition) :
    (condition.refill contents first).names = condition.names := by
  induction condition generalizing first with
  | constant value => rfl
  | comparison operator left right => simp only [refill, names, Expr.names_refill]
  | conjunction left right leftIH rightIH => simp only [refill, names, leftIH, rightIH]
  | disjunction left right leftIH rightIH => simp only [refill, names, leftIH, rightIH]

theorem anyOperand_refill {property : Expr → Bool}
    (kept : ∀ first value, property (value.refill contents first) = property value) (first : Nat)
    (condition : Condition) :
    (condition.refill contents first).anyOperand property = condition.anyOperand property := by
  induction condition generalizing first with
  | constant value => rfl
  | comparison operator left right => simp only [refill, anyOperand, kept]
  | conjunction left right leftIH rightIH => simp only [refill, anyOperand, leftIH, rightIH]
  | disjunction left right leftIH rightIH => simp only [refill, anyOperand, leftIH, rightIH]

@[simp] theorem containsCall_refill (first : Nat) (condition : Condition) :
    (condition.refill contents first).containsCall = condition.containsCall :=
  anyOperand_refill contents (Expr.containsCall_refill contents) first condition

@[simp] theorem hoists_refill (first : Nat) (condition : Condition) :
    (condition.refill contents first).hoists = condition.hoists :=
  anyOperand_refill contents (Expr.hoists_refill contents) first condition

variable {contents}

theorem refill_own {first : Nat} (condition : Condition)
    (own : Gives contents first condition.literals) :
    condition.refill contents first = condition := by
  induction condition generalizing first with
  | constant value => rfl
  | comparison operator left right =>
      rw [literals_comparison, gives_append] at own
      rw [refill, Expr.refill_own left own.1, Expr.refill_own right own.2]
  | conjunction left right leftIH rightIH =>
      rw [literals_conjunction, gives_append] at own
      rw [refill, leftIH own.1, rightIH own.2]
  | disjunction left right leftIH rightIH =>
      rw [literals_disjunction, gives_append] at own
      rw [refill, leftIH own.1, rightIH own.2]

end Condition

end StructuredShell
