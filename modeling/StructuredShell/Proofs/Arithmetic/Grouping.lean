import StructuredShell.Shell.Value

/-!
# The grouping of arithmetic

How a shell reads arithmetic whose operands count as single atoms: `*`, `/` and `%` bind tighter
than `+` and `-`, all of them group to the left, and parentheses enclose a whole sum. The grammar
below says nothing about how formulas are written. A formula that is written with the parentheses it
needs and no others has exactly one reading in it, which is the formula.
-/

set_option autoImplicit false

namespace StructuredShell.Shell

namespace Formula

variable {α β : Type}

def map (f : α → β) : Formula α → Formula β
  | atom value => atom (f value)
  | binary operator left right => binary operator (left.map f) (right.map f)

end Formula

/-! ## The grammar of arithmetic -/

mutual

inductive ReadsSum : List FormulaPiece → Formula String → Prop where
  | product {pieces : List FormulaPiece} {tree : Formula String} :
      ReadsProduct pieces tree → ReadsSum pieces tree
  | binary {operator : ArithOp} {left right : List FormulaPiece} {first second : Formula String} :
      operator ∈ [ArithOp.add, .subtract] → ReadsSum left first → ReadsProduct right second →
      ReadsSum (left ++ .sign operator :: right) (.binary operator first second)

inductive ReadsProduct : List FormulaPiece → Formula String → Prop where
  | factor {pieces : List FormulaPiece} {tree : Formula String} :
      ReadsFactor pieces tree → ReadsProduct pieces tree
  | binary {operator : ArithOp} {left right : List FormulaPiece} {first second : Formula String} :
      operator ∈ [ArithOp.multiply, .divide, .modulo] → ReadsProduct left first →
      ReadsFactor right second →
      ReadsProduct (left ++ .sign operator :: right) (.binary operator first second)

inductive ReadsFactor : List FormulaPiece → Formula String → Prop where
  | atom {text : String} : ReadsFactor [.atom text] (.atom text)
  | group {pieces : List FormulaPiece} {tree : Formula String} :
      ReadsSum pieces tree → ReadsFactor (.openParen :: (pieces ++ [.closeParen])) tree

end

/-! ## Arithmetic has one reading

The reader keeps what stands left of its place. For every group that is open, this is what becomes
of the next factor in its product, and of that product in its sum. -/

structure Pending where
  sum : Formula String → Formula String
  product : Formula String → Formula String

namespace FormulaPiece

mutual

/-- Read on where a factor has to come. -/
def readFactor : List Pending → List FormulaPiece → Option (Formula String)
  | pending :: outer, .atom text :: rest =>
    readOn pending.sum (pending.product (.atom text)) outer rest
  | waiting, .openParen :: rest => readFactor (⟨id, id⟩ :: waiting) rest
  | _, _ => none

/-- Read on after a factor, given the product so far and what becomes of it in its sum. -/
def readOn (sum : Formula String → Formula String) (product : Formula String) :
    List Pending → List FormulaPiece → Option (Formula String)
  | outer, .sign operator :: rest =>
    if operator ∈ [ArithOp.add, .subtract] then
      readFactor (⟨.binary operator (sum product), id⟩ :: outer) rest
    else readFactor (⟨sum, .binary operator product⟩ :: outer) rest
  | pending :: outer, .closeParen :: rest =>
    readOn pending.sum (pending.product (sum product)) outer rest
  | [], [] => some (sum product)
  | _, _ => none

end

end FormulaPiece

open FormulaPiece (readFactor readOn)

mutual

/-- A sum is read up to its last product, to which more factors may still come. -/
theorem ReadsSum.reads {pieces : List FormulaPiece} {tree : Formula String}
    (isSum : ReadsSum pieces tree) :
    ∃ sum product, sum product = tree ∧ ∀ outer rest,
      readFactor (⟨id, id⟩ :: outer) (pieces ++ rest) = readOn sum product outer rest := by
  match isSum with
  | .product isProduct => exact ⟨id, tree, rfl, isProduct.reads id⟩
  | @ReadsSum.binary operator _ _ _ second isSign left right =>
      obtain ⟨sum, product, rfl, readsLeft⟩ := left.reads
      refine ⟨.binary operator (sum product), second, rfl, ?_⟩
      intro outer rest
      rw [List.append_assoc, List.cons_append, readsLeft, readOn, if_pos isSign, right.reads]

theorem ReadsProduct.reads {pieces : List FormulaPiece} {tree : Formula String}
    (isProduct : ReadsProduct pieces tree) (sum : Formula String → Formula String)
    (outer : List Pending) (rest : List FormulaPiece) :
    readFactor (⟨sum, id⟩ :: outer) (pieces ++ rest) = readOn sum tree outer rest := by
  match isProduct with
  | .factor isFactor => exact isFactor.reads sum id outer rest
  | @ReadsProduct.binary operator _ _ _ _ isSign left right =>
      have noSum : operator ∉ [ArithOp.add, .subtract] := by
        cases operator <;> simp_all
      rw [List.append_assoc, List.cons_append, left.reads, readOn, if_neg noSum, right.reads]

theorem ReadsFactor.reads {pieces : List FormulaPiece} {tree : Formula String}
    (isFactor : ReadsFactor pieces tree) (sum product : Formula String → Formula String)
    (outer : List Pending) (rest : List FormulaPiece) :
    readFactor (⟨sum, product⟩ :: outer) (pieces ++ rest) =
      readOn sum (product tree) outer rest := by
  match isFactor with
  | .atom => rw [List.cons_append, readFactor, List.nil_append]
  | .group isSum =>
      obtain ⟨inner, last, rfl, reads⟩ := isSum.reads
      rw [List.cons_append, List.append_assoc, readFactor, reads, List.cons_append,
        List.nil_append, readOn]

end

/-- No arithmetic can be read in two ways. -/
theorem ReadsSum.unique {pieces : List FormulaPiece} {first second : Formula String}
    (isFirst : ReadsSum pieces first) (isSecond : ReadsSum pieces second) : first = second := by
  obtain ⟨sum, product, rfl, readsFirst⟩ := isFirst.reads
  obtain ⟨sum', product', rfl, readsSecond⟩ := isSecond.reads
  have same := (readsFirst [] []).symm.trans (readsSecond [] [])
  simpa [readOn] using same

/-! ## Written formulas -/

namespace Formula

variable {α : Type}

/-- A formula reads as itself at every level at which it can stand: as a sum, as a product, and as a
factor. -/
theorem pieces_reads (render : α → String) (formula : Formula α) :
    ReadsSum (formula.pieces render 1) (formula.map render) ∧
      ReadsProduct (formula.pieces render 2) (formula.map render) ∧
        ReadsFactor (formula.pieces render 3) (formula.map render) := by
  induction formula with
  | atom value => exact ⟨.product (.factor .atom), .factor .atom, .atom⟩
  | binary operator left right leftIH rightIH =>
      obtain ⟨leftSum, leftProduct, -⟩ := leftIH
      obtain ⟨-, rightProduct, rightFactor⟩ := rightIH
      have sum (isSign : operator ∈ [ArithOp.add, .subtract]) :=
        ReadsSum.binary isSign leftSum rightProduct
      have product (isSign : operator ∈ [ArithOp.multiply, .divide, .modulo]) :=
        ReadsProduct.binary isSign leftProduct rightFactor
      cases operator with
      | add | subtract =>
          have isSum := sum (by decide)
          exact ⟨isSum, .factor (.group isSum), .group isSum⟩
      | multiply | divide | modulo =>
          have isProduct := product (by decide)
          exact ⟨.product isProduct, isProduct, .group (.product isProduct)⟩

/-- Every operator needs parentheses at level one exactly if it needs them with nothing around
it. -/
theorem pieces_zero (render : α → String) (formula : Formula α) :
    formula.pieces render 0 = formula.pieces render 1 := by
  cases formula with
  | atom value => rfl
  | binary operator left right => cases operator <;> rfl

theorem readsSum_iff (render : α → String) (formula : Formula α) (tree : Formula String) :
    ReadsSum (formula.pieces render 0) tree ↔ tree = formula.map render := by
  obtain ⟨isSum, -⟩ := formula.pieces_reads render
  rw [pieces_zero]
  constructor
  · intro reads
    exact reads.unique isSum
  · rintro rfl
    exact isSum

end Formula

end StructuredShell.Shell
