import StructuredShell.Shell.Quote
import StructuredShell.Text.Blank

/-!
# Templates

A template is a text with numbered holes. A text that depends on the contents of literal texts fits
a template when, whatever the contents are, it is the template with each hole filled by the quoted
content with its number. Every way of putting texts together keeps this, and so does the removal of
a blank end, as long as what stands behind the last hole decides which characters go.
-/

set_option autoImplicit false

namespace StructuredShell

/-! ## Filling holes -/

inductive TemplatePiece where
  | fixed (text : String)
  | hole (index : Nat)

namespace TemplatePiece

def text (words : Nat → String) : TemplatePiece → String
  | fixed text => text
  | hole index => words index

def hole? : TemplatePiece → Option Nat
  | fixed _ => none
  | hole index => some index

end TemplatePiece

structure Template where
  pieces : List TemplatePiece

namespace Template

/-- The text of a template in which each hole holds the word with its number. -/
def fill (template : Template) (words : Nat → String) : String :=
  String.join (template.pieces.map (TemplatePiece.text words))

/-- The numbers of the holes, as often as there are holes. -/
def holes (template : Template) : List Nat :=
  template.pieces.filterMap TemplatePiece.hole?

def append (first second : Template) : Template := ⟨first.pieces ++ second.pieces⟩

theorem fill_append (first second : Template) (words : Nat → String) :
    (first.append second).fill words = first.fill words ++ second.fill words := by
  simp only [fill, append, List.map_append, String.join_append]

theorem holes_append (first second : Template) :
    (first.append second).holes = first.holes ++ second.holes :=
  List.filterMap_append

end Template

/-! ## Texts that fit a template -/

/-- What the literal texts of a program say, by their numbers. -/
abbrev Filling := Nat → String

/-- Whether a text is one template for all contents, with the given holes in any order. -/
def Fits (holes : List Nat) (text : Filling → String) : Prop :=
  ∃ template : Template, template.holes.Perm holes ∧
    ∀ contents, text contents = template.fill fun index => Shell.singleQuote (contents index)

namespace Fits

variable {holes others : List Nat} {text more : Filling → String}

theorem fixed (text : String) : Fits [] fun _ => text := by
  refine ⟨⟨[.fixed text]⟩, .nil, ?_⟩
  intro contents
  simp [Template.fill, TemplatePiece.text]

theorem quoted (index : Nat) : Fits [index] fun contents => Shell.singleQuote (contents index) := by
  refine ⟨⟨[.hole index]⟩, .refl _, ?_⟩
  intro contents
  simp [Template.fill, TemplatePiece.text]

theorem append (fits : Fits holes text) (fitsMore : Fits others more) :
    Fits (holes ++ others) fun contents => text contents ++ more contents := by
  obtain ⟨template, sameHoles, isText⟩ := fits
  obtain ⟨template', sameOthers, isMore⟩ := fitsMore
  refine ⟨template.append template', ?_, ?_⟩
  · rw [Template.holes_append]
    exact sameHoles.append sameOthers
  · intro contents
    dsimp only
    rw [isText, isMore, Template.fill_append]

theorem behind (before : String) (fits : Fits holes text) :
    Fits holes fun contents => before ++ text contents :=
  (Fits.fixed before).append fits

theorem followedBy (fits : Fits holes text) (after : String) :
    Fits holes fun contents => text contents ++ after := by
  have appended := fits.append (.fixed after)
  rwa [List.append_nil] at appended

theorem between (before after : String) (fits : Fits holes text) :
    Fits holes fun contents => before ++ text contents ++ after :=
  (fits.behind before).followedBy after

end Fits

/-! ## Ends that are not blank -/

namespace Text

def EndsUnblank (text : String) : Prop :=
  ∃ (front : List Char) (last : Char), text.toList = front ++ [last] ∧ isBlank last = false

theorem EndsUnblank.behind {text : String} (ends : EndsUnblank text) (before : String) :
    EndsUnblank (before ++ text) := by
  obtain ⟨front, last, isText, isUnblank⟩ := ends
  refine ⟨before.toList ++ front, last, ?_, isUnblank⟩
  rw [String.toList_append, isText, List.append_assoc]

theorem EndsUnblank.ne_empty {text : String} (ends : EndsUnblank text) : text ≠ "" := by
  rintro rfl
  obtain ⟨front, last, isText, -⟩ := ends
  simp at isText

theorem endsUnblank_of_all {text : String} (nonempty : text.toList ≠ [])
    (unblank : ∀ c ∈ text.toList, isBlank c = false) : EndsUnblank text := by
  refine ⟨text.toList.dropLast, text.toList.getLast nonempty, ?_, ?_⟩
  · exact (List.dropLast_concat_getLast nonempty).symm
  · exact unblank _ (List.getLast_mem nonempty)

theorem isBlank_eq_false_of_isDigit {c : Char} (isDigit : c.isDigit = true) :
    isBlank c = false := by
  simp only [Char.isDigit, Bool.and_eq_true, decide_eq_true_eq, ge_iff_le,
    UInt32.le_iff_toNat_le] at isDigit
  have bounds : 48 ≤ c.toNat ∧ c.toNat ≤ 57 := isDigit
  simp only [isBlank, blankRanges, List.any_cons, List.any_nil, Bool.or_eq_false_iff,
    Bool.and_eq_false_iff, decide_eq_false_iff_not, and_true]
  omega

theorem endsUnblank_nat (number : Nat) : EndsUnblank number.repr := by
  apply endsUnblank_of_all
  · rw [Nat.toList_repr]
    exact Nat.toDigits_ne_nil
  · intro c isChar
    rw [Nat.toList_repr] at isChar
    exact isBlank_eq_false_of_isDigit (Nat.isDigit_of_mem_toDigits (by omega) (by omega) isChar)

theorem endsUnblank_int (value : Int) : EndsUnblank value.repr := by
  cases value with
  | ofNat number => exact endsUnblank_nat number
  | negSucc number => exact (endsUnblank_nat (number + 1)).behind "-"

theorem trimEndChars_cons_of_unblank {c : Char} (isUnblank : isBlank c = false)
    (text : List Char) : trimEndChars (c :: text) = c :: trimEndChars text := by
  rw [trimEndChars]
  split
  · next isEmpty => simp [isEmpty, isUnblank]
  · rfl

theorem trimEndChars_append {kept : List Char} (nonempty : trimEndChars kept ≠ [])
    (before : List Char) : trimEndChars (before ++ kept) = before ++ trimEndChars kept := by
  induction before with
  | nil => rfl
  | cons c before ih =>
      rw [List.cons_append, trimEndChars, ih]
      split
      · next isEmpty => simp [nonempty] at isEmpty
      · rfl

/-- Only what stands behind an end that is not blank is trimmed. -/
theorem trimEnd_append {body : String} (ends : EndsUnblank body) (text : String) :
    trimEnd (body ++ text) = body ++ trimEnd text := by
  obtain ⟨front, last, isBody, isUnblank⟩ := ends
  have trimmed := trimEndChars_cons_of_unblank isUnblank text.toList
  have nonempty : trimEndChars (last :: text.toList) ≠ [] := by simp [trimmed]
  apply String.toList_injective
  rw [trimEnd, String.toList_ofList, String.toList_append, String.toList_append, isBody,
    List.append_assoc, List.singleton_append, trimEndChars_append nonempty, trimmed, trimEnd,
    String.toList_ofList]
  simp

end Text

/-! ## Code whose end is fixed -/

/-- Whether a text fits a template and what follows its last hole, which is not blank, is the same
for all contents. A text without holes is the same altogether. -/
inductive FixedEnd : List Nat → (Filling → String) → Prop where
  | fixed (text : String) : FixedEnd [] fun _ => text
  | followed {holes : List Nat} {body : Filling → String} (fits : Fits holes body)
      (ends : ∀ contents, Text.EndsUnblank (body contents)) (text : String) :
      FixedEnd holes fun contents => body contents ++ text

namespace FixedEnd

variable {holes others : List Nat} {text more : Filling → String}

theorem fits (code : FixedEnd holes text) : Fits holes text := by
  cases code with
  | fixed text => exact .fixed text
  | followed fits _ text => exact fits.followedBy text

theorem behind (before : String) (code : FixedEnd holes text) :
    FixedEnd holes fun contents => before ++ text contents := by
  cases code with
  | fixed text => exact .fixed (before ++ text)
  | followed fits ends text =>
      simp only [← String.append_assoc]
      exact .followed (fits.behind before) (fun contents => (ends contents).behind before) text

theorem append (fits : Fits holes text) (ends : ∀ contents, Text.EndsUnblank (text contents))
    (code : FixedEnd others more) :
    FixedEnd (holes ++ others) fun contents => text contents ++ more contents := by
  cases code with
  | fixed tail =>
      rw [List.append_nil]
      exact .followed fits ends tail
  | @followed _ body fitsMore endsMore tail =>
      simp only [← String.append_assoc]
      exact .followed (fits.append fitsMore)
        (fun contents => (endsMore contents).behind (text contents)) tail

theorem trimEnd (code : FixedEnd holes text) :
    FixedEnd holes fun contents => Text.trimEnd (text contents) := by
  cases code with
  | fixed text => exact .fixed (Text.trimEnd text)
  | followed fits ends tail =>
      simp only [Text.trimEnd_append (ends _)]
      exact .followed fits ends (Text.trimEnd tail)

end FixedEnd

end StructuredShell
