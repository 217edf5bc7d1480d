import Mathlib.Algebra.Group.Int.Defs
import Mathlib.Algebra.Group.Nat.Defs
import StructuredShell.Token.Lexer

/-!
# Spellings, comments and places

What the characters of a source text stand for, said of the characters alone: which of them spell a
token, which are a comment, and which place they have. Nothing here says how a text is cut up.
-/

set_option autoImplicit false

namespace StructuredShell

/-! ## Places -/

namespace Position

/-- The place right after a text: one more than its newlines, and one more than the characters that
follow the last of them. -/
def endOf (text : List Char) : Position :=
  ⟨1 + text.count '\n', 1 + (text.reverse.takeWhile (· != '\n')).length⟩

@[simp] theorem endOf_nil : endOf [] = start := rfl

theorem endOf_advance (text : List Char) (c : Char) :
    (endOf text).advance c = endOf (text ++ [c]) := by
  by_cases newline : c = '\n'
  · simp [endOf, advance, newline, List.count_append, Nat.add_assoc]
  · have other : (c != '\n') = true := by simpa using newline
    simp [endOf, advance, newline, other, List.count_append, Nat.add_assoc]

theorem endOf_after (before text : List Char) :
    (endOf before).after text = endOf (before ++ text) := by
  induction text generalizing before with
  | nil => simp
  | cons c text ih => rw [after_cons, endOf_advance, ih, List.append_assoc, List.singleton_append]

theorem before_iff (position other : Position) :
    position.before other = true ↔
      position.line < other.line ∨ position.line = other.line ∧ position.column < other.column := by
  simp [before]

theorem before_trans {first second third : Position} (early : first.before second = true)
    (late : second.before third = true) : first.before third = true := by
  rw [before_iff] at early late ⊢
  omega

theorem before_advance (position : Position) (c : Char) :
    position.before (position.advance c) = true := by
  rw [before_iff, advance]
  split <;> simp

theorem before_after {text : List Char} (nonempty : text ≠ []) (position : Position) :
    position.before (position.after text) = true := by
  induction text generalizing position with
  | nil => exact absurd rfl nonempty
  | cons c text ih =>
      rw [after_cons]
      match text with
      | [] => exact before_advance position c
      | _ :: _ => exact before_trans (before_advance position c) (ih (by simp) _)

end Position

/-- What a token says, without its place. -/
def Token.content (token : Token) : Kind × Option Literal := (token.kind, token.literal)

namespace Lexer

/-! ## Runs of characters -/

/-- Whether a text does not go on with a character of a class. -/
def Stops (member : Char → Bool) (rest : List Char) : Prop :=
  ∀ c, rest.head? = some c → member c = false

@[simp] theorem stops_nil (member : Char → Bool) : Stops member [] := by
  simp [Stops]

@[simp] theorem stops_cons {member : Char → Bool} {c : Char} {rest : List Char} :
    Stops member (c :: rest) ↔ member c = false := by
  simp [Stops]

/-- The longest run of a class at the head of a text. -/
theorem exists_run (member : Char → Bool) (text : List Char) :
    ∃ run rest, text = run ++ rest ∧ run.all member = true ∧ Stops member rest ∧
      text.takeWhile member = run := by
  refine ⟨text.takeWhile member, text.dropWhile member, by simp, by simp, ?_, rfl⟩
  intro c isHead
  have stop := List.head?_dropWhile_not member text
  rwa [isHead] at stop

theorem takeWhile_run {member : Char → Bool} {run rest : List Char}
    (inClass : run.all member = true) (stops : Stops member rest) :
    (run ++ rest).takeWhile member = run := by
  rw [List.takeWhile_append_of_pos (by simpa using inClass)]
  cases rest with
  | nil => simp
  | cons c rest => simp [stops_cons.mp stops]

/-- Where a run of a class ends is said by the text alone. -/
theorem run_cancel {member : Char → Bool} {run other rest rest' : List Char}
    (inClass : run.all member = true) (inClass' : other.all member = true)
    (stops : Stops member rest) (stops' : Stops member rest')
    (same : run ++ rest = other ++ rest') :
    run = other ∧ rest = rest' := by
  have sameRun : run = other := by
    rw [← takeWhile_run inClass stops, ← takeWhile_run inClass' stops', same]
  subst sameRun
  exact ⟨rfl, List.append_cancel_left same⟩

/-! ## Tokens -/

/-- The value of a run of decimal digits, each weighed by its place. -/
def decimalValue : List Char → Nat
  | [] => 0
  | c :: cs => (c.toNat - '0'.toNat) * 10 ^ cs.length + decimalValue cs

theorem digitsValue_eq_decimalValue (digits : List Char) :
    digitsValue digits = decimalValue digits := by
  have from_value (value : Nat) :
      digits.foldl (fun value c => 10 * value + (c.toNat - '0'.toNat)) value =
        value * 10 ^ digits.length + decimalValue digits := by
    induction digits generalizing value with
    | nil => simp [decimalValue]
    | cons c cs ih =>
        rw [List.foldl_cons, ih, decimalValue, List.length_cons, Nat.pow_succ]
        grind
  rw [digitsValue, from_value, Nat.zero_mul, Nat.zero_add]

/-- Whether tokens of a kind have one spelling, the symbol of the kind. -/
def isSign (kind : Kind) : Bool :=
  !kind.takesNumber && !kind.takesText && kind != .finish

/-- The characters that spell a token with a given kind and literal. -/
inductive Spells : Kind → Option Literal → List Char → Prop where
  | sign {kind : Kind} : isSign kind = true → Spells kind none kind.symbol.toList
  | ident {word : List Char} :
      Text.isWordChars word = true → Kind.ofKeyword? (String.ofList word) = none →
      Spells .ident (some (.text (String.ofList word))) word
  | number {digits : List Char} :
      digits ≠ [] → digits.all Text.isDigit = true → decimalValue digits ≤ largestNumber →
      Spells .number (some (.number (decimalValue digits))) digits
  | string {text : List Char} :
      '"' ∉ text → Spells .string (some (.text (String.ofList text))) ('"' :: (text ++ ['"']))
  | rawText {text : List Char} :
      text ≠ [] → ¬['$', '['] <:+: text →
      Spells .rawText (some (.text (String.ofList text))) text

theorem Spells.ne_nil {kind : Kind} {literal : Option Literal} {spelling : List Char}
    (spells : Spells kind literal spelling) : spelling ≠ [] := by
  cases spells with
  | sign isSign => cases kind <;> simp_all [Kind.symbol, Lexer.isSign]
  | ident isWord =>
      intro empty
      simp [empty, Text.isWordChars] at isWord
  | number nonempty => exact nonempty
  | string => simp
  | rawText nonempty => exact nonempty

/-- Whether a character would make a spelling of a kind longer, or a comment of it. -/
def continuedBy (kind : Kind) (c : Char) : Bool :=
  match kind with
  | .assign | .less | .greater | .bang => c == '='
  | .slash => c == '/' || c == '*'
  | .number => Text.isDigit c
  | .ident | .funcWord | .ifWord | .elseWord | .forWord | .whileWord | .varWord | .returnWord
  | .rawWord | .trueWord | .falseWord => Text.continuesWord c
  | _ => false

/-! ## Comments -/

/-- The characters of a comment, given those that follow it. A comment on a line goes on to the
newline or to the end of the text; any other goes on to the first `*/`. -/
inductive Comment (following : List Char) : List Char → Prop where
  | line {body : List Char} :
      '\n' ∉ body → Stops (· != '\n') following → Comment following ('/' :: '/' :: body)
  | block {body : List Char} :
      ¬['*', '/'] <:+: body → Comment following ('/' :: '*' :: (body ++ ['*', '/']))

theorem commentLength?_sound {text : List Char} {length : Nat}
    (found : commentLength? text = some length) :
    ∃ body rest, text = body ++ '*' :: '/' :: rest ∧ length = body.length + 2 ∧
      ¬['*', '/'] <:+: body := by
  fun_induction commentLength? text generalizing length with
  | case1 => cases found
  | case2 rest =>
      cases found
      exact ⟨[], rest, rfl, rfl, by simp⟩
  | case3 c cs other ih =>
      obtain ⟨before, foundBefore, rfl⟩ := Option.map_eq_some_iff.mp found
      obtain ⟨body, rest, rfl, rfl, absent⟩ := ih foundBefore
      refine ⟨c :: body, rest, rfl, by simp, ?_⟩
      rw [List.infix_cons_iff]
      intro found
      rcases found with first | later
      · match body, first with
        | d :: body, first =>
            obtain ⟨rfl, rfl⟩ : '*' = c ∧ '/' = d := by simpa using first
            exact other _ rfl rfl
      · exact absent later

theorem commentLength?_complete {body : List Char} (absent : ¬['*', '/'] <:+: body)
    (rest : List Char) : commentLength? (body ++ '*' :: '/' :: rest) = some (body.length + 2) := by
  induction body with
  | nil => rfl
  | cons c body ih =>
      rw [List.infix_cons_iff, not_or] at absent
      rw [List.cons_append, commentLength?]
      · simp [ih absent.2, Nat.add_right_comm]
      · intro tail isStar isTail
        match body with
        | [] => simp at isTail
        | d :: body => exact absent.1 (by simp_all)

end Lexer

end StructuredShell
