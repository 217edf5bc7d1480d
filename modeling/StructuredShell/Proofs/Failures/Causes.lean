import Mathlib
import StructuredShell.Proofs.Lexing.Items

/-!
# What a lexical error points at

A text that cannot be read is reported with a fault and a place. The place is always one of the
text, and what stands there is what the fault says. Faults of a single item are found where the
reader stands. The environment or the splice that is never closed is reported where it began, which
the reader has remembered for as long as it was inside; so the proof carries along that every place
remembered is the place of a delimiter that opens something.
-/

set_option autoImplicit false

namespace StructuredShell

open Lexer (Delimiter Stops decimalValue isSpacing)

/-! ## Causes -/

/-- Whether a fault is what a text has at a place, given what stands before the place and after
it. -/
def LexFault.Fits (before after : List Char) : LexFault → Prop
  | unexpectedCharacter c => after.head? = some c ∧ c ∉ [' ', '\t', '\r', '\n']
  | unterminatedString => ∃ rest, after = '"' :: rest ∧ '"' ∉ rest
  | unterminatedComment => ∃ rest, after = '/' :: '*' :: rest ∧ ¬['*', '/'] <:+: rest
  | unterminatedRawBlock => ['{'] <+: after ∨ ['('] <+: after ∨ after = []
  | unterminatedSplice => ['$', '['] <+: after
  | integerOverflow digits =>
    ∃ rest, after = digits.toList ++ rest ∧ digits ≠ "" ∧
      digits.toList.all Text.isDigit = true ∧ Stops Text.isDigit rest ∧
      (∀ c, before.getLast? = some c → Text.isDigit c = false) ∧
      2 ^ 63 - 1 < decimalValue digits.toList

namespace Lexer

/-! ## Faults of an item -/

/-- Whether no run of digits reaches over a place. -/
def Divides (before after : List Char) : Prop :=
  ∀ c, before.getLast? = some c → Text.isDigit c = true → Stops Text.isDigit after

theorem isSpacing_eq_false_iff {c : Char} :
    isSpacing c = false ↔ c ∉ [' ', '\t', '\r', '\n'] := by
  simp [isSpacing, and_assoc]

theorem commentLength?_eq_none {text : List Char} (unclosed : commentLength? text = none) :
    ¬['*', '/'] <:+: text := by
  fun_induction commentLength? text with
  | case1 => simp
  | case2 => cases unclosed
  | case3 c cs other ih =>
      rw [List.infix_cons_iff, not_or]
      refine ⟨?_, ih (Option.map_eq_none_iff.mp unclosed)⟩
      intro first
      obtain ⟨rest, isFirst⟩ := first
      obtain ⟨rfl, rfl⟩ := List.cons.inj isFirst
      exact other rest rfl rfl

theorem stringItem_fault {before cs : List Char} {fault : LexFault}
    (failed : stringItem cs = .error fault) : fault.Fits before ('"' :: cs) := by
  obtain ⟨body, rest, rfl, inBody, -, taken⟩ := exists_run (· != '"') cs
  simp only [stringItem, taken] at failed
  split at failed
  · cases failed
  · rename_i whole
    cases failed
    obtain rfl : rest = [] := by simpa using whole
    refine ⟨body, by simp, ?_⟩
    intro quoted
    simpa using List.all_eq_true.mp inBody '"' quoted

theorem numberItem_fault {before cs : List Char} {c : Char} {fault : LexFault}
    (divides : Divides before (c :: cs)) (isDigit : Text.isDigit c = true)
    (failed : numberItem c cs = .error fault) : fault.Fits before (c :: cs) := by
  obtain ⟨body, rest, rfl, inBody, stops, taken⟩ := exists_run Text.isDigit cs
  simp only [numberItem, taken, digitsValue_eq_decimalValue] at failed
  split at failed
  · cases failed
  · rename_i large
    cases failed
    refine ⟨rest, by simp, by simp, by simp [isDigit, inBody], stops, ?_, ?_⟩
    · intro last isLast
      rw [Bool.eq_false_iff]
      intro lastDigit
      have stopped := stops_cons.mp (divides last isLast lastDigit)
      rw [isDigit] at stopped
      cases stopped
    · rw [String.toList_ofList]
      unfold largestNumber at large
      omega

theorem tokenItem_fault {before cs : List Char} {c : Char} {fault : LexFault}
    (divides : Divides before (c :: cs)) (solid : isSpacing c = false)
    (failed : tokenItem c cs = .error fault) : fault.Fits before (c :: cs) := by
  unfold tokenItem at failed
  split at failed
  · cases failed
  split at failed
  · cases failed
  split at failed
  · cases failed
  split at failed
  · rename_i isQuote
    subst isQuote
    exact stringItem_fault failed
  split at failed
  · rename_i isDigit
    exact numberItem_fault divides isDigit failed
  split at failed
  · cases failed
  · cases failed
    exact ⟨rfl, isSpacing_eq_false_iff.mp solid⟩

theorem item_fault {before cs : List Char} {c : Char} {fault : LexFault}
    (divides : Divides before (c :: cs)) (failed : item c cs = .error fault) :
    fault.Fits before (c :: cs) := by
  unfold item at failed
  split at failed
  · cases failed
  · rename_i notBlank
    have solid : isSpacing c = false := by simpa using notBlank
    split at failed
    · cases failed
    · split at failed
      · cases failed
      · rename_i unclosed
        cases failed
        exact ⟨_, rfl, commentLength?_eq_none unclosed⟩
    · exact tokenItem_fault divides solid failed

/-! ## Where items end -/

theorem Divides.of_solid {before after : List Char} {c : Char} (isLast : before.getLast? = some c)
    (notDigit : Text.isDigit c = false) : Divides before after := by
  intro d isLast' isDigit
  rw [isLast, Option.some.injEq] at isLast'
  rw [← isLast', notDigit] at isDigit
  cases isDigit

theorem symbol_getLast? (kind : Kind) :
    ∃ c, kind.symbol.toList.getLast? = some c ∧ Text.isDigit c = false := by
  cases kind <;> exact ⟨_, rfl, rfl⟩

theorem Spells.divides {kind : Kind} {literal : Option Literal} {spelling rest : List Char}
    (spells : Spells kind literal spelling) (isCode : kind ≠ .rawText)
    (stops : Stops (continuedBy kind) rest) : Divides spelling rest := by
  cases spells with
  | sign =>
      obtain ⟨c, isLast, notDigit⟩ := symbol_getLast? kind
      exact .of_solid isLast notDigit
  | ident =>
      intro c _ _ d isHead
      have stopped := stops d isHead
      simp only [continuedBy, Text.continuesWord, Bool.or_eq_false_iff] at stopped
      exact stopped.2
  | number => exact fun _ _ _ => stops
  | @string text =>
      have isLast : ('"' :: (text ++ ['"'])).getLast? = some '"' := by
        rw [← List.cons_append, List.getLast?_concat]
      exact .of_solid isLast rfl
  | rawText => exact absurd rfl isCode

theorem Comment.divides {comment rest : List Char} (isComment : Comment rest comment) :
    Divides comment rest := by
  cases isComment with
  | line oneLine stops =>
      intro c _ _ d isHead
      obtain rfl : d = '\n' := by simpa using stops d isHead
      rfl
  | @block body unclosed =>
      have isLast : (('/' :: '*' :: (body ++ ['*'])) ++ ['/']).getLast? = some '/' :=
        List.getLast?_concat
      exact .of_solid (by simpa using isLast) rfl

theorem continuesWord_of_isSpacing {c : Char} (isBlank : isSpacing c = true) :
    Text.continuesWord c = false := by
  simp only [isSpacing, Bool.or_eq_true, beq_iff_eq] at isBlank
  rcases isBlank with ((rfl | rfl) | rfl) | rfl <;> rfl

theorem Divides.of_blanks {blanks : List Char} (areBlank : blanks.all isSpacing = true)
    (nonempty : blanks ≠ []) (rest : List Char) : Divides blanks rest := by
  have isLast := List.getLast?_eq_some_getLast nonempty
  have isBlank := List.all_eq_true.mp areBlank _ (List.getLast_mem nonempty)
  exact .of_solid isLast (Bool.or_eq_false_iff.mp (continuesWord_of_isSpacing isBlank)).2

theorem Item.Fits.divides {found : Item} {taken rest : List Char} (fits : found.Fits taken rest)
    (nonempty : taken ≠ []) : Divides taken rest := by
  unfold Item.Fits at fits
  split at fits
  · rcases fits with areBlank | comment
    · exact .of_blanks areBlank nonempty rest
    · exact comment.divides
  · exact fits.1.divides fits.2.1 fits.2.2

/-- What was read before the last piece does not matter. -/
theorem Divides.behind {taken rest : List Char} (divides : Divides taken rest)
    (nonempty : taken ≠ []) (before : List Char) : Divides (before ++ taken) rest := by
  intro c isLast
  rw [List.getLast?_append, List.getLast?_eq_some_getLast nonempty, Option.some_or] at isLast
  exact divides c (List.getLast?_eq_some_getLast nonempty ▸ isLast)

/-! ## Places remembered -/

/-- Whether a place of a text is followed by given characters. -/
def At (source : List Char) (position : Position) (spelling : List Char) : Prop :=
  ∃ before after, source = before ++ (spelling ++ after) ∧ position = .endOf before

def RawBlock.Placed (source : List Char) (block : RawBlock) : Prop :=
  At source block.start [block.delimiter.opener]

def Splice.Placed (source : List Char) (splice : Splice) : Prop :=
  splice.host.Placed source ∧ At source splice.start ['$', '[']

/-- What holds whenever the loop comes to a place of a text, with what it remembers. -/
structure Reached (source before after : List Char) (state : State) : Prop where
  split : source = before ++ after
  block : ∀ block, state.phase = .body block → block.Placed source
  splices : ∀ splice ∈ state.splices, splice.Placed source
  divides : state.phase = .code → Divides before after

theorem Reached.initial (source : List Char) : Reached source [] source .initial := by
  constructor
  · rfl
  · exact nofun
  · exact nofun
  · exact fun _ _ => nofun

section

variable {source before cs : List Char} {c : Char} {splices : List Splice} {taken : Step}

/-- What a step comes to, and what it takes on the way. -/
def Step.Reaches (taken : Step) (source before : List Char) (c : Char) (cs : List Char) : Prop :=
  ∃ tail rest, cs = tail ++ rest ∧ taken.further = tail.length ∧
    Reached source (before ++ c :: tail) rest taken.next

theorem afterToken_placed (placed : ∀ splice ∈ splices, splice.Placed source) (kind : Kind) :
    (∀ block, (State.afterToken splices kind).phase = .body block → block.Placed source) ∧
      ∀ splice ∈ (State.afterToken splices kind).splices, splice.Placed source := by
  unfold State.afterToken
  split
  · exact ⟨nofun, placed⟩
  · split
    · obtain ⟨first, others⟩ := List.forall_mem_cons.mp placed
      exact ⟨nofun, List.forall_mem_cons.mpr ⟨first, others⟩⟩
    · obtain ⟨first, others⟩ := List.forall_mem_cons.mp placed
      split
      · refine ⟨fun block isBlock => ?_, others⟩
        cases isBlock
        exact first.1
      · exact ⟨nofun, List.forall_mem_cons.mpr ⟨first, others⟩⟩
    · exact ⟨nofun, placed⟩

theorem codeStep_reaches (reached : Reached source before (c :: cs) ⟨.code, splices⟩)
    (stepped : codeStep splices (.endOf before) c cs = .ok taken) :
    taken.Reaches source before c cs := by
  have split := reached.split
  unfold codeStep at stepped
  split at stepped
  · cases stepped
  · rename_i further read
    cases stepped
    obtain ⟨tail, rest, rfl, isLength, fits⟩ := item_heads read
    have divides := (fits.divides (by simp)).behind (by simp) before
    exact ⟨tail, rest, rfl, isLength, by simpa using split, nofun, reached.splices,
      fun _ => divides⟩
  · rename_i kind literal further read
    cases stepped
    obtain ⟨tail, rest, rfl, isLength, fits⟩ := item_heads read
    have divides := (fits.divides (by simp)).behind (by simp) before
    obtain ⟨block, placed⟩ := afterToken_placed reached.splices kind
    exact ⟨tail, rest, rfl, isLength, by simpa using split, block, placed, fun _ => divides⟩

theorem openingStep_reaches {delimiter : Delimiter}
    (reached : Reached source before (c :: cs) ⟨.opening delimiter, splices⟩)
    (stepped : openingStep delimiter splices (.endOf before) c cs = .ok taken) :
    taken.Reaches source before c cs := by
  have split := reached.split
  obtain ⟨blanks, rest, rfl, -, -, run⟩ := exists_run isSpacing cs
  unfold openingStep at stepped
  split at stepped
  · cases stepped
    exact ⟨blanks, rest, rfl, congrArg List.length run, by simpa using split, nofun,
      reached.splices, nofun⟩
  · split at stepped
    · rename_i isOpener
      subst isOpener
      cases stepped
      refine ⟨blanks, rest, rfl, congrArg List.length run, by simpa using split, ?_,
        reached.splices, nofun⟩
      intro block isBlock
      cases isBlock
      exact ⟨before, blanks ++ rest, split, rfl⟩
    · cases stepped

theorem bodyStep_reaches {block : RawBlock}
    (reached : Reached source before (c :: cs) ⟨.body block, splices⟩) :
    (bodyStep block splices (.endOf before) c cs).Reaches source before c cs := by
  have split := reached.split
  have placed := reached.block block rfl
  unfold bodyStep
  split
  · rename_i left read
    obtain ⟨rest, isRest, -, -, interrupts⟩ := rawText_sound read
    obtain rfl : rest = c :: cs := isRest.symm
    rcases interrupts with empty | ⟨-, isCloser⟩ | isSplice
    · cases empty
    · obtain rfl : c = block.delimiter.closer := by simpa [eq_comm] using isCloser
      have notDollar : block.delimiter.closer ≠ '$' := by
        cases block.delimiter <;> decide
      have notDigit : Text.isDigit block.delimiter.closer = false := by
        cases block.delimiter <;> rfl
      rw [if_neg notDollar]
      exact ⟨[], cs, rfl, rfl, by simpa using split, nofun, reached.splices,
        fun _ => .of_solid List.getLast?_concat notDigit⟩
    · obtain ⟨rest, isRest⟩ := isSplice
      obtain ⟨rfl, rfl⟩ : c = '$' ∧ cs = '[' :: rest := by simpa [eq_comm] using isRest
      rw [if_pos rfl]
      refine ⟨['['], rest, rfl, rfl, by simpa using split, nofun, ?_, fun _ => ?_⟩
      · exact List.forall_mem_cons.mpr ⟨⟨placed, before, rest, split, rfl⟩, reached.splices⟩
      · have divides : Divides ['$', '['] rest := .of_solid rfl rfl
        exact divides.behind (by simp) before
  · rename_i d tail left read
    obtain ⟨rest, isRest, -, -, -⟩ := rawText_sound read
    obtain ⟨rfl, rfl⟩ : c = d ∧ cs = tail ++ rest := by simpa using isRest
    refine ⟨tail, rest, rfl, rfl, by simpa using split, ?_, reached.splices, nofun⟩
    intro inner isInner
    cases isInner
    exact placed

theorem step_reaches {state : State} (reached : Reached source before (c :: cs) state)
    (stepped : step state (.endOf before) c cs = .ok taken) : taken.Reaches source before c cs := by
  obtain ⟨phase, splices⟩ := state
  cases phase with
  | code => exact codeStep_reaches reached stepped
  | opening delimiter => exact openingStep_reaches reached stepped
  | body block =>
      cases stepped
      exact bodyStep_reaches reached

end

/-! ## Every failure has its cause -/

/-- Whether an error points at a place of a text where its fault is found. -/
def PointsAtCause (source : List Char) (error : LexError) : Prop :=
  ∃ before after, source = before ++ after ∧ error.position = .endOf before ∧
    error.fault.Fits before after

section

variable {source before after : List Char} {state : State} {error : LexError}

theorem step_cause {c : Char} {cs : List Char} (reached : Reached source before (c :: cs) state)
    (failed : step state (.endOf before) c cs = .error error) : PointsAtCause source error := by
  obtain ⟨phase, splices⟩ := state
  cases phase with
  | code =>
      simp only [step, codeStep] at failed
      split at failed
      · rename_i fault faulty
        cases failed
        exact ⟨before, c :: cs, reached.split, rfl, item_fault (reached.divides rfl) faulty⟩
      · cases failed
      · cases failed
  | opening delimiter =>
      simp only [step, openingStep] at failed
      split at failed
      · cases failed
      · rename_i notBlank
        split at failed
        · cases failed
        · cases failed
          exact ⟨before, c :: cs, reached.split, rfl, rfl,
            isSpacing_eq_false_iff.mp (by simpa using notBlank)⟩
  | body block => cases failed

theorem atEnd_cause (reached : Reached source before [] state)
    (failed : atEnd state (.endOf before) = .error error) : PointsAtCause source error := by
  match state, failed with
  | ⟨.code, []⟩, failed => cases failed
  | ⟨.code, splice :: outer⟩, failed =>
      cases failed
      obtain ⟨-, opened, rest, isSource, isPlace⟩ := reached.splices splice (.head _)
      exact ⟨opened, _, isSource, isPlace, rest, rfl⟩
  | ⟨.opening _, _⟩, failed =>
      cases failed
      exact ⟨before, [], reached.split, rfl, .inr (.inr rfl)⟩
  | ⟨.body block, _⟩, failed =>
      cases failed
      obtain ⟨opened, rest, isSource, isPlace⟩ := reached.block block rfl
      refine ⟨opened, _, isSource, isPlace, ?_⟩
      cases block.delimiter with
      | braces => exact .inl ⟨rest, rfl⟩
      | parentheses => exact .inr (.inl ⟨rest, rfl⟩)

/-- The loop fails with an error that points at its cause, wherever in the text it has come to. -/
theorem tokensFrom_cause (reached : Reached source before after state)
    (failed : tokensFrom state (.endOf before) after = .error error) :
    PointsAtCause source error := by
  -- The induction is over the loop. A failure further on has its cause in the same whole text.
  generalize isPlace : Position.endOf before = position at failed
  fun_induction tokensFrom state position after generalizing before with
  | case1 state position =>
      subst isPlace
      exact atEnd_cause reached failed
  | case2 state position c cs fault faulty =>
      subst isPlace
      cases failed
      exact step_cause reached faulty
  | case3 state position c cs taken stepped fault faulty ih =>
      subst isPlace
      cases failed
      obtain ⟨tail, rest, rfl, isLength, reached⟩ := step_reaches reached stepped
      simp only [isLength, List.take_left, List.drop_left] at ih faulty
      exact ih reached (Position.endOf_after before (c :: tail)).symm faulty
  | case4 => cases failed

/-- Lexical errors point at their cause. The error of a text that cannot be read stands at a place
of the text, and what the text has there is what the error says. -/
theorem tokens_error_cause {source : String} (failed : Lexer.tokens source = .error error) :
    ∃ before after, source.toList = before ++ after ∧ error.position = .endOf before ∧
      error.fault.Fits before after :=
  tokensFrom_cause (.initial source.toList) failed

/-- The outer splice is never closed, because the inner environment takes the bracket as text. -/
theorem tokens_error_cause_splice :
    Lexer.tokens "x\n= $( a $[ f($( ] )) " = .error ⟨.unterminatedSplice, ⟨2, 8⟩⟩ ∧
      ∃ before after, "x\n= $( a $[ f($( ] )) ".toList = before ++ after ∧
        ⟨2, 8⟩ = Position.endOf before ∧ ['$', '['] <+: after := by
  have failed : Lexer.tokens "x\n= $( a $[ f($( ] )) " =
      .error ⟨.unterminatedSplice, ⟨2, 8⟩⟩ := by cbv
  exact ⟨failed, tokens_error_cause failed⟩

end

end Lexer

end StructuredShell
