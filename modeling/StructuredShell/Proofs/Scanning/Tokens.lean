import StructuredShell.Proofs.Lexing.Lossless
import StructuredShell.Proofs.Scanning.Agreement

/-!
# Scanning ends, with tokens as they should be

From wherever it is called before the end of a text, the scanner of items comes to an end: with an
error of the text, or behind at least one character. No level goes below zero and no constructor of
tokens refuses. So whole texts are scanned to an end as well, and what the tokens of a text carry is
said by their kinds.
-/

set_option autoImplicit false

namespace StructuredShell

/-- What goes with a token of a kind that was found in a text. -/
def Kind.Carries : Kind → Option Literal → Prop
  | .number, literal =>
    ∃ value : Int, literal = some (.number value) ∧ 0 ≤ value ∧ value ≤ 2 ^ 63 - 1
  | .ident, literal =>
    ∃ text, literal = some (.text text) ∧ Text.isWord text = true ∧ Kind.ofKeyword? text = none
  | .string, literal => ∃ text, literal = some (.text text) ∧ '"' ∉ text.toList
  | .rawText, literal =>
    ∃ text, literal = some (.text text) ∧ text ≠ "" ∧ ¬['$', '['] <:+: text.toList
  | _, literal => literal = none

namespace Lexer

theorem Spells.carries {kind : Kind} {literal : Option Literal} {spelling : List Char}
    (spells : Spells kind literal spelling) : kind.Carries literal := by
  cases spells with
  | sign sign => cases kind <;> first | rfl | cases sign
  | ident isWord noKeyword => exact ⟨_, rfl, by simpa [Text.isWord] using isWord, noKeyword⟩
  | number _ _ small =>
      have most : (largestNumber : Int) = 2 ^ 63 - 1 := rfl
      exact ⟨_, rfl, by omega, by omega⟩
  | string noQuote => exact ⟨_, rfl, by simpa using noQuote⟩
  | rawText nonempty noSplice =>
      refine ⟨_, rfl, ?_, by simpa using noSplice⟩
      simpa [← String.toList_inj] using nonempty

theorem Faithful.carries {previous : Option Kind} {before last : List Char} {pieces : List Piece}
    (faithful : Faithful previous before pieces last) :
    ∀ piece ∈ pieces,
      piece.token.kind ≠ .finish ∧ piece.token.kind.Carries piece.token.literal := by
  induction faithful with
  | last => exact List.forall_mem_nil _
  | piece _ _ spells _ _ _ ih =>
      exact List.forall_mem_cons.mpr ⟨⟨spells.ne_finish, spells.carries⟩, ih⟩

/-- Tokens of a text, up to its end, carry what their kinds say. -/
theorem tokens_carry {source : String} {tokens : List Token}
    (read : Lexer.tokens source = .ok tokens) :
    ∃ inner place, tokens = inner ++ [⟨.finish, none, place⟩] ∧
      ∀ token ∈ inner, token.kind ≠ .finish ∧ token.kind.Carries token.literal := by
  obtain ⟨⟨pieces, last, -, areTokens, faithful⟩, -⟩ := tokens_lossless read
  refine ⟨_, _, areTokens, fun token isToken => ?_⟩
  obtain ⟨piece, isPiece, rfl⟩ := List.mem_map.mp isToken
  exact faithful.carries piece isPiece

end Lexer

namespace Scanner

open Lexer (isSpacing)

variable {α : Type}

/-- Whether a scan comes to an end where only the text can be at fault: with an error of the text,
or behind at least so many characters of it. -/
inductive Ends (scanner : Scanner) (least : Nat) : Option (Except Halt (α × Scanner)) → Prop where
  | refuses (error : LexError) : Ends scanner least (some (.error (.refused error)))
  | reads (value : α) (taken : Nat) (tokens : List Token) :
      least ≤ taken → taken ≤ scanner.ahead.length →
      Ends scanner least (some (.ok (value, (scanner.past taken).found tokens)))

theorem Agrees.ends {scanner : Scanner} {least : Nat} {before : Lexer.State}
    {after : α → Lexer.State} {outcome : Option (Except Halt (α × Scanner))}
    (agrees : Agrees scanner least before after outcome) : Ends scanner least outcome := by
  cases agrees with
  | refuses => exact .refuses _
  | reads taken tokens isReached enough within =>
      subst isReached
      exact .reads _ taken tokens enough within

theorem isSpacing_iff {c : Char} :
    isSpacing c = true ↔ c = ' ' ∨ c = '\t' ∨ c = '\r' ∨ c = '\n' := by
  simp [isSpacing, or_assoc]

theorem tokenItem_blank {c : Char} (isBlank : isSpacing c = true) (cs : List Char) :
    Lexer.tokenItem c cs = .error (.unexpectedCharacter c) := by
  have noPair (second : Char) : Lexer.pairKind? c second = none := by
    rcases isSpacing_iff.mp isBlank with rfl | rfl | rfl | rfl <;> rfl
  have unpaired : cs.head?.bind (Lexer.pairKind? c) = none := by
    cases cs <;> simp [noPair]
  rw [Lexer.tokenItem, unpaired]
  rcases isSpacing_iff.mp isBlank with rfl | rfl | rfl | rfl <;> rfl

/-- Nothing that is scanned starts with a blank. -/
theorem item_outcome_blank {scanner : Scanner} {c : Char} {cs : List Char}
    (ahead : scanner.ahead = c :: cs) (isBlank : isSpacing c = true) :
    item.outcome scanner =
      some (.error (.refused ⟨.unexpectedCharacter c, scanner.position⟩)) := by
  have noSlash : c ≠ '/' := by
    rintro rfl
    cases isBlank
  rw [item_outcome_token ahead (by simp [noSlash]) (by simp [noSlash]), tokenItem_blank isBlank,
    itemOutcome]

theorem item_ends {scanner : Scanner} (within : scanner.ahead ≠ []) :
    Ends scanner 1 (item.outcome scanner) := by
  obtain ⟨c, cs, ahead⟩ := List.exists_cons_of_ne_nil within
  cases isBlank : isSpacing c with
  | false => exact (item_agrees ahead isBlank []).ends
  | true =>
      rw [item_outcome_blank ahead isBlank]
      exact .refuses _

/-- Scanning a text comes to an end, whatever the text is, and never with a level below zero or with
a token that its constructor refuses: it finds what the reading loop finds and fails where that
fails. Wherever the scanner of items is called before the end of a text, it fails or takes at least
one character. The tokens that are found end with the only token for the end of the text, and each
of the others carries what its kind says: a number up to the largest one, a name that is no keyword,
the text of a string or of an environment, or nothing. -/
theorem scan_total (source : String) :
    (∀ scanner : Scanner, scanner.ahead ≠ [] → Ends scanner 1 (item.outcome scanner)) ∧
    scan source = some ((Lexer.tokens source).mapError .refused) ∧
    ((∃ error, scan source = some (.error (.refused error))) ∨
      ∃ inner place, scan source = some (.ok (inner ++ [⟨.finish, none, place⟩])) ∧
        ∀ token ∈ inner, token.kind ≠ .finish ∧ token.kind.Carries token.literal) := by
  refine ⟨fun scanner => item_ends, scan_eq source, ?_⟩
  rw [scan_eq]
  cases read : Lexer.tokens source with
  | error error => exact .inl ⟨error, rfl⟩
  | ok tokens =>
      obtain ⟨inner, place, rfl, carry⟩ := Lexer.tokens_carry read
      exact .inr ⟨inner, place, rfl, carry⟩

end Scanner

end StructuredShell
