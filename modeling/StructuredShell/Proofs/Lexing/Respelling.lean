import Mathlib
import StructuredShell.Proofs.WellFormed.Reading
import StructuredShell.Proofs.WellFormed.Writing

/-!
# Spelling tokens out and reading them back

A token of ordinary code has a lexeme, which spells it. Lexemes with a blank between any two of them
are read as the tokens they come from: no spelling is prolonged across a blank, and no two signs can
meet to form a longer sign or the start of a comment. Environments are left out, since how their
text is read depends on what stands around it.
-/

set_option autoImplicit false

namespace StructuredShell

open Lexer (Delimiter Scan Spells State Stops continuedBy isSign)

/-! ## Lexemes -/

/-- Tokens that stand in ordinary code on their own: signs that do not announce an environment, and
names, numbers and texts that can be written. Text of an environment and the end of a source text
are none of these. -/
inductive Token.Ordinary : Token → Prop where
  | sign {kind : Kind} {position : Position} :
      isSign kind = true → kind ≠ .rawWord → kind ≠ .dollar → Ordinary ⟨kind, none, position⟩
  | name {name : String} {position : Position} :
      IsName name → Ordinary ⟨.ident, some (.text name), position⟩
  | number {value : Int} {position : Position} :
      0 ≤ value → value ≤ 2 ^ 63 - 1 → Ordinary ⟨.number, some (.number value), position⟩
  | text {text : String} {position : Position} :
      '"' ∉ text.toList → Ordinary ⟨.string, some (.text text), position⟩

/-- The lexeme of a token of ordinary code is one of its spellings. -/
theorem Token.Ordinary.spells {token : Token} (ordinary : token.Ordinary) :
    Spells token.kind token.literal token.lexeme.toList := by
  cases ordinary with
  | sign sign => exact .sign sign
  | name isName => exact .of_isName isName
  | @number value position nonneg small =>
      have digits : value.repr.toList = Nat.toDigits 10 value.toNat := by
        obtain ⟨number, rfl⟩ := Int.eq_ofNat_of_zero_le nonneg
        exact Nat.toList_repr
      rw [Token.lexeme, digits]
      exact .of_number ⟨nonneg, small⟩
  | text unquoted => simpa [Token.lexeme] using Spells.of_unquoted unquoted

theorem Token.Ordinary.announcesNone {token : Token} (ordinary : token.Ordinary) :
    Delimiter.ofTrigger? token.kind = none := by
  cases ordinary with
  | @sign kind _ _ notRaw notDollar => cases kind <;> first | rfl | contradiction
  | name => rfl
  | number => rfl
  | text => rfl

theorem Token.Ordinary.ne_rawText {token : Token} (ordinary : token.Ordinary) :
    token.kind ≠ .rawText := by
  cases ordinary with
  | sign sign => exact Lexer.isSign_ne_rawText sign
  | name => nofun
  | number => nofun
  | text => nofun

/-! ## Lexemes one after another -/

/-- The lexemes of some tokens with a blank between any two of them. -/
def spacedLexemes (tokens : List Token) : String :=
  " ".intercalate (tokens.map Token.lexeme)

/-- Outside every splice brackets are signs like any others. -/
theorem Lexer.afterToken_outside {kind : Kind} (announcesNone : Delimiter.ofTrigger? kind = none) :
    State.afterToken [] kind = ⟨.code, []⟩ := by
  cases kind <;> first | rfl | cases announcesNone

/-- A lexeme is read as its token wherever nothing prolongs it. -/
theorem Token.Ordinary.scan {token : Token} (ordinary : token.Ordinary) (position : Position)
    {rest : List Char} {more : List Token} (stops : Stops (continuedBy token.kind) rest)
    (scanned : Scan ⟨.code, []⟩ (position.after token.lexeme.toList) rest more) :
    Scan ⟨.code, []⟩ position (token.lexeme.toList ++ rest)
      (⟨token.kind, token.literal, position⟩ :: more) := by
  refine .token ordinary.spells ordinary.ne_rawText stops ?_
  rw [Lexer.afterToken_outside ordinary.announcesNone]
  exact scanned

theorem scan_spacedLexemes {tokens : List Token} (ordinary : ∀ token ∈ tokens, token.Ordinary)
    (position : Position) :
    ∃ read : List Token,
      Scan ⟨.code, []⟩ position (spacedLexemes tokens).toList read ∧
      read.map Token.content = tokens.map Token.content ++ [(.finish, none)] := by
  induction tokens generalizing position with
  | nil => exact ⟨[⟨.finish, none, position⟩], .finish, rfl⟩
  | cons token rest ih =>
      obtain ⟨isOrdinary, areOrdinary⟩ := List.forall_mem_cons.mp ordinary
      match rest with
      | [] =>
          have scanned := isOrdinary.scan position (Lexer.stops_nil _) .finish
          rw [List.append_nil] at scanned
          exact ⟨_, by simpa [spacedLexemes] using scanned, rfl⟩
      | next :: others =>
          -- Of all that follows the lexeme only the blank could prolong it.
          obtain ⟨read, scanned, same⟩ :=
            ih areOrdinary ((position.after token.lexeme.toList).advance ' ')
          have stops : Stops (continuedBy token.kind)
              (' ' :: (spacedLexemes (next :: others)).toList) :=
            Lexer.stops_cons.mpr (continuedBy_blank token.kind)
          have spaced := isOrdinary.scan position stops (.blank rfl rfl scanned)
          refine ⟨_, by simpa [spacedLexemes] using spaced, ?_⟩
          rw [List.map_cons, same]
          rfl

/-! ## Tokens of source texts -/

theorem Lexer.Spells.ordinary {kind : Kind} {literal : Option Literal} {spelling : List Char}
    (spells : Spells kind literal spelling) (isCode : kind ≠ .rawText)
    (announcesNone : Delimiter.ofTrigger? kind = none) (position : Position) :
    Token.Ordinary ⟨kind, literal, position⟩ := by
  cases spells with
  | sign sign =>
      refine .sign sign ?_ ?_
      · rintro rfl
        cases announcesNone
      · rintro rfl
        cases announcesNone
  | ident isWord free => exact .name (Spells.ident isWord free).isName
  | number nonempty digits small =>
      obtain ⟨nonneg, bounded⟩ := (Spells.number nonempty digits small).number_bounds
      exact .number nonneg bounded
  | string absent => exact .text (Spells.string absent).text_unquoted
  | rawText => exact absurd rfl isCode

/-- A source text in which nothing announces an environment has tokens of ordinary code only. -/
theorem Lexer.Scan.ordinary {position : Position} {source : List Char} {tokens : List Token}
    (scanned : Scan ⟨.code, []⟩ position source tokens)
    (announceNone : ∀ token ∈ tokens, Delimiter.ofTrigger? token.kind = none) :
    ∃ inner place, tokens = inner ++ [⟨.finish, none, place⟩] ∧
      ∀ token ∈ inner, token.Ordinary := by
  generalize isState : (⟨.code, []⟩ : State) = state at scanned
  induction scanned with
  | @finish position => exact ⟨[], position, rfl, List.forall_mem_nil _⟩
  | blank _ _ _ ih => exact ih announceNone isState
  | comment _ _ ih => exact ih announceNone isState
  | @token splices position kind literal spelling rest tokens spells isCode _ _ ih =>
      cases isState
      obtain ⟨announcesNone, announceNone⟩ := List.forall_mem_cons.mp announceNone
      obtain ⟨inner, place, rfl, areOrdinary⟩ :=
        ih announceNone (Lexer.afterToken_outside announcesNone).symm
      have isOrdinary := spells.ordinary isCode announcesNone position
      exact ⟨_ :: inner, place, rfl, List.forall_mem_cons.mpr ⟨isOrdinary, areOrdinary⟩⟩
  | opener => cases isState
  | text => cases isState
  | splice => cases isState
  | close => cases isState

/-- Tokens of ordinary code are read back from their lexemes. Whatever the tokens are, their lexemes
with single blanks between them are read as tokens with the same kinds and literals, and the end. So
a source text in which nothing announces an environment can be spelled out anew from its tokens, and
has the same kinds and literals again. -/
theorem Lexer.tokens_spacedLexemes :
    (∀ tokens : List Token, (∀ token ∈ tokens, token.Ordinary) →
      ∃ read, Lexer.tokens (spacedLexemes tokens) = .ok read ∧
        read.map Token.content = tokens.map Token.content ++ [(.finish, none)]) ∧
    ∀ (source : String) (tokens : List Token), Lexer.tokens source = .ok tokens →
      (∀ token ∈ tokens, token.kind ≠ .rawWord ∧ token.kind ≠ .dollar) →
      ∃ again, Lexer.tokens (spacedLexemes tokens.dropLast) = .ok again ∧
        again.map Token.content = tokens.map Token.content := by
  have readBack (tokens : List Token) (ordinary : ∀ token ∈ tokens, token.Ordinary) :
      ∃ read, Lexer.tokens (spacedLexemes tokens) = .ok read ∧
        read.map Token.content = tokens.map Token.content ++ [(.finish, none)] := by
    obtain ⟨read, scanned, same⟩ := scan_spacedLexemes ordinary .start
    exact ⟨read, Lexer.tokens_eq_ok_iff.mpr scanned, same⟩
  refine ⟨readBack, ?_⟩
  intro source tokens lexed noTrigger
  have announceNone : ∀ token ∈ tokens, Delimiter.ofTrigger? token.kind = none := by
    intro token isToken
    obtain ⟨notRaw, notDollar⟩ := noTrigger token isToken
    generalize token.kind = kind at notRaw notDollar
    cases kind <;> first | rfl | contradiction
  obtain ⟨inner, place, rfl, ordinary⟩ :=
    (Lexer.tokens_eq_ok_iff.mp lexed).ordinary announceNone
  obtain ⟨again, readAgain, same⟩ := readBack inner ordinary
  rw [List.dropLast_concat, List.map_append]
  exact ⟨again, readAgain, same⟩

/-- Tokens that would read differently without blanks: signs that form longer ones or comments, a
word after a number, and a text with a newline and a comment in it. -/
def meetingTokens : List Token := [
  ⟨.slash, none, .start⟩, ⟨.slash, none, .start⟩, ⟨.star, none, .start⟩,
  ⟨.assign, none, .start⟩, ⟨.assign, none, .start⟩,
  ⟨.number, some (.number 9223372036854775807), .start⟩,
  ⟨.ident, some (.text "raws"), .start⟩, ⟨.ifWord, none, .start⟩,
  ⟨.string, some (.text "// \n$["), .start⟩, ⟨.closeBracket, none, .start⟩]

theorem Lexer.tokens_spacedLexemes_meeting :
    spacedLexemes meetingTokens =
      "/ / * = = 9223372036854775807 raws if \"// \n$[\" ]" ∧
    (∃ read, Lexer.tokens (spacedLexemes meetingTokens) = .ok read ∧
      read.map Token.content = meetingTokens.map Token.content ++ [(.finish, none)]) ∧
    ∃ tokens again, Lexer.tokens "a/*-*/==0017//" = .ok tokens ∧
      Lexer.tokens (spacedLexemes tokens.dropLast) = .ok again ∧
      again.map Token.content = tokens.map Token.content := by
  have ordinary : ∀ token ∈ meetingTokens, token.Ordinary := by
    simp only [meetingTokens, List.forall_mem_cons]
    refine ⟨.sign rfl nofun nofun, .sign rfl nofun nofun, .sign rfl nofun nofun,
      .sign rfl nofun nofun, .sign rfl nofun nofun, .number (by decide) (by decide),
      .name ⟨by decide, by decide⟩, .sign rfl nofun nofun, .text (by decide),
      .sign rfl nofun nofun, List.forall_mem_nil _⟩
  have lexed : Lexer.tokens "a/*-*/==0017//" = .ok [⟨.ident, some (.text "a"), ⟨1, 1⟩⟩,
      ⟨.equal, none, ⟨1, 7⟩⟩, ⟨.number, some (.number 17), ⟨1, 9⟩⟩, ⟨.finish, none, ⟨1, 15⟩⟩] := by
    cbv
  obtain ⟨again, readAgain, same⟩ := Lexer.tokens_spacedLexemes.2 _ _ lexed (by simp)
  exact ⟨by decide +kernel, Lexer.tokens_spacedLexemes.1 _ ordinary, _, again, lexed, readAgain,
    same⟩

end StructuredShell
