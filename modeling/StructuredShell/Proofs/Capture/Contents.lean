import Mathlib.Data.List.Forall2
import StructuredShell.Proofs.Lexing.Scan

/-!
# What a text says, wherever it stands

The reading loop remembers places, of the environments and splices that it is in, and gives each
token its own. Which tokens it finds, and what they say, does not depend on any of these places. So
a text that has tokens says the same at every other place, and the rules of the loop hold of what
is said without a word about places.
-/

set_option autoImplicit false

namespace StructuredShell.Lexer

/-! ## States at other places -/

inductive RawBlock.Alike : RawBlock → RawBlock → Prop where
  | mk {delimiter : Delimiter} {start other : Position} {pending : Nat} :
      Alike ⟨delimiter, start, pending⟩ ⟨delimiter, other, pending⟩

inductive Splice.Alike : Splice → Splice → Prop where
  | mk {host host' : RawBlock} {start other : Position} {pending : Nat} :
      host.Alike host' → Alike ⟨host, start, pending⟩ ⟨host', other, pending⟩

inductive Phase.Alike : Phase → Phase → Prop where
  | code : Alike .code .code
  | opening {delimiter : Delimiter} : Alike (.opening delimiter) (.opening delimiter)
  | body {block block' : RawBlock} : block.Alike block' → Alike (.body block) (.body block')

/-- States that differ only in the places that they remember. -/
structure State.Alike (state other : State) : Prop where
  phase : state.phase.Alike other.phase
  splices : List.Forall₂ Splice.Alike state.splices other.splices

theorem RawBlock.Alike.refl (block : RawBlock) : block.Alike block := .mk

theorem Splice.Alike.refl (splice : Splice) : splice.Alike splice := .mk .mk

theorem Phase.Alike.refl (phase : Phase) : phase.Alike phase := by
  cases phase with
  | code => exact .code
  | opening => exact .opening
  | body => exact .body (.refl _)

theorem State.Alike.refl (state : State) : state.Alike state :=
  ⟨.refl _, List.forall₂_same.mpr fun splice _ => .refl splice⟩

theorem Phase.Alike.skipsBlanks {phase other : Phase} (alike : phase.Alike other) :
    other.skipsBlanks = phase.skipsBlanks := by
  cases alike <;> rfl

theorem afterToken_alike {splices others : List Splice}
    (alike : List.Forall₂ Splice.Alike splices others) (kind : Kind) :
    (State.afterToken splices kind).Alike (State.afterToken others kind) := by
  unfold State.afterToken
  cases Delimiter.ofTrigger? kind with
  | some delimiter => exact ⟨.opening, alike⟩
  | none =>
      cases alike with
      | nil => cases kind <;> exact ⟨.code, .nil⟩
      | cons first rest =>
          cases first with
          | @mk host host' _ _ pending hosts =>
            cases kind
            case openBracket => exact ⟨.code, .cons (.mk hosts) rest⟩
            case closeBracket =>
              cases pending with
              | zero => exact ⟨.body hosts, rest⟩
              | succ pending => exact ⟨.code, .cons (.mk hosts) rest⟩
            all_goals exact ⟨.code, .cons (.mk hosts) rest⟩

/-! ## What is said -/

/-- What tokens say, in their order. -/
abbrev Contents := List (Kind × Option Literal)

/-- `Reads state source contents`: a text has tokens that say `contents` when it is read from a
state on, wherever the text stands and whatever places the state remembers. -/
def Reads (state : State) (source : List Char) (contents : Contents) : Prop :=
  ∀ (other : State) (position : Position), state.Alike other →
    ∃ tokens, Scan other position source tokens ∧ tokens.map Token.content = contents

namespace Reads

variable {state : State} {splices : List Splice} {source rest : List Char} {contents : Contents}

theorem finish : Reads ⟨.code, []⟩ [] [(.finish, none)] := by
  intro other position alike
  obtain ⟨phase, splices⟩ := other
  obtain ⟨isCode, areSplices⟩ := alike
  cases isCode
  cases areSplices
  exact ⟨_, .finish, rfl⟩

theorem blank {c : Char} (skips : state.phase.skipsBlanks = true) (isBlank : isSpacing c = true)
    (reads : Reads state rest contents) : Reads state (c :: rest) contents := by
  intro other position alike
  obtain ⟨tokens, scanned, same⟩ := reads other (position.advance c) alike
  exact ⟨tokens, .blank (alike.phase.skipsBlanks.trans skips) isBlank scanned, same⟩

theorem comment {comment : List Char} (isComment : Comment rest comment)
    (reads : Reads ⟨.code, splices⟩ rest contents) :
    Reads ⟨.code, splices⟩ (comment ++ rest) contents := by
  intro other position alike
  obtain ⟨tokens, scanned, same⟩ := reads other (position.after comment) alike
  obtain ⟨phase, others⟩ := other
  cases alike.phase
  exact ⟨tokens, .comment isComment scanned, same⟩

theorem token {kind : Kind} {literal : Option Literal} {spelling : List Char}
    (spells : Spells kind literal spelling) (isCode : kind ≠ .rawText)
    (stops : Stops (continuedBy kind) rest)
    (reads : Reads (.afterToken splices kind) rest contents) :
    Reads ⟨.code, splices⟩ (spelling ++ rest) ((kind, literal) :: contents) := by
  intro other position alike
  obtain ⟨phase, others⟩ := other
  obtain ⟨isPhase, areSplices⟩ := alike
  cases isPhase
  obtain ⟨tokens, scanned, same⟩ :=
    reads _ (position.after spelling) (afterToken_alike areSplices kind)
  exact ⟨_, .token spells isCode stops scanned, congrArg _ same⟩

theorem opener {delimiter : Delimiter} {blanks : List Char} {start : Position}
    (areBlank : blanks.all isSpacing = true) (stops : Stops isSpacing rest)
    (reads : Reads ⟨.body ⟨delimiter, start, 0⟩, splices⟩ rest contents) :
    Reads ⟨.opening delimiter, splices⟩ (delimiter.opener :: (blanks ++ rest))
      ((delimiter.openKind, none) :: contents) := by
  intro other position alike
  obtain ⟨phase, others⟩ := other
  obtain ⟨isPhase, areSplices⟩ := alike
  cases isPhase
  obtain ⟨tokens, scanned, same⟩ := reads ⟨.body ⟨delimiter, position, 0⟩, others⟩
    (position.after (delimiter.opener :: blanks)) ⟨.body .mk, areSplices⟩
  exact ⟨_, .opener areBlank stops scanned, congrArg _ same⟩

theorem text {block : RawBlock} {pending : Nat} {text : List Char} (nonempty : text ≠ [])
    (level : block.delimiter.level? block.pending text = some pending)
    (noSplice : ¬['$', '['] <:+: text) (interrupts : Interrupts block.delimiter pending rest)
    (reads : Reads ⟨.body { block with pending := pending }, splices⟩ rest contents) :
    Reads ⟨.body block, splices⟩ (text ++ rest)
      ((.rawText, some (.text (String.ofList text))) :: contents) := by
  intro other position alike
  obtain ⟨phase, others⟩ := other
  obtain ⟨isPhase, areSplices⟩ := alike
  cases isPhase with
  | body blocks =>
      cases blocks with
      | @mk delimiter _ other _ =>
          obtain ⟨tokens, scanned, same⟩ := reads ⟨.body ⟨delimiter, other, pending⟩, others⟩
            (position.after text) ⟨.body .mk, areSplices⟩
          exact ⟨_, .text nonempty level noSplice interrupts scanned, congrArg _ same⟩

theorem splice {block : RawBlock} {start : Position}
    (reads : Reads ⟨.code, ⟨block, start, 0⟩ :: splices⟩ rest contents) :
    Reads ⟨.body block, splices⟩ ('$' :: '[' :: rest)
      ((.dollar, none) :: (.openBracket, none) :: contents) := by
  intro other position alike
  obtain ⟨phase, others⟩ := other
  obtain ⟨isPhase, areSplices⟩ := alike
  cases isPhase with
  | @body _ block' blocks =>
      obtain ⟨tokens, scanned, same⟩ := reads ⟨.code, ⟨block', position, 0⟩ :: others⟩
        (position.after ['$', '[']) ⟨.code, .cons (.mk blocks) areSplices⟩
      exact ⟨_, .splice scanned, congrArg (fun said => _ :: _ :: said) same⟩

theorem close {block : RawBlock} (balanced : block.pending = 0)
    (reads : Reads ⟨.code, splices⟩ rest contents) :
    Reads ⟨.body block, splices⟩ (block.delimiter.closer :: rest)
      ((block.delimiter.closeKind, none) :: contents) := by
  intro other position alike
  obtain ⟨phase, others⟩ := other
  obtain ⟨isPhase, areSplices⟩ := alike
  cases isPhase with
  | body blocks =>
      cases blocks
      obtain ⟨tokens, scanned, same⟩ := reads ⟨.code, others⟩
        (position.advance _) ⟨.code, areSplices⟩
      exact ⟨_, .close balanced scanned, congrArg _ same⟩

theorem blanks {blanks : List Char} (skips : state.phase.skipsBlanks = true)
    (areBlank : blanks.all isSpacing = true) (reads : Reads state rest contents) :
    Reads state (blanks ++ rest) contents := by
  induction blanks with
  | nil => exact reads
  | cons c blanks ih =>
      simp only [List.all_cons, Bool.and_eq_true] at areBlank
      exact .blank skips areBlank.1 (ih areBlank.2)

theorem body_ne_nil {block : RawBlock} (reads : Reads ⟨.body block, splices⟩ source contents) :
    source ≠ [] := by
  obtain ⟨tokens, scanned, -⟩ := reads _ .start (.refl _)
  exact scanned.body_ne_nil

end Reads

/-- What a text says at one place it says everywhere. -/
theorem Scan.reads {state : State} {position : Position} {source : List Char}
    {tokens : List Token} (scanned : Scan state position source tokens) :
    Reads state source (tokens.map Token.content) := by
  induction scanned with
  | finish => exact .finish
  | blank skips isBlank _ ih => exact .blank skips isBlank ih
  | comment isComment _ ih => exact .comment isComment ih
  | token spells isCode stops _ ih => exact .token spells isCode stops ih
  | opener areBlank stops _ ih => exact .opener areBlank stops ih
  | text nonempty level noSplice interrupts _ ih =>
      exact .text nonempty level noSplice interrupts ih
  | splice _ ih => exact .splice ih
  | close balanced _ ih => exact .close balanced ih

theorem tokens_reads {source : String} {tokens : List Token}
    (read : Lexer.tokens source = .ok tokens) :
    Reads .initial source.toList (tokens.map Token.content) :=
  (tokens_eq_ok_iff.mp read).reads

theorem Reads.tokens {source : String} {contents : Contents}
    (reads : Reads .initial source.toList contents) :
    ∃ tokens, Lexer.tokens source = .ok tokens ∧ tokens.map Token.content = contents := by
  obtain ⟨tokens, scanned, same⟩ := reads .initial .start (.refl _)
  exact ⟨tokens, tokens_eq_ok_iff.mpr scanned, same⟩

end StructuredShell.Lexer
