import StructuredShell.Proofs.Capture.Splices
import StructuredShell.Proofs.WellFormed.Writing

/-!
# Environments as they are written

The body of an environment is a list of texts and splices. Read back from what is written between
the delimiters, each text is one token with the very same text, and each splice has the tokens that
its code has on its own. The delimiters are counted over all texts and over nothing in the splices,
whatever strings, comments and environments their code has.
-/

set_option autoImplicit false

namespace StructuredShell.Lexer

/-! ## Parts of a body -/

/-- A part of the body of an environment as it stands in a source text. -/
inductive Part where
  | shell (text : String)
  | splice (code : String)

/-- What the tokens of a text say, up to its end. -/
def ownContents (source : String) : Contents :=
  match Lexer.tokens source with
  | .ok tokens => tokens.dropLast.map Token.content
  | .error _ => []

/-- Whether a text ends inside a comment on its last line: all that stands before the comment is
code with tokens of its own. -/
def EndsInComment (source : String) : Prop :=
  ∃ before body tokens, source.toList = before ++ '/' :: '/' :: body ∧ '\n' ∉ body ∧
    Lexer.tokens (String.ofList before) = .ok tokens

/-- Whether a text can be the code of a splice. -/
structure Spliceable (code : String) : Prop where
  lexes : ∃ tokens, Lexer.tokens code = .ok tokens ∧ Balances 0 (tokens.map Token.kind)
  noComment : ¬EndsInComment code

namespace Part

def written : Part → List Char
  | .shell text => text.toList
  | .splice code => '$' :: '[' :: (code.toList ++ [']'])

def contents : Part → Contents
  | .shell text => [(.rawText, some (.text text))]
  | .splice code =>
    (.dollar, none) :: (.openBracket, none) :: (ownContents code ++ [(.closeBracket, none)])

def shellText : Part → List Char
  | .shell text => text.toList
  | .splice _ => []

/-- Whether a part can stand in an environment, whatever its delimiters. -/
def Sound : Part → Prop
  | .shell text => text ≠ "" ∧ ¬['$', '['] <:+: text.toList
  | .splice code => Spliceable code

/-- Whether parts can stand between given delimiters. Splices tell texts apart; a blank at the
beginning would not be part of the first text; and the delimiters balance over all texts
together. -/
structure Fit (delimiter : Delimiter) (parts : List Part) : Prop where
  sound : ∀ part ∈ parts, part.Sound
  apart : ∀ first second, ¬[.shell first, .shell second] <:+: parts
  unblank : ∀ text rest, parts = .shell text :: rest → Stops isSpacing text.toList
  balanced : delimiter.Balanced (parts.flatMap shellText)

end Part

/-- An environment as it is written, with blanks before its opening delimiter. -/
def environment (delimiter : Delimiter) (blanks : List Char) (parts : List Part) : List Char :=
  delimiter.trigger.symbol.toList ++
    (blanks ++ delimiter.opener :: (parts.flatMap Part.written ++ [delimiter.closer]))

/-! ## Reading bodies -/

/-- A splice leads back to the text that it interrupts. -/
theorem Spliceable.reads {code : String} (spliceable : Spliceable code) {block : RawBlock}
    {splices : List Splice} {rest : List Char} {contents : Contents}
    (reads : Reads ⟨.body block, splices⟩ rest contents) :
    Reads ⟨.body block, splices⟩ ((Part.splice code).written ++ rest)
      ((Part.splice code).contents ++ contents) := by
  obtain ⟨tokens, read, balances⟩ := spliceable.lexes
  have noComment : ¬CommentEnds .initial code.toList := by
    intro ends
    obtain ⟨before, body, isCode, oneLine, said, reads⟩ := ends
    have readsBefore : Reads .initial (String.ofList before).toList said := by
      rwa [String.toList_ofList]
    obtain ⟨tokens, readBefore, -⟩ := readsBefore.tokens
    exact spliceable.noComment ⟨before, body, tokens, isCode, oneLine, readBefore⟩
  have inside : Reads (State.initial.within ⟨block, .start, 0⟩ splices) _ _ :=
    (tokens_eq_ok_iff.mp read).inSplice balances noComment reads
  have isOwn : ownContents code = tokens.dropLast.map Token.content := by
    rw [ownContents, read]
  simpa [Part.written, Part.contents, isOwn] using Reads.splice inside

/-- The body of an environment, up to the delimiter that closes it. The induction is over the parts;
what is carried along is how many delimiters of the texts wait to be balanced. -/
theorem Part.reads {delimiter : Delimiter} {start : Position} {pending : Nat} {parts : List Part}
    (sound : ∀ part ∈ parts, part.Sound)
    (apart : ∀ first second, ¬[.shell first, .shell second] <:+: parts)
    (level : delimiter.level? pending (parts.flatMap shellText) = some 0)
    {splices : List Splice} {rest : List Char} {contents : Contents}
    (reads : Reads ⟨.code, splices⟩ rest contents) :
    Reads ⟨.body ⟨delimiter, start, pending⟩, splices⟩
      (parts.flatMap written ++ delimiter.closer :: rest)
      (parts.flatMap Part.contents ++ (delimiter.closeKind, none) :: contents) := by
  induction parts generalizing pending with
  | nil =>
      obtain rfl : pending = 0 := by simpa using level
      exact .close rfl reads
  | cons part parts ih =>
      obtain ⟨soundPart, soundRest⟩ := List.forall_mem_cons.mp sound
      have apartRest : ∀ first second, ¬[.shell first, .shell second] <:+: parts := by
        intro first second later
        exact apart first second (List.infix_cons_iff.mpr (.inr later))
      rw [List.flatMap_cons, Delimiter.level?_append, Option.bind_eq_some_iff] at level
      obtain ⟨next, levelPart, levelRest⟩ := level
      have further := ih soundRest apartRest levelRest
      rw [List.flatMap_cons, List.flatMap_cons, List.append_assoc, List.append_assoc]
      cases part with
      | splice code =>
          obtain rfl : pending = next := by simpa [shellText] using levelPart
          exact soundPart.reads further
      | shell text =>
          have nonempty : text.toList ≠ [] := by simpa using soundPart.1
          -- What stands behind a text is a splice or the end; two texts never meet.
          have interrupts : Interrupts delimiter next
              (parts.flatMap written ++ delimiter.closer :: rest) := by
            match parts, levelRest, apart with
            | [], levelRest, _ => exact .inl ⟨by simpa using levelRest, by simp⟩
            | .splice code :: parts, _, _ => exact .inr ⟨_, rfl⟩
            | .shell second :: parts, _, apart =>
                exact absurd ⟨[], parts, rfl⟩ (apart text second)
          have read : Reads ⟨.body ⟨delimiter, start, pending⟩, splices⟩ (text.toList ++ _) _ :=
            .text nonempty levelPart soundPart.2 interrupts further
          rwa [String.ofList_toList] at read

theorem Part.Fit.unblank_body {delimiter : Delimiter} {parts : List Part}
    (fit : Fit delimiter parts) (rest : List Char) :
    Stops isSpacing (parts.flatMap written ++ delimiter.closer :: rest) := by
  match parts, fit with
  | [], _ => cases delimiter <;> exact stops_cons.mpr rfl
  | .splice _ :: _, _ => exact stops_cons.mpr rfl
  | .shell text :: others, fit =>
      have unblank := fit.unblank text others rfl
      have nonempty : text.toList ≠ [] := by simpa using (fit.sound _ (.head _)).1
      rw [List.flatMap_cons, written, List.append_assoc]
      match text.toList, nonempty, unblank with
      | c :: _, _, unblank => exact stops_cons.mpr (stops_cons.mp unblank)

theorem Delimiter.spells_trigger (delimiter : Delimiter) :
    Spells delimiter.trigger none delimiter.trigger.symbol.toList := by
  cases delimiter <;> exact .sign rfl

theorem Delimiter.ofTrigger?_trigger (delimiter : Delimiter) :
    Delimiter.ofTrigger? delimiter.trigger = some delimiter := by
  cases delimiter <;> rfl

/-- Blanks and the opening delimiter end the spelling that announces an environment. -/
theorem Delimiter.trigger_stops (delimiter : Delimiter) {blanks : List Char}
    (areBlank : blanks.all isSpacing = true) (rest : List Char) :
    Stops (continuedBy delimiter.trigger) (blanks ++ delimiter.opener :: rest) := by
  cases blanks with
  | nil => cases delimiter <;> exact stops_cons.mpr rfl
  | cons c blanks =>
      simp only [List.all_cons, Bool.and_eq_true] at areBlank
      have blank := areBlank.1
      simp only [isSpacing, Bool.or_eq_true, beq_iff_eq] at blank
      rcases blank with ((rfl | rfl) | rfl) | rfl <;> cases delimiter <;> exact stops_cons.mpr rfl

/-- Environments are kept as they are written. An environment of either kind whose parts fit between
its delimiters, followed by any text that has tokens, has tokens: the one that announces it, the
opening delimiter, for each text of the body that text, for each splice the tokens of its code
between brackets, the closing delimiter, and the tokens of what follows. -/
theorem tokens_environment (delimiter : Delimiter) {blanks : List Char} {parts : List Part}
    {rest : String} {more : List Token} (areBlank : blanks.all isSpacing = true)
    (fit : Part.Fit delimiter parts) (read : Lexer.tokens rest = .ok more) :
    ∃ tokens,
      Lexer.tokens (String.ofList (environment delimiter blanks parts ++ rest.toList)) =
        .ok tokens ∧
      tokens.map Token.content =
        (delimiter.trigger, none) :: (delimiter.openKind, none) ::
          (parts.flatMap Part.contents ++
            (delimiter.closeKind, none) :: more.map Token.content) := by
  have level := (Fragment.balanced_iff_level delimiter _).mp fit.balanced
  have body : Reads ⟨.body ⟨delimiter, .start, 0⟩, []⟩ _ _ :=
    Part.reads fit.sound fit.apart level (tokens_reads read)
  have opened : Reads ⟨.opening delimiter, []⟩ (delimiter.opener :: ([] ++ _)) _ :=
    .opener rfl (fit.unblank_body rest.toList) body
  have announced := opened.blanks rfl areBlank
  rw [← afterToken_announces delimiter.ofTrigger?_trigger] at announced
  have isCode : delimiter.trigger ≠ .rawText := by cases delimiter <;> decide
  have whole : Reads .initial _ _ :=
    .token delimiter.spells_trigger isCode (delimiter.trigger_stops areBlank _) announced
  apply Reads.tokens
  simpa [environment] using whole

theorem EndsInComment.slashes {source : String} (ends : EndsInComment source) :
    ['/', '/'] <:+: source.toList := by
  obtain ⟨before, body, -, isSource, -⟩ := ends
  exact ⟨before, body, by simp [isSource]⟩

def nestedCode : String := "f(\"]\") /* ) */ + $( [ $[y[1]] )"

def nestedCodeTokens : List Token := [
  ⟨.ident, some (.text "f"), ⟨1, 1⟩⟩, ⟨.openParen, none, ⟨1, 2⟩⟩,
  ⟨.string, some (.text "]"), ⟨1, 3⟩⟩, ⟨.closeParen, none, ⟨1, 6⟩⟩, ⟨.plus, none, ⟨1, 16⟩⟩,
  ⟨.dollar, none, ⟨1, 18⟩⟩, ⟨.openParen, none, ⟨1, 19⟩⟩,
  ⟨.rawText, some (.text "[ "), ⟨1, 21⟩⟩, ⟨.dollar, none, ⟨1, 23⟩⟩, ⟨.openBracket, none, ⟨1, 24⟩⟩,
  ⟨.ident, some (.text "y"), ⟨1, 25⟩⟩, ⟨.openBracket, none, ⟨1, 26⟩⟩,
  ⟨.number, some (.number 1), ⟨1, 27⟩⟩, ⟨.closeBracket, none, ⟨1, 28⟩⟩,
  ⟨.closeBracket, none, ⟨1, 29⟩⟩, ⟨.rawText, some (.text " "), ⟨1, 30⟩⟩,
  ⟨.closeParen, none, ⟨1, 31⟩⟩, ⟨.finish, none, ⟨1, 32⟩⟩]

def nestedParts : List Part := [.shell "a (", .splice nestedCode, .shell ") \x7d"]

def nestedContents : Contents :=
  let code := nestedCodeTokens.dropLast.map Token.content
  let behind : Contents := [
    (.closeBracket, none), (.rawText, some (.text ") \x7d")), (.closeParen, none), (.plus, none),
    (.number, some (.number 1)), (.finish, none)]
  (.dollar, none) :: (.openParen, none) :: (.rawText, some (.text "a (")) :: (.dollar, none) ::
    (.openBracket, none) :: (code ++ behind)

/-- The brackets and parentheses in the string, the comment and the inner environment of the code
count for nothing outside. -/
theorem tokens_environment_nested :
    Part.Fit .parentheses nestedParts ∧
      ∃ tokens, Lexer.tokens "$(a ($[f(\"]\") /* ) */ + $( [ $[y[1]] )]) \x7d) + 1" = .ok tokens ∧
        tokens.map Token.content = nestedContents := by
  have readCode : Lexer.tokens nestedCode = .ok nestedCodeTokens := by cbv
  have readRest : Lexer.tokens " + 1" = .ok [⟨.plus, none, ⟨1, 2⟩⟩,
      ⟨.number, some (.number 1), ⟨1, 4⟩⟩, ⟨.finish, none, ⟨1, 5⟩⟩] := by cbv
  have noComment : ¬EndsInComment nestedCode := by
    intro ends
    exact absurd ends.slashes (by decide)
  have fit : Part.Fit .parentheses nestedParts := by
    constructor
    · simp only [nestedParts, List.forall_mem_cons]
      exact ⟨⟨by decide, by decide⟩, ⟨⟨_, readCode, by decide⟩, noComment⟩,
        ⟨by decide, by decide⟩, List.forall_mem_nil _⟩
    · simp [nestedParts, List.infix_cons_iff]
    · intro text rest isFirst
      cases isFirst
      exact stops_cons.mpr rfl
    · rw [Fragment.balanced_iff_level]
      rfl
  refine ⟨fit, ?_⟩
  have noBlanks : ([] : List Char).all isSpacing = true := rfl
  obtain ⟨tokens, read, said⟩ := tokens_environment .parentheses noBlanks fit readRest
  refine ⟨tokens, read, said.trans ?_⟩
  simp only [nestedParts, List.flatMap_cons, List.flatMap_nil, Part.contents, ownContents, readCode]
  rfl

end StructuredShell.Lexer
