import StructuredShell.Proofs.Environments.Marks

/-!
# Readers along the reading loop

The readers of tokens keep none of the counters of the reading loop, and yet they stay in step with
it. A reader that starts in ordinary code and succeeds leaves tokens of the same code, at the same
depth. A reader of fragments that succeeds leaves the closing delimiter at which the loop ended the
environment. And a reader that fails reports a token that was read in ordinary code.
-/

set_option autoImplicit false

namespace StructuredShell.Parser

open Recognizer
open Lexer (Course Delimiter RawBlock Reading Splice State staysInCode tokensOf)

/-! ## Readers in step -/

/-- Whether a recognizer, started on readings, either arrives at some of the later readings or
reports a token that was read in ordinary code. -/
def InStep (arrives : List Reading → Prop) (reader : Recognizer) (finish : Position)
    (readings : List Reading) : Prop :=
  (∃ left, left <:+ readings ∧ arrives left ∧
    reader finish (tokensOf readings) = .ok (tokensOf left)) ∨
  ∃ left splices expected, left <:+ readings ∧ Course ⟨.code, splices⟩ left ∧
    reader finish (tokensOf readings) = .error (unexpected finish expected (tokensOf left))

/-- Readings from the closing delimiter of an environment on. -/
inductive AtClose (delimiter : Delimiter) (start : Position) (splices : List Splice) :
    List Reading → Prop where
  | close {pending : Nat} {closing : Token} {rest : List Reading} :
      closing.kind = delimiter.closeKind → Course ⟨.code, splices⟩ rest →
      AtClose delimiter start splices (⟨.body ⟨delimiter, start, pending⟩, closing⟩ :: rest)

section

variable {arrives next : List Reading → Prop} {reader other : Recognizer} {finish : Position}
  {readings : List Reading} {splices : List Splice} {kinds : List Kind}

namespace InStep

theorem congr (inStep : InStep arrives reader finish readings)
    (same : other finish (tokensOf readings) = reader finish (tokensOf readings)) :
    InStep arrives other finish readings := by
  unfold InStep
  rw [same]
  exact inStep

/-- A reader of some of the readings is in step with all of them. -/
theorem behind {left : List Reading} (inStep : InStep arrives reader finish left)
    (isLeft : left <:+ readings)
    (same : other finish (tokensOf readings) = reader finish (tokensOf left)) :
    InStep arrives other finish readings := by
  unfold InStep
  rw [same]
  rcases inStep with ⟨rest, isRest, arrived, read⟩ | ⟨rest, outer, expected, isRest, inCode, failed⟩
  · exact .inl ⟨rest, isRest.trans isLeft, arrived, read⟩
  · exact .inr ⟨rest, outer, expected, isRest.trans isLeft, inCode, failed⟩

theorem stay (arrived : arrives readings) : InStep arrives .stay finish readings :=
  .inl ⟨readings, List.suffix_rfl, arrived, rfl⟩

theorem refuse (course : Course ⟨.code, splices⟩ readings) (expected : List Kind) :
    InStep arrives (.refuse expected) finish readings :=
  .inr ⟨readings, splices, expected, List.suffix_rfl, course, rfl⟩

theorem onHead (yes : headKind (tokensOf readings) ∈ kinds → InStep arrives reader finish readings)
    (no : headKind (tokensOf readings) ∉ kinds → InStep arrives other finish readings) :
    InStep arrives (.onHead kinds reader other) finish readings := by
  by_cases isKind : headKind (tokensOf readings) ∈ kinds
  · exact (yes isKind).congr (onHead_pos isKind)
  · exact (no isKind).congr (onHead_neg isKind)

theorem followedBy (inStep : InStep next reader finish readings)
    (goesOn : ∀ left, left <:+ readings → next left →
      reader finish (tokensOf readings) = .ok (tokensOf left) →
        InStep arrives other finish left) :
    InStep arrives (reader.followedBy other) finish readings := by
  rcases inStep with ⟨left, isLeft, arrived, read⟩ | ⟨left, outer, expected, isLeft, inCode, failed⟩
  · refine (goesOn left isLeft arrived read).behind isLeft ?_
    rw [Recognizer.followedBy, read]
  · refine .inr ⟨left, outer, expected, isLeft, inCode, ?_⟩
    rw [Recognizer.followedBy, failed]

/-- Two ways from one place. Whichever error is kept was reported on its own way. -/
theorem either (first : InStep arrives reader finish readings)
    (second : InStep arrives other finish readings) :
    InStep arrives (.either reader other) finish readings := by
  unfold InStep Recognizer.either
  rcases first with ⟨left, isLeft, arrived, read⟩ | ⟨left, outer, expected, isLeft, inCode, failed⟩
  · rw [read]
    exact .inl ⟨left, isLeft, arrived, rfl⟩
  · rw [failed]
    rcases second with
      ⟨rest, isRest, arrived, read⟩ | ⟨rest, around, others, isRest, restInCode, failedToo⟩
    · rw [read]
      exact .inl ⟨rest, isRest, arrived, rfl⟩
    · rw [failedToo]
      dsimp only
      unfold furtherError
      split
      · exact .inr ⟨rest, around, others, isRest, restInCode, rfl⟩
      · exact .inr ⟨left, outer, expected, isLeft, inCode, rfl⟩

/-- A token that does not lead out of ordinary code. -/
theorem oneOf (course : Course ⟨.code, splices⟩ readings)
    (stays : ∀ kind ∈ kinds, staysInCode kind = true) :
    InStep (Course ⟨.code, splices⟩) (.oneOf kinds) finish readings := by
  by_cases isKind : headKind (tokensOf readings) ∈ kinds
  · cases readings with
    | nil => cases stays _ isKind
    | cons reading rest =>
        have further := course.next.2.2
        rw [Lexer.afterToken_stays (stays reading.token.kind isKind)] at further
        exact .inl ⟨rest, List.suffix_cons _ _, further,
          oneOf_eq_ok_iff.mpr ⟨reading.token, isKind, rfl⟩⟩
  · exact .inr ⟨readings, splices, kinds, List.suffix_rfl, course, oneOf_of_not_head isKind⟩

/-- Such a token, and behind it another recognizer. -/
theorem oneOfThen (course : Course ⟨.code, splices⟩ readings)
    (stays : ∀ kind ∈ kinds, staysInCode kind = true)
    (goesOn : ∀ left, left <:+ readings → (tokensOf left).length < (tokensOf readings).length →
      Course ⟨.code, splices⟩ left → InStep arrives other finish left) :
    InStep arrives ((Recognizer.oneOf kinds).followedBy other) finish readings := by
  refine (InStep.oneOf course stays).followedBy ?_
  intro left isLeft inCode taken
  obtain ⟨token, _, areTokens⟩ := oneOf_eq_ok_iff.mp taken
  exact goesOn left isLeft (by simp [areTokens]) inCode

theorem closedBy (inStep : InStep (Course ⟨.code, splices⟩) reader finish readings) {kind : Kind}
    (stays : staysInCode kind = true) :
    InStep (Course ⟨.code, splices⟩) (reader.followedBy (.oneOf [kind])) finish readings := by
  refine inStep.followedBy ?_
  intro left _ inCode _
  exact .oneOf inCode (by simpa using stays)

/-- A loop over items that signs divide. -/
theorem loop {tail : Recognizer} {signs : List Kind}
    (isLoop : tail = .onHead signs ((Recognizer.oneOf signs).followedBy (reader.followedBy tail))
      .stay)
    (stays : ∀ kind ∈ signs, staysInCode kind = true)
    (shorter : ∀ {tokens rest}, reader finish tokens = .ok rest → rest.length < tokens.length)
    (readings : List Reading) (course : Course ⟨.code, splices⟩ readings)
    (items : ∀ left, left <:+ readings → (tokensOf left).length < (tokensOf readings).length →
      Course ⟨.code, splices⟩ left →
        InStep (Course ⟨.code, splices⟩) reader finish left) :
    InStep (Course ⟨.code, splices⟩) tail finish readings := by
  rw [isLoop]
  refine .onHead (fun _ => ?_) fun _ => .stay course
  refine .oneOfThen course stays ?_
  intro behind isBehind isShorter inCode
  refine (items behind isBehind isShorter inCode).followedBy ?_
  intro rest isRest restInCode read
  have restShorter := (shorter read).trans isShorter
  refine loop isLoop stays shorter rest restInCode ?_
  intro later isLater laterShorter laterInCode
  exact items later (isLater.trans (isRest.trans isBehind)) (laterShorter.trans restShorter)
    laterInCode
termination_by (tokensOf readings).length

end InStep

/-! ## Environments and splices -/

variable {delimiter : Delimiter} {start : Position} {block : RawBlock}

theorem AtClose.inStep (atClose : AtClose delimiter start splices readings) :
    InStep (Course ⟨.code, splices⟩) (oneOf [delimiter.closeKind]) finish readings := by
  cases atClose with
  | close isClose further =>
      exact .inl ⟨_, List.suffix_cons _ _, further,
        oneOf_eq_ok_iff.mpr ⟨_, List.mem_singleton.mpr isClose, rfl⟩⟩

theorem AtClose.closes (atClose : AtClose delimiter start splices readings) :
    ∃ closing rest, readings = closing :: rest ∧ closing.token.kind = delimiter.closeKind ∧
      closing.closes? = some (start, closing.token.position) := by
  cases atClose with
  | close isClose _ =>
      exact ⟨_, _, rfl, isClose, Reading.closes?_eq_some_iff.mpr ⟨_, rfl, isClose, rfl, rfl⟩⟩

/-- The bracket that ends a splice leads back to the body around it. -/
theorem InStep.closeBracket (course : Course ⟨.code, ⟨block, start, 0⟩ :: splices⟩ readings) :
    InStep (Course ⟨.body block, splices⟩) (.oneOf [.closeBracket]) finish readings := by
  by_cases isKind : headKind (tokensOf readings) ∈ [Kind.closeBracket]
  · cases readings with
    | nil => cases List.mem_singleton.mp isKind
    | cons reading rest =>
        have isClose : reading.token.kind = .closeBracket := List.mem_singleton.mp isKind
        have further := course.next.2.2
        rw [isClose] at further
        exact .inl ⟨rest, List.suffix_cons _ _, further,
          oneOf_eq_ok_iff.mpr ⟨reading.token, isKind, rfl⟩⟩
  · exact .inr ⟨readings, _, _, List.suffix_rfl, course, oneOf_of_not_head isKind⟩

/-- An environment from the token that announces it on. Neither its opening nor its closing
delimiter can be missing. -/
theorem InStep.environment {trigger : Kind} {last : Recognizer}
    (course : Course ⟨.code, splices⟩ readings)
    (isTrigger : headKind (tokensOf readings) ∈ [trigger])
    (announces : Delimiter.ofTrigger? trigger = some delimiter)
    (body : ∀ (start : Position) (inner : List Reading), inner <:+ readings →
      (tokensOf inner).length < (tokensOf readings).length →
      Course ⟨.body ⟨delimiter, start, 0⟩, splices⟩ inner →
        InStep (AtClose delimiter start splices) (of fragments) finish inner)
    (ends : ∀ (start : Position) (left : List Reading), AtClose delimiter start splices left →
      InStep arrives last finish left) :
    InStep arrives ((Recognizer.oneOf [trigger]).followedBy
      ((Recognizer.oneOf [delimiter.openKind]).followedBy ((of fragments).followedBy last)))
      finish readings := by
  have isTrigger := List.mem_singleton.mp isTrigger
  cases readings with
  | nil =>
      cases isTrigger
      cases announces
  | cons reading rest =>
      subst isTrigger
      obtain ⟨position, inner, rfl, entered⟩ := course.announced announces
      have isInner := (List.suffix_cons ⟨.opening delimiter, ⟨delimiter.openKind, none, position⟩⟩
        inner).trans (List.suffix_cons reading _)
      have read := body position inner isInner (by simp) entered
      refine (read.followedBy fun left _ atClose _ => ends position left atClose).behind isInner ?_
      rw [Lexer.tokensOf_cons, Lexer.tokensOf_cons, oneOf_followedBy (by simp),
        oneOf_followedBy (by simp)]

end

/-! ## Values -/

theorem separator_inStep {more : Recognizer} {finish : Position} {readings : List Reading}
    {splices : List Splice} (course : Course ⟨.code, splices⟩ readings)
    (goesOn : ∀ left, left <:+ readings → (tokensOf left).length < (tokensOf readings).length →
      Course ⟨.code, splices⟩ left → InStep (Course ⟨.code, splices⟩) more finish left) :
    InStep (Course ⟨.code, splices⟩) (separator more) finish readings := by
  refine .onHead (fun _ => ?_) fun _ => .onHead (fun _ => ?_) fun _ => ?_
  · exact .oneOfThen course (by decide) goesOn
  · exact .oneOf course (by decide)
  · exact .refuse course _

mutual

theorem expression_inStep (finish : Position) (readings : List Reading) (splices : List Splice)
    (course : Course ⟨.code, splices⟩ readings) :
    InStep (Course ⟨.code, splices⟩) (of expression) finish readings := by
  rw [of_expression]
  refine (term_inStep finish readings splices course).followedBy ?_
  intro left _ inCode read
  have shorter := Reply.length_lt_of_outcome read
  refine .loop sums_eq (by decide) Reply.length_lt_of_outcome left inCode ?_
  intro later _ laterShorter laterInCode
  exact term_inStep finish later splices laterInCode
termination_by 4 * (tokensOf readings).length + 2

theorem term_inStep (finish : Position) (readings : List Reading) (splices : List Splice)
    (course : Course ⟨.code, splices⟩ readings) :
    InStep (Course ⟨.code, splices⟩) (of term) finish readings := by
  rw [of_term]
  refine (factor_inStep finish readings splices course).followedBy ?_
  intro left _ inCode read
  have shorter := Reply.length_lt_of_outcome read
  refine .loop products_eq (by decide) Reply.length_lt_of_outcome left inCode ?_
  intro later _ laterShorter laterInCode
  exact factor_inStep finish later splices laterInCode
termination_by 4 * (tokensOf readings).length + 1

theorem factor_inStep (finish : Position) (readings : List Reading) (splices : List Splice)
    (course : Course ⟨.code, splices⟩ readings) :
    InStep (Course ⟨.code, splices⟩) (of factor) finish readings := by
  refine InStep.congr ?_ (factor_outcome course.wellFormed)
  refine .onHead (fun _ => ?literal) fun _ => .onHead (fun _ => ?name) fun _ =>
    .onHead (fun _ => ?group) fun _ => .onHead (fun isDollar => ?raw) fun _ => ?other
  case literal => exact .oneOf course (by decide)
  case name =>
    refine .oneOfThen course (by decide) ?_
    intro rest _ isShorter inCode
    exact callEnd_inStep finish rest splices inCode
  case group =>
    refine .oneOfThen course (by decide) ?_
    intro rest _ isShorter inCode
    exact (expression_inStep finish rest splices inCode).closedBy rfl
  case raw =>
    refine InStep.environment course isDollar rfl ?_ fun start left atClose => atClose.inStep
    intro start inner _ isShorter entered
    exact fragments_inStep finish inner _ splices entered
  case other => exact .refuse course _
termination_by 4 * (tokensOf readings).length

theorem callEnd_inStep (finish : Position) (readings : List Reading) (splices : List Splice)
    (course : Course ⟨.code, splices⟩ readings) :
    InStep (Course ⟨.code, splices⟩) callEnd finish readings := by
  refine .onHead (fun _ => ?_) fun _ => .stay course
  refine .oneOfThen course (by decide) ?_
  intro rest _ isShorter inCode
  exact arguments_inStep finish rest splices inCode
termination_by 4 * (tokensOf readings).length

theorem arguments_inStep (finish : Position) (readings : List Reading) (splices : List Splice)
    (course : Course ⟨.code, splices⟩ readings) :
    InStep (Course ⟨.code, splices⟩) (of arguments) finish readings := by
  rw [of_arguments]
  refine .onHead (fun _ => .oneOf course (by decide)) fun _ => ?_
  refine (expression_inStep finish readings splices course).followedBy ?_
  intro left _ inCode read
  have shorter := Reply.length_lt_of_outcome read
  refine separator_inStep inCode ?_
  intro others _ isShorter othersInCode
  exact arguments_inStep finish others splices othersInCode
termination_by 4 * (tokensOf readings).length + 3

theorem spliceTail_inStep (finish : Position) (bracket : Reading) (rest : List Reading)
    (block : RawBlock) (start : Position) (splices : List Splice)
    (isOpen : bracket.token.kind = .openBracket)
    (course : Course ⟨.code, ⟨block, start, 0⟩ :: splices⟩ rest) :
    InStep (Course ⟨.body block, splices⟩) (of spliceTail) finish (bracket :: rest) := by
  rw [of_spliceTail]
  have closes {left : List Reading} (inCode : Course ⟨.code, ⟨block, start, 0⟩ :: splices⟩ left) :
      InStep (Course ⟨.body block, splices⟩) (.oneOf [.closeBracket]) finish left :=
    .closeBracket inCode
  have read := (expression_inStep finish rest _ course).followedBy
    fun _ _ inCode _ => closes inCode
  refine read.behind (List.suffix_cons _ _) ?_
  exact oneOf_followedBy (List.mem_singleton.mpr isOpen)
termination_by 4 * (tokensOf (bracket :: rest)).length

theorem fragments_inStep (finish : Position) (readings : List Reading) (block : RawBlock)
    (splices : List Splice) (course : Course ⟨.body block, splices⟩ readings) :
    InStep (AtClose block.delimiter block.start splices) (of fragments) finish readings := by
  refine InStep.congr ?_ (fragments_outcome course.wellFormed)
  rcases course.inside with ⟨position, text, pending, rest, areReadings, further⟩ |
    ⟨position, rest, areReadings, further⟩ | ⟨position, rest, areReadings, further⟩
  · have shorter : (tokensOf rest).length < (tokensOf readings).length := by simp [areReadings]
    have read := fragments_inStep finish rest { block with pending := pending } splices further
    rw [areReadings]
    refine read.behind (List.suffix_cons _ _) ?_
    rw [onHead_pos (by simp)]
    exact oneOf_followedBy (.head _)
  · let bracket : Reading := ⟨.body block, ⟨.openBracket, none, position.advance '$'⟩⟩
    have bracketShorter : (tokensOf (bracket :: rest)).length < (tokensOf readings).length := by
      simp [areReadings]
    have read := spliceTail_inStep finish bracket rest block position splices rfl further
    have readAll : InStep (AtClose block.delimiter block.start splices)
        ((of spliceTail).followedBy (of fragments)) finish (bracket :: rest) := by
      refine read.followedBy ?_
      intro left _ inBody taken
      have shorter := (Reply.length_lt_of_outcome taken).trans bracketShorter
      exact fragments_inStep finish left block splices inBody
    rw [areReadings]
    refine readAll.behind (List.suffix_cons _ _) ?_
    rw [onHead_neg (by simp), onHead_pos (by simp)]
    exact oneOf_followedBy (.head _)
  · have notText : block.delimiter.closeKind ∉ [Kind.rawText] := by
      simpa using block.delimiter.closeKind_ne_rawText
    have notDollar : block.delimiter.closeKind ∉ [Kind.dollar] := by
      simpa using block.delimiter.closeKind_ne_dollar
    rw [areReadings]
    refine InStep.congr (.stay (.close rfl further)) ?_
    rw [onHead_neg notText, onHead_neg notDollar]
termination_by 4 * (tokensOf readings).length

end

end StructuredShell.Parser
