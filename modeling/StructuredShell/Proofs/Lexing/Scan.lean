import StructuredShell.Proofs.Lexing.Items

/-!
# The reading loop as a relation

Which tokens a text has, from a state and a place on, with one rule for each thing the loop can
meet. The rules say nothing about lookahead or counted characters. The loop succeeds exactly when
they apply, so that every property of successful reading is an induction over them.
-/

set_option autoImplicit false

namespace StructuredShell.Lexer

/-! ## The rules -/

/-- Whether blanks are skipped. They are part of the text in the body of an environment only. -/
def Phase.skipsBlanks : Phase → Bool
  | .code => true
  | .opening _ => true
  | .body _ => false

/-- `Scan state position source tokens`: a text, read from a state and a place on, has tokens. -/
inductive Scan : State → Position → List Char → List Token → Prop where
  | finish {position : Position} : Scan ⟨.code, []⟩ position [] [⟨.finish, none, position⟩]
  | blank {state : State} {position : Position} {c : Char} {rest : List Char}
      {tokens : List Token} :
      state.phase.skipsBlanks = true → isSpacing c = true →
      Scan state (position.advance c) rest tokens → Scan state position (c :: rest) tokens
  | comment {splices : List Splice} {position : Position} {comment rest : List Char}
      {tokens : List Token} :
      Comment rest comment → Scan ⟨.code, splices⟩ (position.after comment) rest tokens →
      Scan ⟨.code, splices⟩ position (comment ++ rest) tokens
  | token {splices : List Splice} {position : Position} {kind : Kind} {literal : Option Literal}
      {spelling rest : List Char} {tokens : List Token} :
      Spells kind literal spelling → kind ≠ .rawText → Stops (continuedBy kind) rest →
      Scan (.afterToken splices kind) (position.after spelling) rest tokens →
      Scan ⟨.code, splices⟩ position (spelling ++ rest) (⟨kind, literal, position⟩ :: tokens)
  | opener {delimiter : Delimiter} {splices : List Splice} {position : Position}
      {blanks rest : List Char} {tokens : List Token} :
      blanks.all isSpacing = true → Stops isSpacing rest →
      Scan ⟨.body ⟨delimiter, position, 0⟩, splices⟩ (position.after (delimiter.opener :: blanks))
        rest tokens →
      Scan ⟨.opening delimiter, splices⟩ position (delimiter.opener :: (blanks ++ rest))
        (⟨delimiter.openKind, none, position⟩ :: tokens)
  | text {block : RawBlock} {splices : List Splice} {position : Position} {pending : Nat}
      {text rest : List Char} {tokens : List Token} :
      text ≠ [] → block.delimiter.level? block.pending text = some pending →
      ¬['$', '['] <:+: text → Interrupts block.delimiter pending rest →
      Scan ⟨.body { block with pending := pending }, splices⟩ (position.after text) rest tokens →
      Scan ⟨.body block, splices⟩ position (text ++ rest)
        (⟨.rawText, some (.text (String.ofList text)), position⟩ :: tokens)
  | splice {block : RawBlock} {splices : List Splice} {position : Position} {rest : List Char}
      {tokens : List Token} :
      Scan ⟨.code, ⟨block, position, 0⟩ :: splices⟩ (position.after ['$', '[']) rest tokens →
      Scan ⟨.body block, splices⟩ position ('$' :: '[' :: rest)
        (⟨.dollar, none, position⟩ :: ⟨.openBracket, none, position.advance '$'⟩ :: tokens)
  | close {block : RawBlock} {splices : List Splice} {position : Position} {rest : List Char}
      {tokens : List Token} :
      block.pending = 0 →
      Scan ⟨.code, splices⟩ (position.advance block.delimiter.closer) rest tokens →
      Scan ⟨.body block, splices⟩ position (block.delimiter.closer :: rest)
        (⟨block.delimiter.closeKind, none, position⟩ :: tokens)

/-! ## The loop follows the rules -/

theorem Scan.blanks {state : State} {position : Position} {blanks rest : List Char}
    {tokens : List Token} (skips : state.phase.skipsBlanks = true)
    (areBlank : blanks.all isSpacing = true)
    (scanned : Scan state (position.after blanks) rest tokens) :
    Scan state position (blanks ++ rest) tokens := by
  induction blanks generalizing position with
  | nil => exact scanned
  | cons c blanks ih =>
      simp only [List.all_cons, Bool.and_eq_true] at areBlank
      exact .blank skips areBlank.1 (ih areBlank.2 scanned)

theorem Scan.body_ne_nil {block : RawBlock} {splices : List Splice} {position : Position}
    {source : List Char} {tokens : List Token}
    (scanned : Scan ⟨.body block, splices⟩ position source tokens) : source ≠ [] := by
  cases scanned with
  | blank skips => cases skips
  | text nonempty => simp [nonempty]
  | splice => simp
  | close => simp

theorem codeStep_scan {splices : List Splice} {position : Position} {c : Char} {cs : List Char}
    {taken : Step} {more : List Token} (stepped : codeStep splices position c cs = .ok taken)
    (scanned : Scan taken.next (position.after (c :: cs.take taken.further))
      (cs.drop taken.further) more) :
    Scan ⟨.code, splices⟩ position (c :: cs) (taken.tokens ++ more) := by
  unfold codeStep at stepped
  split at stepped
  · cases stepped
  · rename_i further read
    cases stepped
    obtain ⟨tail, rest, rfl, rfl, fits⟩ := item_heads read
    simp only [List.take_left, List.drop_left] at scanned
    rcases fits with areBlank | comment
    · exact .blanks rfl areBlank scanned
    · exact .comment comment scanned
  · rename_i kind literal further read
    cases stepped
    obtain ⟨tail, rest, rfl, rfl, spells, isCode, stops⟩ := item_heads read
    simp only [List.take_left, List.drop_left] at scanned
    exact .token spells isCode stops scanned

theorem openingStep_scan {delimiter : Delimiter} {splices : List Splice} {position : Position}
    {c : Char} {cs : List Char} {taken : Step} {more : List Token}
    (stepped : openingStep delimiter splices position c cs = .ok taken)
    (scanned : Scan taken.next (position.after (c :: cs.take taken.further))
      (cs.drop taken.further) more) :
    Scan ⟨.opening delimiter, splices⟩ position (c :: cs) (taken.tokens ++ more) := by
  obtain ⟨blanks, rest, rfl, areBlank, stops, run⟩ := exists_run isSpacing cs
  unfold openingStep at stepped
  split at stepped
  · rename_i isBlank
    cases stepped
    simp only [run, List.take_left, List.drop_left] at scanned
    have allBlank : (c :: blanks).all isSpacing = true := by simp [isBlank, areBlank]
    exact .blanks rfl allBlank scanned
  · split at stepped
    · rename_i isOpener
      cases stepped
      subst isOpener
      simp only [run, List.take_left, List.drop_left] at scanned
      exact .opener areBlank stops scanned
    · cases stepped

theorem bodyStep_scan {block : RawBlock} {splices : List Splice} {position : Position}
    {c : Char} {cs : List Char} {taken : Step} {more : List Token}
    (stepped : bodyStep block splices position c cs = taken)
    (scanned : Scan taken.next (position.after (c :: cs.take taken.further))
      (cs.drop taken.further) more) :
    Scan ⟨.body block, splices⟩ position (c :: cs) (taken.tokens ++ more) := by
  unfold bodyStep at stepped
  split at stepped
  · rename_i left read
    obtain ⟨rest, isRest, level, -, interrupts⟩ := rawText_sound read
    cases level
    obtain rfl : rest = c :: cs := isRest.symm
    rcases interrupts with empty | ⟨balanced, isCloser⟩ | isSplice
    · cases empty
    · obtain rfl : c = block.delimiter.closer := by simpa [eq_comm] using isCloser
      have notDollar : block.delimiter.closer ≠ '$' := by
        cases block.delimiter <;> decide
      rw [if_neg notDollar] at stepped
      subst stepped
      exact .close balanced (by simpa using scanned)
    · obtain ⟨rest, isRest⟩ := isSplice
      obtain ⟨rfl, rfl⟩ : c = '$' ∧ cs = '[' :: rest := by simpa [eq_comm] using isRest
      rw [if_pos rfl] at stepped
      subst stepped
      exact .splice (by simpa using scanned)
  · rename_i d tail left read
    subst stepped
    obtain ⟨rest, isRest, level, noSplice, interrupts⟩ := rawText_sound read
    obtain ⟨rfl, rfl⟩ : c = d ∧ cs = tail ++ rest := by simpa using isRest
    simp only [List.take_left, List.drop_left] at scanned
    exact .text (by simp) level noSplice (interrupts.resolve_left scanned.body_ne_nil) scanned

theorem step_scan {state : State} {position : Position} {c : Char} {cs : List Char} {taken : Step}
    {more : List Token} (stepped : step state position c cs = .ok taken)
    (scanned : Scan taken.next (position.after (c :: cs.take taken.further))
      (cs.drop taken.further) more) :
    Scan state position (c :: cs) (taken.tokens ++ more) := by
  obtain ⟨phase, splices⟩ := state
  cases phase with
  | code => exact codeStep_scan stepped scanned
  | opening delimiter => exact openingStep_scan stepped scanned
  | body block => exact bodyStep_scan (Except.ok.inj stepped) scanned

theorem atEnd_scan {state : State} {position : Position} {tokens : List Token}
    (ended : atEnd state position = .ok tokens) : Scan state position [] tokens := by
  match state, ended with
  | ⟨.code, []⟩, ended =>
      cases ended
      exact .finish
  | ⟨.code, _ :: _⟩, ended => cases ended
  | ⟨.opening _, _⟩, ended => cases ended
  | ⟨.body _, _⟩, ended => cases ended

theorem tokensFrom_scan {state : State} {position : Position} {source : List Char}
    {tokens : List Token} (read : tokensFrom state position source = .ok tokens) :
    Scan state position source tokens := by
  fun_induction tokensFrom state position source generalizing tokens with
  | case1 state position => exact atEnd_scan read
  | case2 => cases read
  | case3 => cases read
  | case4 state position c cs taken stepped more readMore ih =>
      cases read
      exact step_scan stepped (ih readMore)

/-! ## The rules are followed by the loop -/

theorem map_append_map (first second : List Token) (outcome : Except LexError (List Token)) :
    (outcome.map (second ++ ·)).map (first ++ ·) = outcome.map (first ++ second ++ ·) := by
  cases outcome with
  | error error => rfl
  | ok tokens => simp [Except.map]

/-- A step whose characters are known leads to what is read from the rest of the text, in failure
too. -/
theorem tokensFrom_step {state : State} {position : Position} {c : Char} {tail rest : List Char}
    {tokens : List Token} {next : State}
    (stepped : step state position c (tail ++ rest) = .ok ⟨tokens, next, tail.length⟩) :
    tokensFrom state position (c :: (tail ++ rest)) =
      (tokensFrom next (position.after (c :: tail)) rest).map (tokens ++ ·) := by
  rw [tokensFrom, stepped]
  simp only [List.take_left, List.drop_left]
  cases tokensFrom next (position.after (c :: tail)) rest <;> rfl

theorem tokensFrom_blanks {state : State} {blanks rest : List Char}
    (skips : state.phase.skipsBlanks = true) (areBlank : blanks.all isSpacing = true)
    (stops : Stops isSpacing rest) (position : Position) :
    tokensFrom state position (blanks ++ rest) = tokensFrom state (position.after blanks) rest := by
  cases blanks with
  | nil => rfl
  | cons c blanks =>
      obtain ⟨isBlank, areBlank⟩ : isSpacing c = true ∧ blanks.all isSpacing = true := by
        simpa using areBlank
      have run := takeWhile_run areBlank stops
      have stepped : step state position c (blanks ++ rest) = .ok ⟨[], state, blanks.length⟩ := by
        obtain ⟨phase, splices⟩ := state
        cases phase with
        | code => simp [step, codeStep, item_blank isBlank, Item.gap, run]
        | opening delimiter => simp [step, openingStep, isBlank, run]
        | body block => cases skips
      rw [List.cons_append, tokensFrom, stepped]
      simp only [List.take_left, List.drop_left, List.nil_append]
      split <;> simp_all

theorem tokensFrom_blank {state : State} {c : Char} (skips : state.phase.skipsBlanks = true)
    (isBlank : isSpacing c = true) (position : Position) (rest : List Char) :
    tokensFrom state position (c :: rest) = tokensFrom state (position.advance c) rest := by
  obtain ⟨blanks, rest, rfl, areBlank, stops, -⟩ := exists_run isSpacing rest
  have allBlank : (c :: blanks).all isSpacing = true := by simp [isBlank, areBlank]
  rw [tokensFrom_blanks skips areBlank stops, ← List.cons_append,
    tokensFrom_blanks skips allBlank stops, Position.after_cons]

theorem tokensFrom_comment {splices : List Splice} {comment rest : List Char}
    (isComment : Comment rest comment) (position : Position) :
    tokensFrom ⟨.code, splices⟩ position (comment ++ rest) =
      tokensFrom ⟨.code, splices⟩ (position.after comment) rest := by
  cases comment with
  | nil => cases isComment
  | cons c tail =>
      have stepped : step ⟨.code, splices⟩ position c (tail ++ rest) =
          .ok ⟨[], ⟨.code, splices⟩, tail.length⟩ := by
        simp [step, codeStep, item_comment isComment, Item.gap]
      rw [List.cons_append, tokensFrom_step stepped]
      cases tokensFrom ⟨.code, splices⟩ (position.after (c :: tail)) rest <;> rfl

theorem tokensFrom_token {splices : List Splice} {kind : Kind} {literal : Option Literal}
    {spelling rest : List Char} (spells : Spells kind literal spelling) (isCode : kind ≠ .rawText)
    (stops : Stops (continuedBy kind) rest) (position : Position) :
    tokensFrom ⟨.code, splices⟩ position (spelling ++ rest) =
      (tokensFrom (.afterToken splices kind) (position.after spelling) rest).map
        ([⟨kind, literal, position⟩] ++ ·) := by
  cases spelling with
  | nil => exact absurd rfl spells.ne_nil
  | cons c tail =>
      have stepped : step ⟨.code, splices⟩ position c (tail ++ rest) =
          .ok ⟨[⟨kind, literal, position⟩], .afterToken splices kind, tail.length⟩ := by
        simp [step, codeStep, item_token spells isCode stops]
      exact tokensFrom_step stepped

theorem tokensFrom_opener {delimiter : Delimiter} {splices : List Splice} {blanks rest : List Char}
    (areBlank : blanks.all isSpacing = true) (stops : Stops isSpacing rest) (position : Position) :
    tokensFrom ⟨.opening delimiter, splices⟩ position (delimiter.opener :: (blanks ++ rest)) =
      (tokensFrom ⟨.body ⟨delimiter, position, 0⟩, splices⟩
        (position.after (delimiter.opener :: blanks)) rest).map
          ([⟨delimiter.openKind, none, position⟩] ++ ·) := by
  have notBlank : isSpacing delimiter.opener = false := by cases delimiter <;> rfl
  have stepped : step ⟨.opening delimiter, splices⟩ position delimiter.opener (blanks ++ rest) =
      .ok ⟨[⟨delimiter.openKind, none, position⟩], ⟨.body ⟨delimiter, position, 0⟩, splices⟩,
        blanks.length⟩ := by
    simp [step, openingStep, notBlank, takeWhile_run areBlank stops]
  exact tokensFrom_step stepped

theorem tokensFrom_text {block : RawBlock} {splices : List Splice} {pending : Nat}
    {text rest : List Char} (nonempty : text ≠ [])
    (level : block.delimiter.level? block.pending text = some pending)
    (noSplice : ¬['$', '['] <:+: text) (interrupts : Interrupts block.delimiter pending rest)
    (position : Position) :
    tokensFrom ⟨.body block, splices⟩ position (text ++ rest) =
      (tokensFrom ⟨.body { block with pending := pending }, splices⟩ (position.after text)
        rest).map ([⟨.rawText, some (.text (String.ofList text)), position⟩] ++ ·) := by
  have taken := rawText_complete level noSplice interrupts
  cases text with
  | nil => exact absurd rfl nonempty
  | cons c tail =>
      rw [List.cons_append] at taken ⊢
      have stepped : step ⟨.body block, splices⟩ position c (tail ++ rest) =
          .ok ⟨[⟨.rawText, some (.text (String.ofList (c :: tail))), position⟩],
            ⟨.body { block with pending := pending }, splices⟩, tail.length⟩ := by
        simp [step, bodyStep, taken]
      exact tokensFrom_step stepped

theorem tokensFrom_splice (block : RawBlock) (splices : List Splice) (position : Position)
    (rest : List Char) :
    tokensFrom ⟨.body block, splices⟩ position ('$' :: '[' :: rest) =
      (tokensFrom ⟨.code, ⟨block, position, 0⟩ :: splices⟩ (position.after ['$', '[']) rest).map
        ([⟨.dollar, none, position⟩, ⟨.openBracket, none, position.advance '$'⟩] ++ ·) := by
  have taken : rawText block.delimiter block.pending ('$' :: '[' :: rest) =
      ([], block.pending) := rawText_interrupted (.inr ⟨rest, rfl⟩)
  have stepped : step ⟨.body block, splices⟩ position '$' (['['] ++ rest) =
      .ok ⟨[⟨.dollar, none, position⟩, ⟨.openBracket, none, position.advance '$'⟩],
        ⟨.code, ⟨block, position, 0⟩ :: splices⟩, 1⟩ := by
    simp [step, bodyStep, taken]
  exact tokensFrom_step stepped

theorem tokensFrom_close {block : RawBlock} (balanced : block.pending = 0) (splices : List Splice)
    (position : Position) (rest : List Char) :
    tokensFrom ⟨.body block, splices⟩ position (block.delimiter.closer :: rest) =
      (tokensFrom ⟨.code, splices⟩ (position.advance block.delimiter.closer) rest).map
        ([⟨block.delimiter.closeKind, none, position⟩] ++ ·) := by
  have taken : rawText block.delimiter block.pending (block.delimiter.closer :: rest) =
      ([], block.pending) := rawText_interrupted (.inl ⟨balanced, by simp⟩)
  have notDollar : block.delimiter.closer ≠ '$' := by cases block.delimiter <;> decide
  have stepped : step ⟨.body block, splices⟩ position block.delimiter.closer ([] ++ rest) =
      .ok ⟨[⟨block.delimiter.closeKind, none, position⟩], ⟨.code, splices⟩, 0⟩ := by
    simp [step, bodyStep, taken, notDollar]
  exact tokensFrom_step stepped

theorem Scan.tokensFrom_eq {state : State} {position : Position} {source : List Char}
    {tokens : List Token} (scanned : Scan state position source tokens) :
    tokensFrom state position source = .ok tokens := by
  induction scanned with
  | finish => rw [tokensFrom]; rfl
  | blank skips isBlank _ ih => rw [tokensFrom_blank skips isBlank, ih]
  | comment isComment _ ih => rw [tokensFrom_comment isComment, ih]
  | token spells isCode stops _ ih =>
      rw [tokensFrom_token spells isCode stops, ih]
      rfl
  | opener areBlank stops _ ih =>
      rw [tokensFrom_opener areBlank stops, ih]
      rfl
  | text nonempty level noSplice interrupts _ ih =>
      rw [tokensFrom_text nonempty level noSplice interrupts, ih]
      rfl
  | splice _ ih =>
      rw [tokensFrom_splice, ih]
      rfl
  | close balanced _ ih =>
      rw [tokensFrom_close balanced, ih]
      rfl

theorem tokensFrom_eq_ok_iff {state : State} {position : Position} {source : List Char}
    {tokens : List Token} :
    tokensFrom state position source = .ok tokens ↔ Scan state position source tokens :=
  ⟨tokensFrom_scan, Scan.tokensFrom_eq⟩

theorem tokens_eq_ok_iff {source : String} {tokens : List Token} :
    Lexer.tokens source = .ok tokens ↔ Scan .initial .start source.toList tokens :=
  tokensFrom_eq_ok_iff

/-! ## The end -/

theorem Spells.ne_finish {kind : Kind} {literal : Option Literal} {spelling : List Char}
    (spells : Spells kind literal spelling) : kind ≠ .finish := by
  intro isEnd
  subst isEnd
  cases spells with
  | sign sign => cases sign

/-- The last token, and no other, is the end of the text. -/
theorem Scan.ends {state : State} {position : Position} {source : List Char} {tokens : List Token}
    (scanned : Scan state position source tokens) :
    ∃ inner place, tokens = inner ++ [⟨.finish, none, place⟩] ∧
      ∀ token ∈ inner, token.kind ≠ .finish := by
  induction scanned with
  | @finish position => exact ⟨[], position, rfl, by simp⟩
  | blank _ _ _ ih => exact ih
  | comment _ _ ih => exact ih
  | token spells _ _ _ ih =>
      obtain ⟨inner, place, rfl, noEnd⟩ := ih
      exact ⟨_ :: inner, place, rfl, List.forall_mem_cons.mpr ⟨spells.ne_finish, noEnd⟩⟩
  | @opener delimiter _ _ _ _ _ _ _ _ ih =>
      obtain ⟨inner, place, rfl, noEnd⟩ := ih
      have otherKind : delimiter.openKind ≠ .finish := by cases delimiter <;> decide
      exact ⟨_ :: inner, place, rfl, List.forall_mem_cons.mpr ⟨otherKind, noEnd⟩⟩
  | text _ _ _ _ _ ih =>
      obtain ⟨inner, place, rfl, noEnd⟩ := ih
      exact ⟨_ :: inner, place, rfl, List.forall_mem_cons.mpr ⟨nofun, noEnd⟩⟩
  | splice _ ih =>
      obtain ⟨inner, place, rfl, noEnd⟩ := ih
      exact ⟨_ :: _ :: inner, place, rfl,
        List.forall_mem_cons.mpr ⟨nofun, List.forall_mem_cons.mpr ⟨nofun, noEnd⟩⟩⟩
  | @close block _ _ _ _ _ _ ih =>
      obtain ⟨inner, place, rfl, noEnd⟩ := ih
      have otherKind : block.delimiter.closeKind ≠ .finish := by cases block.delimiter <;> decide
      exact ⟨_ :: inner, place, rfl, List.forall_mem_cons.mpr ⟨otherKind, noEnd⟩⟩

/-! ## What can follow -/

/-- Whether tokens can be what is read from a state on, from some text at some place. -/
def Follows (state : State) (tokens : List Token) : Prop :=
  ∃ position source, Scan state position source tokens

/-- Whether a token of ordinary code is followed by more of the same code, whatever it lies in. -/
def staysInCode : Kind → Bool
  | .rawWord | .dollar | .openBracket | .closeBracket | .finish => false
  | _ => true

theorem afterToken_stays {kind : Kind} (stays : staysInCode kind = true) (splices : List Splice) :
    State.afterToken splices kind = ⟨.code, splices⟩ := by
  cases kind
  case rawWord | dollar | openBracket | closeBracket | finish => cases stays
  all_goals rfl

theorem afterToken_announces {kind : Kind} {delimiter : Delimiter}
    (announces : Delimiter.ofTrigger? kind = some delimiter) (splices : List Splice) :
    State.afterToken splices kind = ⟨.opening delimiter, splices⟩ := by
  unfold State.afterToken
  rw [announces]

theorem Scan.code_cons {splices : List Splice} {position : Position} {source : List Char}
    {token : Token} {more : List Token}
    (scanned : Scan ⟨.code, splices⟩ position source (token :: more))
    (notEnd : token.kind ≠ .finish) :
    (∃ spelling, Spells token.kind token.literal spelling) ∧
      Follows (.afterToken splices token.kind) more := by
  generalize isState : (⟨.code, splices⟩ : State) = state at scanned
  generalize areTokens : token :: more = tokens at scanned
  induction scanned with
  | finish =>
      cases areTokens
      exact absurd rfl notEnd
  | blank _ _ _ ih => exact ih isState areTokens
  | comment _ _ ih => exact ih isState areTokens
  | token spells _ _ further =>
      cases isState
      cases areTokens
      exact ⟨⟨_, spells⟩, _, _, further⟩
  | opener => cases isState
  | text => cases isState
  | splice => cases isState
  | close => cases isState

theorem Follows.next {splices : List Splice} {token : Token} {more : List Token} {kind : Kind}
    (follows : Follows ⟨.code, splices⟩ (token :: more)) (isKind : token.kind = kind)
    (stays : staysInCode kind = true) :
    (∃ spelling, Spells kind token.literal spelling) ∧ Follows ⟨.code, splices⟩ more := by
  obtain ⟨position, source, scanned⟩ := follows
  subst isKind
  have notEnd : token.kind ≠ .finish := by
    intro isEnd
    rw [isEnd] at stays
    cases stays
  obtain ⟨spelled, further⟩ := scanned.code_cons notEnd
  rw [afterToken_stays stays] at further
  exact ⟨spelled, further⟩

theorem Scan.opening_cons {delimiter : Delimiter} {splices : List Splice} {position : Position}
    {source : List Char} {token : Token} {more : List Token}
    (scanned : Scan ⟨.opening delimiter, splices⟩ position source (token :: more)) :
    ∃ start next rest, Stops isSpacing rest ∧
      Scan ⟨.body ⟨delimiter, start, 0⟩, splices⟩ next rest more := by
  generalize isState : (⟨.opening delimiter, splices⟩ : State) = state at scanned
  generalize areTokens : token :: more = tokens at scanned
  induction scanned with
  | finish => cases isState
  | blank _ _ _ ih => exact ih isState areTokens
  | comment => cases isState
  | token => cases isState
  | opener _ stops further =>
      cases isState
      cases areTokens
      exact ⟨_, _, _, stops, further⟩
  | text => cases isState
  | splice => cases isState
  | close => cases isState

/-- The body of the environment that a token announces, up to the token that closes it. -/
theorem Follows.enter {splices : List Splice} {trigger opening : Token} {more : List Token}
    {delimiter : Delimiter}
    (follows : Follows ⟨.code, splices⟩ (trigger :: opening :: more))
    (announces : Delimiter.ofTrigger? trigger.kind = some delimiter) :
    ∃ start position source, Stops isSpacing source ∧
      Scan ⟨.body ⟨delimiter, start, 0⟩, splices⟩ position source more := by
  obtain ⟨position, source, scanned⟩ := follows
  have notEnd : trigger.kind ≠ .finish := by
    intro isEnd
    rw [isEnd] at announces
    cases announces
  obtain ⟨-, next, rest, further⟩ := scanned.code_cons notEnd
  rw [afterToken_announces announces] at further
  exact further.opening_cons

theorem Delimiter.closeKind_ne_rawText (delimiter : Delimiter) :
    delimiter.closeKind ≠ .rawText := by
  cases delimiter <;> decide

theorem Delimiter.closeKind_ne_dollar (delimiter : Delimiter) : delimiter.closeKind ≠ .dollar := by
  cases delimiter <;> decide

/-- The end of an environment leads back to the code around it. -/
theorem Scan.leave {block : RawBlock} {splices : List Splice} {position : Position}
    {source : List Char} {closing : Token} {more : List Token}
    (scanned : Scan ⟨.body block, splices⟩ position source (closing :: more))
    (isClose : closing.kind = block.delimiter.closeKind) :
    block.pending = 0 ∧ Follows ⟨.code, splices⟩ more := by
  cases scanned with
  | blank skips => cases skips
  | text => exact absurd isClose.symm block.delimiter.closeKind_ne_rawText
  | splice => exact absurd isClose.symm block.delimiter.closeKind_ne_dollar
  | close balanced further => exact ⟨balanced, _, _, further⟩

theorem Scan.text_cons {block : RawBlock} {splices : List Splice} {position : Position}
    {source : List Char} {token : Token} {more : List Token}
    (scanned : Scan ⟨.body block, splices⟩ position source (token :: more))
    (isText : token.kind = .rawText) :
    ∃ text rest pending next, source = text ++ rest ∧ text ≠ [] ∧
      token.literal = some (.text (String.ofList text)) ∧
      block.delimiter.level? block.pending text = some pending ∧ ¬['$', '['] <:+: text ∧
      Interrupts block.delimiter pending rest ∧
      Scan ⟨.body { block with pending := pending }, splices⟩ next rest more := by
  cases scanned with
  | blank skips => cases skips
  | text nonempty level noSplice interrupts further =>
      exact ⟨_, _, _, _, rfl, nonempty, rfl, level, noSplice, interrupts, further⟩
  | splice => cases isText
  | close => exact absurd isText block.delimiter.closeKind_ne_rawText

theorem Scan.splice_cons {block : RawBlock} {splices : List Splice} {position : Position}
    {source : List Char} {dollar opening : Token} {more : List Token}
    (scanned : Scan ⟨.body block, splices⟩ position source (dollar :: opening :: more))
    (isDollar : dollar.kind = .dollar) :
    ∃ start, Follows ⟨.code, ⟨block, start, 0⟩ :: splices⟩ more := by
  cases scanned with
  | blank skips => cases skips
  | text => cases isDollar
  | splice further => exact ⟨_, _, _, further⟩
  | close => exact absurd isDollar block.delimiter.closeKind_ne_dollar

/-- The end of a splice leads back to the text that it interrupts. -/
theorem Follows.resume {block : RawBlock} {start : Position} {splices : List Splice}
    {closing : Token} {more : List Token}
    (follows : Follows ⟨.code, ⟨block, start, 0⟩ :: splices⟩ (closing :: more))
    (isClose : closing.kind = .closeBracket) :
    Follows ⟨.body block, splices⟩ more := by
  obtain ⟨position, source, scanned⟩ := follows
  obtain ⟨-, further⟩ := scanned.code_cons (by simp [isClose])
  rwa [isClose] at further

theorem Scan.not_text {block : RawBlock} {splices : List Splice} {position : Position}
    {source : List Char} {token : Token} {more : List Token}
    (scanned : Scan ⟨.body block, splices⟩ position source (token :: more))
    (interrupts : Interrupts block.delimiter block.pending source) : token.kind ≠ .rawText := by
  intro isText
  obtain ⟨text, rest, pending, _, rfl, nonempty, -, level, noSplice, ends, -⟩ :=
    scanned.text_cons isText
  have taken := rawText_complete level noSplice ends
  rw [rawText_interrupted interrupts] at taken
  exact nonempty (Prod.mk.inj taken).1.symm

end StructuredShell.Lexer
