import StructuredShell.Proofs.Lexing.Items
import StructuredShell.Token.Scanner

/-!
# What scanners do to the text ahead

Scanners that take one piece of text come to an end at once, and what they take is what the reading
loop cuts off in one go: a run of a class of characters, the rest of a comment or of a string, the
text of an environment up to where it is interrupted.
-/

set_option autoImplicit false

namespace StructuredShell.Scanner

open Lexer (Delimiter isSpacing pairKind? singleKind? commentLength? rawText)

variable {α β : Type}

/-! ## Outcomes -/

/-- What a scan comes to from a given state of the scanners. -/
def Scan.outcome (scan : Scan α) (scanner : Scanner) : Option (Except Halt (α × Scanner)) :=
  scan scanner

@[simp] theorem outcome_pure (value : α) (scanner : Scanner) :
    Scan.outcome (pure value) scanner = some (.ok (value, scanner)) := rfl

theorem outcome_bind (first : Scan α) (next : α → Scan β) (scanner : Scanner) :
    Scan.outcome (first >>= next) scanner =
      match first.outcome scanner with
      | none => none
      | some (.error halt) => some (.error halt)
      | some (.ok (value, after)) => (next value).outcome after := by
  unfold Scan.outcome
  simp only [bind, StateT.bind, ExceptT.bind, ExceptT.mk]
  cases first scanner with
  | none => rfl
  | some result => cases result <;> rfl

theorem outcome_map (scan : Scan α) (change : α → β) (scanner : Scanner) :
    Scan.outcome (change <$> scan) scanner =
      match scan.outcome scanner with
      | none => none
      | some (.error halt) => some (.error halt)
      | some (.ok (value, after)) => some (.ok (change value, after)) := by
  rw [← bind_pure_comp, outcome_bind]
  rfl

@[simp] theorem outcome_ite (asked : Prop) [Decidable asked] (first other : Scan α)
    (scanner : Scanner) :
    Scan.outcome (if asked then first else other) scanner =
      if asked then first.outcome scanner else other.outcome scanner := by
  split <;> rfl

/-- The state after some characters have been taken. -/
def past (scanner : Scanner) (taken : Nat) : Scanner :=
  ⟨scanner.ahead.drop taken, scanner.position.after (scanner.ahead.take taken), scanner.tokens⟩

def found (scanner : Scanner) (tokens : List Token) : Scanner :=
  { scanner with tokens := scanner.tokens ++ tokens }

@[simp] theorem found_ahead (scanner : Scanner) (tokens : List Token) :
    (scanner.found tokens).ahead = scanner.ahead := rfl

@[simp] theorem found_position (scanner : Scanner) (tokens : List Token) :
    (scanner.found tokens).position = scanner.position := rfl

@[simp] theorem found_nil (scanner : Scanner) : scanner.found [] = scanner := by
  simp [found]

@[simp] theorem past_length (scanner : Scanner) (taken : Nat) :
    (scanner.past taken).ahead.length = scanner.ahead.length - taken := by
  simp [past]

theorem past_zero (scanner : Scanner) : scanner.past 0 = scanner := rfl

theorem past_past (scanner : Scanner) (first second : Nat) :
    (scanner.past first).past second = scanner.past (first + second) := by
  obtain ⟨ahead, position, tokens⟩ := scanner
  simp only [past, List.drop_drop, mk.injEq, and_true, true_and]
  rw [← Position.after_append, List.take_add]

theorem past_found (scanner : Scanner) (tokens : List Token) (taken : Nat) :
    (scanner.found tokens).past taken = (scanner.past taken).found tokens := rfl

theorem found_found (scanner : Scanner) (first second : List Token) :
    (scanner.found first).found second = scanner.found (first ++ second) := by
  simp only [found, List.append_assoc]

@[simp] theorem current_outcome (scanner : Scanner) :
    current.outcome scanner = some (.ok (scanner.ahead.head?, scanner)) := rfl

@[simp] theorem following_outcome (scanner : Scanner) :
    following.outcome scanner = some (.ok (scanner.ahead[1]?, scanner)) := rfl

@[simp] theorem place_outcome (scanner : Scanner) :
    place.outcome scanner = some (.ok (scanner.position, scanner)) := rfl

@[simp] theorem advance_outcome (scanner : Scanner) :
    advance.outcome scanner = some (.ok (scanner.ahead.head?, scanner.past 1)) := by
  obtain ⟨ahead, position, tokens⟩ := scanner
  cases ahead <;> rfl

@[simp] theorem skip_outcome (scanner : Scanner) :
    skip.outcome scanner = some (.ok ((), scanner.past 1)) := by
  simp [skip, outcome_map]

@[simp] theorem refuse_outcome (fault : LexFault) (position : Position) (scanner : Scanner) :
    (refuse fault position : Scan α).outcome scanner =
      some (.error (.refused ⟨fault, position⟩)) := rfl

@[simp] theorem push_outcome (token : Token) (scanner : Scanner) :
    (push (.ok token)).outcome scanner = some (.ok ((), scanner.found [token])) := rfl

@[simp] theorem push_refused (fault : TokenFault) (scanner : Scanner) :
    (push (.error fault)).outcome scanner = some (.error (.malformed fault)) := rfl

@[simp] theorem countDown_outcome (count : Nat) (scanner : Scanner) :
    (countDown (count + 1)).outcome scanner = some (.ok (count, scanner)) := rfl

theorem pushPlain_outcome {kind : Kind} (sign : Lexer.isSign kind = true) (position : Position)
    (scanner : Scanner) :
    (pushPlain kind position).outcome scanner =
      some (.ok ((), scanner.found [⟨kind, none, position⟩])) := by
  obtain ⟨noNumber, noText⟩ : kind.takesNumber = false ∧ kind.takesText = false := by
    simp_all [Lexer.isSign]
  simp [pushPlain, Token.plain, noNumber, noText]

theorem pushText_outcome (kind : Kind) (text : List Char) (position : Position)
    (scanner : Scanner) :
    (pushText kind text position).outcome scanner =
      if kind.takesText then
        some (.ok ((), scanner.found [⟨kind, some (.text (String.ofList text)), position⟩]))
      else some (.error (.malformed (.noTextAllowed kind))) := by
  cases takes : kind.takesText <;> simp [pushText, Token.ofText, takes]

/-! ## Runs of characters -/

theorem takeWhile_outcome (member : Char → Bool) (scanner : Scanner) :
    (takeWhile member).outcome scanner =
      some (.ok (scanner.ahead.takeWhile member,
        scanner.past (scanner.ahead.takeWhile member).length)) := by
  obtain ⟨ahead, position, tokens⟩ := scanner
  induction ahead generalizing position with
  | nil =>
      rw [takeWhile]
      simp [outcome_bind, past_zero]
  | cons c ahead ih =>
      rw [takeWhile]
      by_cases isMember : member c = true
      · simp [outcome_bind, outcome_map, isMember, past, ih]
      · simp [outcome_bind, isMember, past_zero]

def pastBlanks (scanner : Scanner) : Scanner :=
  scanner.past (scanner.ahead.takeWhile isSpacing).length

theorem pastBlanks_found (scanner : Scanner) (tokens : List Token) :
    (scanner.found tokens).pastBlanks = scanner.pastBlanks.found tokens := rfl

theorem pastBlanks_stops (scanner : Scanner) : Lexer.Stops isSpacing scanner.pastBlanks.ahead := by
  obtain ⟨blanks, rest, ahead, -, stops, taken⟩ := Lexer.exists_run isSpacing scanner.ahead
  rw [pastBlanks, taken]
  simpa [past, ahead] using stops

theorem pastBlanks_length (scanner : Scanner) :
    scanner.pastBlanks.ahead.length ≤ scanner.ahead.length := by
  simp [pastBlanks]

@[simp] theorem skipBlanks_outcome (scanner : Scanner) :
    skipBlanks.outcome scanner = some (.ok ((), scanner.pastBlanks)) := by
  simp [skipBlanks, pastBlanks, outcome_map, takeWhile_outcome]

/-! ## Comments and strings -/

theorem commentEnd_outcome (start : Position) (scanner : Scanner) :
    (commentEnd start).outcome scanner =
      match commentLength? scanner.ahead with
      | some length => some (.ok ((), scanner.past length))
      | none => some (.error (.refused ⟨.unterminatedComment, start⟩)) := by
  obtain ⟨ahead, position, tokens⟩ := scanner
  fun_induction commentLength? ahead generalizing position with
  | case1 =>
      rw [commentEnd]
      simp [outcome_bind, commentLength?]
  | case2 rest =>
      rw [commentEnd]
      simp [outcome_bind, past_past, commentLength?]
  | case3 c cs other ih =>
      have goesOn : ¬(c = '*' ∧ cs[0]? = some '/') := by
        rintro ⟨rfl, isSlash⟩
        cases cs with
        | nil => cases isSlash
        | cons d cs =>
            obtain rfl : d = '/' := by simpa using isSlash
            exact other cs rfl rfl
      rw [commentEnd, commentLength?.eq_3 _ _ other]
      simp only [outcome_bind, current_outcome, following_outcome, List.head?_cons]
      cases length : commentLength? cs <;> simp [outcome_bind, goesOn, ih, past, length]

theorem stringEnd_outcome (start : Position) (scanner : Scanner) :
    (stringEnd start).outcome scanner =
      if (scanner.ahead.takeWhile (· != '"')).length < scanner.ahead.length then
        some (.ok (scanner.ahead.takeWhile (· != '"'),
          scanner.past ((scanner.ahead.takeWhile (· != '"')).length + 1)))
      else some (.error (.refused ⟨.unterminatedString, start⟩)) := by
  obtain ⟨ahead, position, tokens⟩ := scanner
  induction ahead generalizing position with
  | nil =>
      rw [stringEnd]
      simp [outcome_bind]
  | cons c ahead ih =>
      rw [stringEnd]
      by_cases quote : c = '"'
      · simp [outcome_bind, quote]
      · by_cases closed : (ahead.takeWhile (· != '"')).length < ahead.length <;>
          simp [outcome_bind, outcome_map, quote, past, ih, closed]

/-! ## Items -/

/-- What a scan of an item comes to, given what stands at the head of the text. A trigger is
followed by its environment. -/
def itemOutcome (scanner : Scanner) : Except LexFault Lexer.Item →
    Option (Except Halt (Option Kind × Scanner))
  | .error fault => some (.error (.refused ⟨fault, scanner.position⟩))
  | .ok ⟨none, further⟩ => some (.ok (none, scanner.past (further + 1)))
  | .ok ⟨some (kind, literal), further⟩ =>
    let after := (scanner.past (further + 1)).found [⟨kind, literal, scanner.position⟩]
    match Delimiter.ofTrigger? kind with
    | none => some (.ok (some kind, after))
    | some delimiter => ((fun _ => some kind) <$> environment delimiter).outcome after

theorem string_outcome {cs : List Char} {scanner : Scanner} (ahead : scanner.ahead = '"' :: cs) :
    (some <$> string scanner.position).outcome scanner =
      itemOutcome scanner (Lexer.stringItem cs) := by
  have rest : (scanner.past 1).ahead = cs := by simp [past, ahead]
  by_cases closed : (cs.takeWhile (· != '"')).length < cs.length
  · simp [string, outcome_bind, outcome_map, stringEnd_outcome, rest, closed, pushText_outcome,
      Kind.takesText, Lexer.stringItem, itemOutcome, Delimiter.ofTrigger?, past_past,
      Nat.add_comm 1]
  · simp [string, outcome_bind, stringEnd_outcome, rest, closed, Lexer.stringItem, itemOutcome]

theorem number_outcome {c : Char} {cs : List Char} {scanner : Scanner}
    (ahead : scanner.ahead = c :: cs) (isDigit : Text.isDigit c = true) :
    (some <$> number scanner.position).outcome scanner =
      itemOutcome scanner (Lexer.numberItem c cs) := by
  have digits : scanner.ahead.takeWhile Text.isDigit = c :: cs.takeWhile Text.isDigit := by
    simp [ahead, isDigit]
  by_cases small : Lexer.digitsValue (c :: cs.takeWhile Text.isDigit) ≤ Lexer.largestNumber <;>
    simp [number, outcome_bind, outcome_map, takeWhile_outcome, digits, small, Lexer.numberItem,
      itemOutcome, Delimiter.ofTrigger?, Token.ofNumber]

theorem keyword_announces {word : String} {kind : Kind}
    (keyword : Kind.ofKeyword? word = some kind) :
    kind = .rawWord ∨ Delimiter.ofTrigger? kind = none := by
  obtain ⟨before, after, listed, -⟩ := List.lookup_eq_some_iff.mp keyword
  have isEntry : (word, kind) ∈ Kind.keywords := by simp [listed]
  have every : ∀ entry ∈ Kind.keywords,
      entry.2 = .rawWord ∨ Delimiter.ofTrigger? entry.2 = none := by
    decide
  exact every _ isEntry

theorem word_outcome {c : Char} {cs : List Char} {scanner : Scanner}
    (ahead : scanner.ahead = c :: cs) (starts : Text.startsWord c = true) :
    (some <$> word scanner.position).outcome scanner =
      itemOutcome scanner (.ok (Lexer.wordItem c cs)) := by
  have continues : Text.continuesWord c = true := by simp [Text.continuesWord, starts]
  have taken : scanner.ahead.takeWhile Text.continuesWord =
      c :: cs.takeWhile Text.continuesWord := by simp [ahead, continues]
  rw [word]
  simp only [outcome_map, outcome_bind, takeWhile_outcome, taken, List.length_cons,
    Lexer.wordItem]
  cases keyword : Kind.ofKeyword? (String.ofList (c :: cs.takeWhile Text.continuesWord)) with
  | none =>
      simp [outcome_map, pushText_outcome, Kind.takesText, itemOutcome, Delimiter.ofTrigger?]
  | some kind =>
      have plain := pushPlain_outcome (Lexer.ofKeyword?_eq_some keyword).1
      rcases keyword_announces keyword with rfl | announces
      · simp only [outcome_bind, plain, itemOutcome, Lexer.Item.sign, Delimiter.ofTrigger?,
          bind_pure_comp, outcome_map]
        rcases (environment .braces).outcome _ with _ | _ | _ <;> rfl
      · have other : kind ≠ .rawWord := by
          rintro rfl
          cases announces
        simp [outcome_map, plain, itemOutcome, Lexer.Item.sign, announces]

theorem pairKind?_announces {c d : Char} {kind : Kind} (paired : pairKind? c d = some kind) :
    Delimiter.ofTrigger? kind = none := by
  unfold pairKind? at paired
  split at paired <;> cases paired <;> rfl

theorem singleKind?_announces {c : Char} {kind : Kind} (single : singleKind? c = some kind) :
    Delimiter.ofTrigger? kind = none := by
  unfold singleKind? at single
  split at single <;> cases single <;> rfl

theorem token_outcome {c : Char} {cs : List Char} {scanner : Scanner}
    (ahead : scanner.ahead = c :: cs) :
    (some <$> token scanner.position c cs.head?).outcome scanner =
      itemOutcome scanner (Lexer.tokenItem c cs) := by
  rw [token, Lexer.tokenItem]
  cases paired : cs.head?.bind (pairKind? c) with
  | some kind =>
      obtain ⟨d, -, pair⟩ := Option.bind_eq_some_iff.mp paired
      simp [outcome_bind, outcome_map, pushPlain_outcome (Lexer.pairKind?_spells pair).1,
        itemOutcome, Lexer.Item.sign, pairKind?_announces pair, past_past]
  | none =>
      cases single : singleKind? c with
      | some kind =>
          simp [outcome_bind, outcome_map, pushPlain_outcome (Lexer.singleKind?_spells single).1,
            itemOutcome, Lexer.Item.sign, singleKind?_announces single]
      | none =>
          dsimp only
          split
          · have plain := pushPlain_outcome (show Lexer.isSign .dollar = true from rfl)
            simp [outcome_bind, outcome_map, plain, itemOutcome, Lexer.Item.sign,
              Delimiter.ofTrigger?]
          split
          · rename_i isQuote
            exact string_outcome (isQuote ▸ ahead)
          split
          · rename_i isDigit
            exact number_outcome ahead isDigit
          split
          · rename_i starts
            exact word_outcome ahead starts
          · simp [outcome_map, itemOutcome]

theorem item_of_no_comment {c : Char} {cs : List Char} (solid : isSpacing c = false)
    (noLine : ¬(c = '/' ∧ cs.head? = some '/')) (noBlock : ¬(c = '/' ∧ cs.head? = some '*')) :
    Lexer.item c cs = Lexer.tokenItem c cs := by
  unfold Lexer.item
  rw [if_neg (by simp [solid])]
  split
  · exact absurd ⟨rfl, rfl⟩ noLine
  · exact absurd ⟨rfl, rfl⟩ noBlock
  · rfl

theorem second_of_ahead {c : Char} {cs : List Char} {scanner : Scanner}
    (ahead : scanner.ahead = c :: cs) : scanner.ahead[1]? = cs.head? := by
  rw [ahead, List.getElem?_cons_succ, List.head?_eq_getElem?]

theorem item_outcome_token {c : Char} {cs : List Char} {scanner : Scanner}
    (ahead : scanner.ahead = c :: cs) (noLine : ¬(c = '/' ∧ cs.head? = some '/'))
    (noBlock : ¬(c = '/' ∧ cs.head? = some '*')) :
    item.outcome scanner = itemOutcome scanner (Lexer.tokenItem c cs) := by
  rw [item]
  simp only [outcome_bind, place_outcome, following_outcome, current_outcome,
    second_of_ahead ahead]
  rw [ahead, List.head?_cons]
  simp [noLine, noBlock, token_outcome ahead]

theorem item_outcome {c : Char} {cs : List Char} {scanner : Scanner}
    (ahead : scanner.ahead = c :: cs) (solid : isSpacing c = false) :
    item.outcome scanner = itemOutcome scanner (Lexer.item c cs) := by
  by_cases noLine : c = '/' ∧ cs.head? = some '/'
  · obtain ⟨rfl, isSlash⟩ := noLine
    obtain ⟨body, rfl⟩ := List.head?_eq_some_iff.mp isSlash
    rw [item]
    simp [outcome_bind, outcome_map, takeWhile_outcome, ahead, Lexer.item, isSpacing, itemOutcome,
      Lexer.Item.gap]
  by_cases noBlock : c = '/' ∧ cs.head? = some '*'
  · obtain ⟨rfl, isStar⟩ := noBlock
    obtain ⟨body, rfl⟩ := List.head?_eq_some_iff.mp isStar
    have rest : (scanner.past 2).ahead = body := by simp [past, ahead]
    rw [item]
    cases length : commentLength? body <;>
      simp [outcome_bind, outcome_map, commentEnd_outcome, ahead, Lexer.item, isSpacing,
        itemOutcome, Lexer.Item.gap, past_past, rest, length, Nat.add_comm 2]
  · rw [item_of_no_comment solid noLine noBlock, item_outcome_token ahead noLine noBlock]

/-! ## Texts of environments -/

/-- The token of a text that has been captured, if there is any. -/
def captured (text : List Char) (start : Position) : List Token :=
  if text.isEmpty then [] else [⟨.rawText, some (.text (String.ofList text)), start⟩]

theorem flush_outcome (text : List Char) (start : Position) (scanner : Scanner) :
    (flush text start).outcome scanner = some (.ok ((), scanner.found (captured text start))) := by
  cases text <;> simp [flush, captured, pushText_outcome, Kind.takesText, found]

/-- The body of an environment is scanned character by character up to where its text is
interrupted. -/
theorem body_outcome_text (delimiter : Delimiter) (start textStart : Position) (pending : Nat)
    (text : List Char) (scanner : Scanner) :
    (body delimiter start (pending + 1) text textStart).outcome scanner =
      (body delimiter start ((rawText delimiter pending scanner.ahead).2 + 1)
        (text ++ (rawText delimiter pending scanner.ahead).1) textStart).outcome
          (scanner.past (rawText delimiter pending scanner.ahead).1.length) := by
  obtain ⟨ahead, position, tokens⟩ := scanner
  dsimp only
  fun_induction rawText delimiter pending ahead generalizing position text with
  | case1 | case3 | case5 => simp [past_zero]
  | case2 pending cs tail ih =>
      rw [body]
      simp [outcome_bind, past, ih, tail]
  | case4 cs pending tail other ih =>
      rw [body]
      simp [outcome_bind, past, ih, tail, other]
  | case6 pending c cs noOpener noCloser noSplice tail ih =>
      have goesOn : ¬(c = '$' ∧ cs[0]? = some '[') := by
        simpa [List.head?_eq_getElem?] using noSplice
      rw [body]
      simp [outcome_bind, past, ih, tail, noOpener, noCloser, goesOn]

/-! ## Environments and splices -/

theorem isSign_openKind (delimiter : Delimiter) : Lexer.isSign delimiter.openKind = true := by
  cases delimiter <;> rfl

theorem isSign_closeKind (delimiter : Delimiter) : Lexer.isSign delimiter.closeKind = true := by
  cases delimiter <;> rfl

/-- Where the body of an environment starts whose opening delimiter is the current character. -/
def entered (delimiter : Delimiter) (scanner : Scanner) : Scanner :=
  ((scanner.past 1).found [⟨delimiter.openKind, none, scanner.position⟩]).pastBlanks

theorem entered_taken {scanner : Scanner} {c : Char} {cs : List Char}
    (ahead : scanner.ahead = c :: cs) (delimiter : Delimiter) :
    ∃ taken, 0 < taken ∧ taken ≤ scanner.ahead.length ∧
      entered delimiter scanner =
        (scanner.past taken).found [⟨delimiter.openKind, none, scanner.position⟩] := by
  refine ⟨1 + (cs.takeWhile isSpacing).length, by omega, ?_, ?_⟩
  · have within := (List.takeWhile_prefix isSpacing : _ <+: cs).length_le
    rw [ahead, List.length_cons]
    omega
  · have rest : (scanner.past 1).ahead = cs := by simp [past, ahead]
    rw [entered, pastBlanks_found, pastBlanks, rest, past_past]

theorem environment_outcome (delimiter : Delimiter) (scanner : Scanner) :
    (environment delimiter).outcome scanner =
      match scanner.pastBlanks.ahead with
      | [] => some (.error (.refused ⟨.unterminatedRawBlock, scanner.pastBlanks.position⟩))
      | c :: _ =>
        if c = delimiter.opener then
          (body delimiter scanner.pastBlanks.position 1 []
            (entered delimiter scanner.pastBlanks).position).outcome
              (entered delimiter scanner.pastBlanks)
        else some (.error (.refused ⟨.unexpectedCharacter c, scanner.pastBlanks.position⟩)) := by
  rw [environment]
  simp only [outcome_bind, skipBlanks_outcome, place_outcome, current_outcome]
  cases scanner.pastBlanks.ahead with
  | nil => rfl
  | cons c cs =>
      simp [outcome_bind, pushPlain_outcome (isSign_openKind delimiter), entered]

theorem body_outcome_end {scanner : Scanner} (ahead : scanner.ahead = []) (delimiter : Delimiter)
    (start textStart : Position) (level : Nat) (text : List Char) :
    (body delimiter start level text textStart).outcome scanner =
      some (.error (.refused ⟨.unterminatedRawBlock, start⟩)) := by
  rw [body]
  simp [outcome_bind, ahead]

theorem body_outcome_close {delimiter : Delimiter} {scanner : Scanner} {cs : List Char}
    (ahead : scanner.ahead = delimiter.closer :: cs) (start textStart : Position)
    (text : List Char) :
    (body delimiter start 1 text textStart).outcome scanner =
      some (.ok ((), (scanner.past 1).found
        (captured text textStart ++ [⟨delimiter.closeKind, none, scanner.position⟩]))) := by
  have closes := pushPlain_outcome (isSign_closeKind delimiter)
  rw [body]
  simp [outcome_bind, ahead, delimiter.closer_ne_opener, flush_outcome, closes, past_found,
    found_found]

theorem spliceEnd_outcome_zero (start : Position) (scanner : Scanner) :
    (spliceEnd start 0).outcome scanner = some (.ok ((), scanner)) := by
  rw [spliceEnd]
  simp

/-- What is scanned from a splice on, in the body of an environment. -/
def spliced (delimiter : Delimiter) (start spliceStart : Position) (level : Nat) : Scan Unit := do
  spliceEnd spliceStart 1
  let textStart ← place
  body delimiter start level [] textStart

theorem splice_outcome {scanner : Scanner} {cs : List Char}
    (ahead : scanner.ahead = '$' :: '[' :: cs) :
    splice.outcome scanner =
      (spliceEnd scanner.position 1).outcome ((scanner.past 2).found
        [⟨.dollar, none, scanner.position⟩,
          ⟨.openBracket, none, scanner.position.advance '$'⟩]) := by
  have dollar := pushPlain_outcome (show Lexer.isSign .dollar = true from rfl)
  have bracket := pushPlain_outcome (show Lexer.isSign .openBracket = true from rfl)
  have column : (scanner.past 1).position = scanner.position.advance '$' := by simp [past, ahead]
  have onLine : (⟨scanner.position.line, (scanner.position.advance '$').column⟩ : Position) =
      scanner.position.advance '$' := by simp [Position.advance]
  rw [splice]
  simp [outcome_bind, dollar, bracket, past_found, found_found, past_past, column, onLine]

theorem body_outcome_splice {scanner : Scanner} {cs : List Char}
    (ahead : scanner.ahead = '$' :: '[' :: cs) (delimiter : Delimiter)
    (start textStart : Position) (level : Nat) (text : List Char) :
    (body delimiter start level text textStart).outcome scanner =
      (spliced delimiter start scanner.position level).outcome ((scanner.past 2).found
        (captured text textStart ++ [⟨.dollar, none, scanner.position⟩,
          ⟨.openBracket, none, scanner.position.advance '$'⟩])) := by
  obtain ⟨noOpener, noCloser⟩ : '$' ≠ delimiter.opener ∧ '$' ≠ delimiter.closer := by
    cases delimiter <;> decide
  have announced : (scanner.found (captured text textStart)).ahead = '$' :: '[' :: cs := ahead
  rw [body, spliced]
  simp [outcome_bind, ahead, noOpener, noCloser, flush_outcome, splice_outcome announced,
    past_found, found_found]

end StructuredShell.Scanner
