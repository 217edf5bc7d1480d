import StructuredShell.Proofs.Lexing.Scan
import StructuredShell.Proofs.Scanning.Steps

/-!
# Scanners and the reading loop agree

Scanners that call each other keep the open environments and splices in their calls, where the loop
keeps them in a list. Wherever a scanner starts, it comes to an end: with the error in which the
loop ends from there on, or with the tokens that the loop finds before it is in the state that the
end of the call stands for. The proof is by induction on the text ahead, since a call for the rest
of an environment or of a splice is made only after a character of it has been taken.
-/

set_option autoImplicit false

namespace StructuredShell.Scanner

open Lexer (Delimiter RawBlock Splice isSpacing rawText tokensFrom)

variable {α β : Type}

/-! ## The loop from where scanners are -/

/-- What the loop reads from a state on, where scanners are. -/
def loop (state : Lexer.State) (scanner : Scanner) : Except LexError (List Token) :=
  tokensFrom state scanner.position scanner.ahead

@[simp] theorem loop_found (state : Lexer.State) (scanner : Scanner) (tokens : List Token) :
    loop state (scanner.found tokens) = loop state scanner := rfl

theorem loop_step {state : Lexer.State} {scanner : Scanner} {c : Char} {cs : List Char}
    (ahead : scanner.ahead = c :: cs) :
    loop state scanner =
      match Lexer.step state scanner.position c cs with
      | .error error => .error error
      | .ok taken =>
        (loop taken.next (scanner.past (taken.further + 1))).map (taken.tokens ++ ·) := by
  rw [loop, ahead, tokensFrom]
  cases Lexer.step state scanner.position c cs with
  | error error => rfl
  | ok taken =>
      simp only [loop, past, ahead, List.drop_succ_cons, List.take_succ_cons]
      split <;> simp_all [Except.map]

theorem loop_end {state : Lexer.State} {scanner : Scanner} (ahead : scanner.ahead = []) :
    loop state scanner = Lexer.atEnd state scanner.position := by
  rw [loop, ahead, tokensFrom]

theorem map_nil_append (outcome : Except LexError (List Token)) :
    outcome.map ([] ++ ·) = outcome :=
  congrFun Except.map_id outcome

/-! ## Agreement -/

/-- What a scan comes to agrees with the loop, which starts in one state where the scan does and is
in another where the scan ends. At least so many characters are taken. -/
inductive Agrees (scanner : Scanner) (least : Nat) (before : Lexer.State)
    (after : α → Lexer.State) : Option (Except Halt (α × Scanner)) → Prop where
  | refuses {error : LexError} :
      loop before scanner = .error error →
      Agrees scanner least before after (some (.error (.refused error)))
  | reads {value : α} {reached : Scanner} (taken : Nat) (tokens : List Token) :
      reached = (scanner.past taken).found tokens →
      least ≤ taken → taken ≤ scanner.ahead.length →
      loop before scanner = (loop (after value) reached).map (tokens ++ ·) →
      Agrees scanner least before after (some (.ok (value, reached)))

namespace Agrees

variable {scanner reached : Scanner} {least : Nat} {before between : Lexer.State}
  {outcome : Option (Except Halt (α × Scanner))}

theorem loosen {after : α → Lexer.State} (agrees : Agrees scanner least before after outcome) :
    Agrees scanner 0 before after outcome := by
  cases agrees with
  | refuses refused => exact .refuses refused
  | reads taken tokens isReached _ within read =>
      exact .reads taken tokens isReached (Nat.zero_le taken) within read

/-- What is scanned behind a piece of text is read by the loop behind the tokens of the piece. -/
theorem behind {after : α → Lexer.State} (agrees : Agrees reached 0 between after outcome)
    (taken : Nat) (tokens : List Token) (isReached : reached = (scanner.past taken).found tokens)
    (enough : least ≤ taken) (within : taken ≤ scanner.ahead.length)
    (read : loop before scanner = (loop between reached).map (tokens ++ ·)) :
    Agrees scanner least before after outcome := by
  subst isReached
  cases agrees with
  | refuses refused =>
      refine .refuses ?_
      rw [read, refused]
      rfl
  | @reads value last more found isLast _ withinMore readMore =>
      subst isLast
      refine .reads (taken + more) (tokens ++ found) ?_ (by omega) ?_ ?_
      · rw [past_found, past_past, found_found]
      · simp only [found_ahead, past_length] at withinMore
        omega
      · rw [read, readMore, Lexer.map_append_map]

theorem bind {first : Scan α} {next : α → Scan β} {between : α → Lexer.State}
    {after : β → Lexer.State} (agrees : Agrees scanner least before between (first.outcome scanner))
    (rest : ∀ value reached, reached.ahead.length + least ≤ scanner.ahead.length →
      Agrees reached 0 (between value) after ((next value).outcome reached)) :
    Agrees scanner least before after (Scan.outcome (first >>= next) scanner) := by
  rw [outcome_bind]
  generalize first.outcome scanner = outcome at agrees
  cases agrees with
  | refuses refused => exact .refuses refused
  | @reads value reached taken tokens isReached enough within read =>
      have shorter : reached.ahead.length + least ≤ scanner.ahead.length := by
        simp only [isReached, found_ahead, past_length]
        omega
      exact (rest value reached shorter).behind taken tokens isReached enough within read

theorem stays {value : α} {after : α → Lexer.State} (same : before = after value) :
    Agrees scanner 0 before after (some (.ok (value, scanner))) := by
  refine .reads 0 [] (by simp [past_zero]) (Nat.le_refl 0) (Nat.zero_le _) ?_
  rw [same, map_nil_append]

theorem map {scan : Scan α} {change : α → β} {between : α → Lexer.State}
    {after : β → Lexer.State} (agrees : Agrees scanner least before between (scan.outcome scanner))
    (same : ∀ value, between value = after (change value)) :
    Agrees scanner least before after (Scan.outcome (change <$> scan) scanner) := by
  rw [← bind_pure_comp]
  exact agrees.bind fun value reached _ => .stays (same value)

end Agrees

/-! ## Blanks -/

theorem loop_pastBlanks {state : Lexer.State} (skips : state.phase.skipsBlanks = true)
    (scanner : Scanner) : loop state scanner = loop state scanner.pastBlanks := by
  obtain ⟨blanks, rest, ahead, areBlank, stops, taken⟩ := Lexer.exists_run isSpacing scanner.ahead
  rw [pastBlanks, taken]
  simp only [loop, past, ahead, List.drop_left, List.take_left]
  exact Lexer.tokensFrom_blanks skips areBlank stops scanner.position

theorem Agrees.afterBlanks {scanner : Scanner} {state : Lexer.State} {after : α → Lexer.State}
    {outcome : Option (Except Halt (α × Scanner))} (skips : state.phase.skipsBlanks = true)
    (agrees : Agrees scanner.pastBlanks 0 state after outcome) :
    Agrees scanner 0 state after outcome := by
  have read := loop_pastBlanks skips scanner
  rw [← map_nil_append (loop state scanner.pastBlanks)] at read
  have within := (List.takeWhile_prefix isSpacing : _ <+: scanner.ahead).length_le
  exact agrees.behind _ [] (by simp [pastBlanks]) (Nat.zero_le _) within read

/-! ## Items, environments and splices -/

/-- The state of the loop behind an item of code, with the environment that it announces. -/
def behindItem (splices : List Splice) : Option Kind → Lexer.State
  | none => ⟨.code, splices⟩
  | some kind =>
    match Delimiter.ofTrigger? kind with
    | some _ => ⟨.code, splices⟩
    | none => Lexer.State.afterToken splices kind

theorem behindItem_other {kind : Option Kind} (notOpen : kind ≠ some .openBracket)
    (notClose : kind ≠ some .closeBracket) (splices : List Splice) :
    behindItem splices kind = ⟨.code, splices⟩ := by
  cases kind with
  | none => rfl
  | some kind => cases kind <;> first | rfl | contradiction

theorem behindItem_outside (kind : Option Kind) : behindItem [] kind = .initial := by
  cases kind with
  | none => rfl
  | some kind => cases kind <;> rfl

theorem item_within {scanner : Scanner} {c : Char} {cs : List Char}
    (ahead : scanner.ahead = c :: cs) {found : Lexer.Item} (read : Lexer.item c cs = .ok found) :
    found.further + 1 ≤ scanner.ahead.length := by
  obtain ⟨tail, rest, rfl, taken, -⟩ := Lexer.item_heads read
  simp [ahead, ← taken]

theorem loop_code {scanner : Scanner} {c : Char} {cs : List Char}
    (ahead : scanner.ahead = c :: cs) (splices : List Splice) :
    loop ⟨.code, splices⟩ scanner =
      match Lexer.item c cs with
      | .error fault => .error ⟨fault, scanner.position⟩
      | .ok ⟨none, further⟩ => loop ⟨.code, splices⟩ (scanner.past (further + 1))
      | .ok ⟨some (kind, literal), further⟩ =>
        (loop (Lexer.State.afterToken splices kind) (scanner.past (further + 1))).map
          ([⟨kind, literal, scanner.position⟩] ++ ·) := by
  rw [loop_step ahead]
  simp only [Lexer.step, Lexer.codeStep]
  cases Lexer.item c cs with
  | error fault => rfl
  | ok found =>
      obtain ⟨_ | ⟨kind, literal⟩, further⟩ := found
      · exact congrFun Except.map_id _
      · rfl

theorem loop_opener {delimiter : Delimiter} {scanner : Scanner} {cs : List Char}
    (ahead : scanner.ahead = delimiter.opener :: cs) (splices : List Splice) :
    loop ⟨.opening delimiter, splices⟩ scanner =
      (loop ⟨.body ⟨delimiter, scanner.position, 0⟩, splices⟩ (entered delimiter scanner)).map
        ([⟨delimiter.openKind, none, scanner.position⟩] ++ ·) := by
  obtain ⟨blanks, rest, rfl, areBlank, stops, taken⟩ := Lexer.exists_run isSpacing cs
  have reached : (scanner.past 1).pastBlanks = scanner.past (blanks.length + 1) := by
    rw [pastBlanks, past_past, Nat.add_comm 1]
    simp [past, ahead, taken]
  rw [entered, pastBlanks_found, loop_found, reached]
  simp only [loop, past, ahead, List.drop_succ_cons, List.take_succ_cons, List.drop_left,
    List.take_left]
  exact Lexer.tokensFrom_opener areBlank stops scanner.position

theorem loop_close {delimiter : Delimiter} {scanner : Scanner} {cs : List Char}
    (ahead : scanner.ahead = delimiter.closer :: cs) (start : Position) (splices : List Splice) :
    loop ⟨.body ⟨delimiter, start, 0⟩, splices⟩ scanner =
      (loop ⟨.code, splices⟩ (scanner.past 1)).map
        ([⟨delimiter.closeKind, none, scanner.position⟩] ++ ·) := by
  let block : RawBlock := ⟨delimiter, start, 0⟩
  have balanced : block.pending = 0 := rfl
  simpa [loop, past, ahead] using
    Lexer.tokensFrom_close balanced splices scanner.position cs

theorem loop_splice {scanner : Scanner} {cs : List Char} (ahead : scanner.ahead = '$' :: '[' :: cs)
    (block : RawBlock) (splices : List Splice) :
    loop ⟨.body block, splices⟩ scanner =
      (loop ⟨.code, ⟨block, scanner.position, 0⟩ :: splices⟩ (scanner.past 2)).map
        ([⟨.dollar, none, scanner.position⟩,
          ⟨.openBracket, none, scanner.position.advance '$'⟩] ++ ·) := by
  simpa [loop, past, ahead] using
    Lexer.tokensFrom_splice block splices scanner.position cs

/-- The loop reads a body on from the end of the text at its head. -/
theorem loop_text {block : RawBlock} {scanner : Scanner} {text : List Char} {left : Nat}
    (taken : rawText block.delimiter block.pending scanner.ahead = (text, left))
    (splices : List Splice) :
    loop ⟨.body block, splices⟩ scanner =
      (loop ⟨.body { block with pending := left }, splices⟩ (scanner.past text.length)).map
        (captured text scanner.position ++ ·) := by
  obtain ⟨rest, ahead, level, -⟩ := Lexer.rawText_sound taken
  cases text with
  | nil =>
      cases level
      exact (map_nil_append _).symm
  | cons c text =>
      rw [List.cons_append] at ahead
      rw [ahead] at taken
      rw [loop_step ahead]
      simp [Lexer.step, Lexer.bodyStep, taken, captured]

mutual

theorem item_agrees {scanner : Scanner} {c : Char} {cs : List Char}
    (ahead : scanner.ahead = c :: cs) (solid : isSpacing c = false) (splices : List Splice) :
    Agrees scanner 1 ⟨.code, splices⟩ (behindItem splices) (item.outcome scanner) := by
  have code := loop_code ahead splices
  have within := @item_within scanner c cs ahead
  rw [item_outcome ahead solid]
  cases read : Lexer.item c cs with
  | error fault =>
      rw [read] at code
      exact .refuses code
  | ok found =>
      specialize within read
      rw [read] at code
      obtain ⟨_ | ⟨kind, literal⟩, further⟩ := found
      · refine .reads (further + 1) [] (found_nil _).symm (Nat.le_add_left 1 further) within ?_
        rw [code, map_nil_append]
        rfl
      · simp only [itemOutcome]
        dsimp only at code
        cases announces : Delimiter.ofTrigger? kind with
        | none =>
            refine .reads (further + 1) _ rfl (Nat.le_add_left 1 further) within ?_
            simp only [behindItem, announces]
            exact code
        | some delimiter =>
            have shorter : (scanner.past (further + 1)).ahead.length < scanner.ahead.length := by
              rw [past_length]
              omega
            rw [Lexer.afterToken_announces announces] at code
            have isCode : behindItem splices (some kind) = ⟨.code, splices⟩ := by
              simp [behindItem, announces]
            have agrees := environment_agrees delimiter splices
              ((scanner.past (further + 1)).found [⟨kind, literal, scanner.position⟩])
            exact (agrees.map fun _ => isCode.symm).behind (further + 1) _ rfl
              (Nat.le_add_left 1 further) within code
termination_by 2 * scanner.ahead.length

theorem environment_agrees (delimiter : Delimiter) (splices : List Splice) (scanner : Scanner) :
    Agrees scanner 0 ⟨.opening delimiter, splices⟩ (fun _ => ⟨.code, splices⟩)
      ((environment delimiter).outcome scanner) := by
  have stops := scanner.pastBlanks_stops
  have fewer := scanner.pastBlanks_length
  rw [environment_outcome]
  refine .afterBlanks rfl ?_
  generalize scanner.pastBlanks = solid at stops fewer
  cases ahead : solid.ahead with
  | nil => exact .refuses (loop_end ahead)
  | cons c cs =>
      by_cases isOpener : c = delimiter.opener
      · subst isOpener
        obtain ⟨taken, positive, within, isEntered⟩ := entered_taken ahead delimiter
        have shorter : (entered delimiter solid).ahead.length < scanner.ahead.length := by
          rw [isEntered, found_ahead, past_length]
          omega
        have agrees := body_agrees ⟨delimiter, solid.position, 0⟩ splices (entered delimiter solid)
        dsimp only
        rw [if_pos rfl]
        exact agrees.behind taken _ isEntered (Nat.zero_le _) within (loop_opener ahead splices)
      · dsimp only
        rw [if_neg isOpener]
        refine .refuses ?_
        rw [loop_step ahead]
        rw [ahead] at stops
        simp [Lexer.step, Lexer.openingStep, stops c rfl, isOpener]
termination_by 2 * scanner.ahead.length

theorem body_agrees (block : RawBlock) (splices : List Splice) (scanner : Scanner) :
    Agrees scanner 0 ⟨.body block, splices⟩ (fun _ => ⟨.code, splices⟩)
      ((body block.delimiter block.start (block.pending + 1) [] scanner.position).outcome
        scanner) := by
  cases taken : rawText block.delimiter block.pending scanner.ahead with
  | mk text left =>
  have read := loop_text taken splices
  obtain ⟨rest, ahead, -, -, interrupts⟩ := Lexer.rawText_sound taken
  have aheadOf : (scanner.past text.length).ahead = rest := by simp [past, ahead]
  rw [body_outcome_text, taken]
  dsimp only
  rcases interrupts with rfl | ⟨rfl, closes⟩ | splice
  · rw [body_outcome_end aheadOf]
    refine .refuses ?_
    rw [read, loop_end aheadOf]
    rfl
  · obtain ⟨cs, rfl⟩ := closes
    rw [List.singleton_append] at aheadOf
    rw [body_outcome_close aheadOf]
    rw [loop_close aheadOf, Lexer.map_append_map] at read
    refine .reads (text.length + 1) _ ?_ (Nat.zero_le _) ?_ read
    · rw [past_past]
      rfl
    · simp [ahead]
  · obtain ⟨cs, rfl⟩ := splice
    rw [List.cons_append, List.singleton_append] at aheadOf
    rw [body_outcome_splice aheadOf, past_past]
    rw [loop_splice aheadOf, Lexer.map_append_map, past_past] at read
    have within : text.length + 2 ≤ scanner.ahead.length := by simp [ahead]
    have shorter : (scanner.past (text.length + 2)).ahead.length < scanner.ahead.length := by
      rw [past_length]
      omega
    have agrees := spliced_agrees { block with pending := left } splices
      (scanner.past text.length).position ((scanner.past (text.length + 2)).found
        (captured text scanner.position ++ [⟨.dollar, none, (scanner.past text.length).position⟩,
          ⟨.openBracket, none, (scanner.past text.length).position.advance '$'⟩]))
    exact agrees.behind (text.length + 2) _ rfl (Nat.zero_le _) within read
termination_by 2 * scanner.ahead.length

theorem spliced_agrees (block : RawBlock) (splices : List Splice) (start : Position)
    (scanner : Scanner) :
    Agrees scanner 0 ⟨.code, ⟨block, start, 0⟩ :: splices⟩ (fun _ => ⟨.code, splices⟩)
      ((spliced block.delimiter block.start start (block.pending + 1)).outcome scanner) := by
  rw [spliced]
  exact (spliceEnd_agrees ⟨block, start, 0⟩ splices scanner).bind fun _ reached less =>
    body_agrees block splices reached
termination_by 2 * scanner.ahead.length + 2

theorem spliceEnd_agrees (splice : Splice) (outer : List Splice) (scanner : Scanner) :
    Agrees scanner 0 ⟨.code, splice :: outer⟩ (fun _ => ⟨.body splice.host, outer⟩)
      ((spliceEnd splice.start (splice.pending + 1)).outcome scanner) := by
  have stops := scanner.pastBlanks_stops
  have fewer := scanner.pastBlanks_length
  rw [spliceEnd, if_neg (Nat.succ_ne_zero _)]
  rw [outcome_bind, skipBlanks_outcome]
  refine .afterBlanks rfl ?_
  dsimp only
  rw [outcome_bind, current_outcome]
  cases ahead : scanner.pastBlanks.ahead with
  | nil => exact .refuses (loop_end ahead)
  | cons c cs =>
      rw [ahead] at stops
      refine Agrees.loosen <| (item_agrees ahead (stops c rfl) (splice :: outer)).bind
        fun kind reached shorter => ?_
      have less : reached.ahead.length < scanner.ahead.length := by omega
      split
      · exact spliceEnd_agrees { splice with pending := splice.pending + 1 } outer reached
      · rw [outcome_bind, countDown_outcome]
        obtain ⟨host, start, _ | pending⟩ := splice
        · dsimp only
          rw [spliceEnd_outcome_zero]
          exact .stays rfl
        · exact spliceEnd_agrees ⟨host, start, pending⟩ outer reached
      · rename_i notOpen notClose
        rw [behindItem_other notOpen notClose]
        exact spliceEnd_agrees splice outer reached
termination_by 2 * scanner.ahead.length + 1

end

/-! ## Whole texts -/

theorem run_outcome (scan : Scan α) (scanner : Scanner) :
    (StateT.run' scan scanner).run = (scan.outcome scanner).map (·.map Prod.fst) := by
  unfold Scan.outcome
  simp only [StateT.run', ExceptT.run_map]
  rfl

theorem all_outcome_end {scanner : Scanner} (ahead : scanner.pastBlanks.ahead = []) :
    all.outcome scanner =
      let last := scanner.pastBlanks.found [⟨.finish, none, scanner.pastBlanks.position⟩]
      some (.ok (last.tokens, last)) := by
  have finish (position : Position) (reached : Scanner) :
      (pushPlain .finish position).outcome reached =
        some (.ok ((), reached.found [⟨.finish, none, position⟩])) := rfl
  rw [all, items]
  simp only [outcome_bind, skipBlanks_outcome, current_outcome, ahead, List.head?_nil,
    outcome_pure, place_outcome, finish]
  rfl

theorem all_outcome_item {scanner : Scanner} {c : Char} {cs : List Char}
    (ahead : scanner.pastBlanks.ahead = c :: cs) :
    all.outcome scanner =
      match item.outcome scanner.pastBlanks with
      | none => none
      | some (.error halt) => some (.error halt)
      | some (.ok (_, reached)) => all.outcome reached := by
  conv => lhs; rw [all, items]
  simp only [outcome_bind, skipBlanks_outcome, current_outcome, ahead, List.head?_cons]
  rcases item.outcome scanner.pastBlanks with _ | _ | ⟨kind, reached⟩
  · rfl
  · rfl
  · rw [all]
    simp only [outcome_bind]

theorem all_outcome (scanner : Scanner) :
    (all.outcome scanner).map (·.map Prod.fst) =
      some (((loop .initial scanner).map (scanner.tokens ++ ·)).mapError .refused) := by
  have stops := scanner.pastBlanks_stops
  have fewer := scanner.pastBlanks_length
  rw [loop_pastBlanks rfl scanner]
  cases ahead : scanner.pastBlanks.ahead with
  | nil =>
      rw [all_outcome_end ahead, loop_end ahead]
      rfl
  | cons c cs =>
      rw [ahead] at stops
      have agrees := item_agrees ahead (stops c rfl) []
      rw [all_outcome_item ahead]
      generalize item.outcome scanner.pastBlanks = outcome at agrees
      cases agrees with
      | refuses refused =>
          rw [Lexer.State.initial, refused]
          rfl
      | @reads kind reached taken tokens isReached enough within read =>
          have shorter : reached.ahead.length < scanner.ahead.length := by
            rw [isReached, found_ahead, past_length]
            omega
          have later := all_outcome reached
          have isTokens : reached.tokens = scanner.tokens ++ tokens := by
            rw [isReached]
            rfl
          rw [behindItem_outside] at read
          dsimp only
          rw [later, Lexer.State.initial, read, Lexer.map_append_map, isTokens]
          rfl
termination_by scanner.ahead.length

/-- Scanners find the tokens that the loop finds, and fail where it fails. They always come to an
end, and none of their checks fails. -/
theorem scan_eq (source : String) :
    scan source = some ((Lexer.tokens source).mapError .refused) := by
  have agrees := all_outcome (.start source)
  have read : loop .initial (.start source) = Lexer.tokens source := rfl
  have noTokens : (Lexer.tokens source).map ((Scanner.start source).tokens ++ ·) =
      Lexer.tokens source := map_nil_append _
  rw [scan, run_outcome, agrees, read, noTokens]

end StructuredShell.Scanner
