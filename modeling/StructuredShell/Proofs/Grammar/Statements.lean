import StructuredShell.Proofs.Grammar.Conditions
import StructuredShell.Syntax.Parser.Statement

/-!
# Statements are read as the grammar derives them

The grammar leaves open which conditional an `else` belongs to. The reader gives it to the nearest
one, so it finds exactly the derivations whose tree says so. A list of tokens that has any
derivation has one of that kind.
-/

set_option autoImplicit false

namespace StructuredShell.Parser

open Grammar

/-! ## The readers without their errors -/

section

variable {finish : Position} {tokens rest : List Token} {token : Token}

theorem headKind_ne_of_expect {kind : Kind} (absent : (expect finish kind tokens).reads? = none)
    (noFinish : kind ≠ .finish) : headKind tokens ≠ kind := by
  intro same
  match tokens with
  | [] => exact noFinish same.symm
  | token :: tail =>
      rw [expect_cons same] at absent
      cases absent

theorem expressionEnd_reads? :
    (expressionEnd finish tokens).reads? =
      (expression finish tokens).reads?.bind fun read =>
        (expect finish .semicolon read.2).reads?.map fun ending => (read.1, ending.2) := by
  have ends : ∀ tail : List Token,
      (expectEnd finish tail).reads? = (expect finish .semicolon tail).reads? := by
    intro tail
    unfold expectEnd
    split <;> simp_all
  unfold expressionEnd
  split <;> simp_all

theorem expressionEnd_sound {value : Expr}
    (read : (expressionEnd finish tokens).reads? = some (value, rest)) :
    ∃ used semicolon, tokens = used ++ semicolon :: rest ∧ Expression used value ∧
      semicolon.kind = .semicolon := by
  rw [expressionEnd_reads?] at read
  obtain ⟨⟨_, middle⟩, readValue, ends⟩ := Option.bind_eq_some_iff.mp read
  obtain ⟨⟨_, last⟩, ended, same⟩ := Option.map_eq_some_iff.mp ends
  cases same
  obtain ⟨used, rfl, derived⟩ := expression_sound readValue
  obtain ⟨semicolon, isEnd, rfl⟩ := expect_sound ended
  exact ⟨used, semicolon, rfl, derived, isEnd⟩

theorem stopsValue_semicolon : StopsValue .semicolon := ⟨nofun, rfl, rfl⟩

theorem expressionEnd_complete {semicolon : Token} {value : Expr}
    (derived : Expression tokens value) (isEnd : semicolon.kind = .semicolon) :
    (expressionEnd finish (tokens ++ semicolon :: rest)).reads? = some (value, rest) := by
  rw [expressionEnd_reads?, expression_complete derived _ (stopsValue_semicolon.of_kind isEnd rest)]
  simp only [Option.bind_some, expect_cons isEnd, Option.map_some]

theorem assignmentTail_reads? {declaration : Bool} :
    (assignmentTail finish declaration tokens).reads? =
      (expectIdent finish tokens).reads?.bind fun target =>
        (expect finish .assign target.2).reads?.bind fun sign =>
          (expressionEnd finish sign.2).reads?.map fun read =>
            (⟨declaration, target.1, read.1⟩, read.2) := by
  unfold assignmentTail
  split
  · simp_all
  · split <;> simp_all

theorem assignment_reads? :
    (assignment finish tokens).reads? =
      match (expect finish .varWord tokens).reads? with
      | some word => (assignmentTail finish true word.2).reads?
      | none => (assignmentTail finish false tokens).reads? := by
  unfold assignment
  split <;> simp_all

theorem assignmentTail_sound {declaration : Bool} {binding : Assignment}
    (read : (assignmentTail finish declaration tokens).reads? = some (binding, rest)) :
    ∃ name sign used semicolon, tokens = name :: sign :: (used ++ semicolon :: rest) ∧
      binding.declaration = declaration ∧ Named .ident name binding.target ∧
      sign.kind = .assign ∧ Expression used binding.value ∧ semicolon.kind = .semicolon := by
  rw [assignmentTail_reads?] at read
  obtain ⟨⟨target, afterName⟩, readName, goesOn⟩ := Option.bind_eq_some_iff.mp read
  obtain ⟨⟨_, afterSign⟩, readSign, finishes⟩ := Option.bind_eq_some_iff.mp goesOn
  obtain ⟨⟨value, last⟩, readValue, same⟩ := Option.map_eq_some_iff.mp finishes
  cases same
  obtain ⟨name, named, rfl⟩ := expectIdent_sound readName
  obtain ⟨sign, isSign, rfl⟩ := expect_sound readSign
  obtain ⟨used, semicolon, rfl, derived, isEnd⟩ := expressionEnd_sound readValue
  exact ⟨name, sign, used, semicolon, rfl, rfl, named, isSign, derived, isEnd⟩

theorem assignment_sound {binding : Assignment}
    (read : (assignment finish tokens).reads? = some (binding, rest)) :
    ∃ used, tokens = used ++ rest ∧ Assigns used binding := by
  rw [assignment_reads?] at read
  obtain ⟨declaration, target, value⟩ := binding
  split at read
  · next word found =>
      obtain ⟨token, isWord, rfl⟩ := expect_sound found
      obtain ⟨name, sign, used, semicolon, same, rfl, named, isSign, derived, isEnd⟩ :=
        assignmentTail_sound read
      exact ⟨token :: name :: sign :: (used ++ [semicolon]), by simp [same],
        .declare isWord named isSign derived isEnd⟩
  · obtain ⟨name, sign, used, semicolon, rfl, rfl, named, isSign, derived, isEnd⟩ :=
      assignmentTail_sound read
    exact ⟨name :: sign :: (used ++ [semicolon]), by simp, .rebind named isSign derived isEnd⟩

theorem assignment_complete {binding : Assignment} (derived : Assigns tokens binding) :
    (assignment finish (tokens ++ rest)).reads? = some (binding, rest) := by
  cases derived with
  | declare isWord named isSign derived isEnd =>
      rw [assignment_reads?]
      simp only [List.cons_append, expect_cons isWord, assignmentTail_reads?,
        expectIdent_cons named, Option.bind_some, expect_cons isSign]
      rw [List.append_assoc, List.cons_append, List.nil_append,
        expressionEnd_complete derived isEnd]
      rfl
  | rebind named isSign derived isEnd =>
      rw [assignment_reads?, List.cons_append, expect_eq_none (by simp [named.kind_eq])]
      simp only [List.cons_append, assignmentTail_reads?,
        expectIdent_cons named, Option.bind_some, expect_cons isSign]
      rw [List.append_assoc, List.cons_append, List.nil_append,
        expressionEnd_complete derived isEnd]
      rfl

theorem rawTail_reads? :
    (rawTail finish tokens).reads? =
      (expect finish .openBrace tokens).reads?.bind fun opening =>
        (fragments finish opening.2).reads?.bind fun read =>
          (expect finish .closeBrace read.2).reads?.map fun closing =>
            (.expression (.raw read.1), match (expect finish .semicolon closing.2).reads? with
              | some ending => ending.2
              | none => closing.2) := by
  have ends : ∀ tail : List Token, (optionalEnd finish tail).reads? =
      some ((), match (expect finish .semicolon tail).reads? with
        | some ending => ending.2
        | none => tail) := by
    intro tail
    unfold optionalEnd
    split <;> simp_all
  unfold rawTail
  split
  · simp_all
  · split
    · simp_all
    · split <;> simp_all

theorem rawTail_sound {value : Statement}
    (read : (rawTail finish tokens).reads? = some (value, rest)) :
    ∃ used pieces, tokens = used ++ rest ∧ value = .expression (.raw pieces) ∧
      ∀ {word : Token}, word.kind = .rawWord → Grammar.Statement (word :: used) value := by
  rw [rawTail_reads?] at read
  obtain ⟨⟨_, inside⟩, opened, goesOn⟩ := Option.bind_eq_some_iff.mp read
  obtain ⟨⟨pieces, after⟩, readPieces, closes⟩ := Option.bind_eq_some_iff.mp goesOn
  obtain ⟨⟨_, last⟩, closed, same⟩ := Option.map_eq_some_iff.mp closes
  obtain ⟨brace, isOpen, rfl⟩ := expect_sound opened
  obtain ⟨used, rfl, derived⟩ := fragments_sound readPieces
  obtain ⟨close, isClose, rfl⟩ := expect_sound closed
  simp only at same
  split at same
  · next ending ended =>
      cases same
      obtain ⟨semicolon, isEnd, rfl⟩ := expect_sound ended
      exact ⟨brace :: (used ++ close :: [semicolon]), pieces, by simp, rfl, fun isWord =>
        .raw isWord isOpen derived isClose (.inr ⟨semicolon, isEnd, rfl⟩)⟩
  · cases same
    exact ⟨brace :: (used ++ [close]), pieces, by simp, rfl, fun isWord =>
      .raw isWord isOpen derived isClose (.inl rfl)⟩

theorem rawTail_complete {opening closing : Token} {ending : List Token}
    {pieces : List Fragment} (isOpen : opening.kind = .openBrace)
    (derived : Environment tokens pieces) (isClose : closing.kind = .closeBrace)
    (ends : ending = [] ∨ ∃ semicolon : Token, semicolon.kind = .semicolon ∧ ending = [semicolon])
    (noSemicolon : headKind rest ≠ .semicolon) :
    (rawTail finish (opening :: (tokens ++ closing :: (ending ++ rest)))).reads? =
      some (.expression (.raw pieces), rest) := by
  have stops : FragmentHead.ofToken closing = .other := by simp [FragmentHead.ofToken, isClose]
  rw [rawTail_reads?]
  simp only [expect_cons isOpen, Option.bind_some, fragments_complete derived closing _ stops,
    expect_cons isClose, Option.map_some]
  rcases ends with rfl | ⟨semicolon, isEnd, rfl⟩
  · rw [List.nil_append, expect_eq_none noSemicolon]
  · rw [List.cons_append, expect_cons isEnd]
    rfl

theorem conditionHead_reads? :
    (conditionHead finish tokens).reads? =
      (expect finish .openParen tokens).reads?.bind fun opening =>
        (groupTail finish opening.2).reads? := by
  unfold conditionHead
  split <;> simp_all

theorem statement_nil : (statement finish []).reads? = none := by
  rw [statement]
  rfl

theorem statement_cons :
    (statement finish (token :: rest)).reads? =
      match StatementHead.ofKinds token.kind (headKind rest) with
      | .assignment =>
        (assignment finish (token :: rest)).reads?.map fun read => (.assignment read.1, read.2)
      | .returnValue =>
        (expressionEnd finish rest).reads?.map fun read => (.returnValue read.1, read.2)
      | .conditional =>
        (conditionalTail finish rest).reads?.map fun read =>
          (.conditional read.1.1 read.1.2.1 read.1.2.2, read.2)
      | .block => (blockTail finish rest).reads?.map fun read => (.block read.1, read.2)
      | .environment => (rawTail finish rest).reads?
      | .value =>
        (expressionEnd finish (token :: rest)).reads?.map fun read => (.expression read.1, read.2)
      | .other => none := by
  rw [statement]
  cases StatementHead.ofKinds token.kind (headKind rest) <;> simp

theorem conditionalTail_reads? :
    (conditionalTail finish tokens).reads? =
      (conditionHead finish tokens).reads?.bind fun test =>
        (statement finish test.2).reads?.bind fun body =>
          (alternativeTail finish body.2).reads?.map fun alternative =>
            ((test.1, body.1, alternative.1), alternative.2) := by
  rw [conditionalTail]
  split
  · simp_all
  · split <;> simp_all

theorem alternativeTail_reads? :
    (alternativeTail finish tokens).reads? =
      match (expect finish .elseWord tokens).reads? with
      | none => some (.absent, tokens)
      | some word =>
        match (expect finish .ifWord word.2).reads? with
        | some next => (conditionalTail finish next.2).reads?.map fun read =>
          (.elseIf read.1.1 read.1.2.1 read.1.2.2, read.2)
        | none => (statement finish word.2).reads?.map fun read => (.otherwise read.1, read.2) := by
  rw [alternativeTail]
  split
  · simp_all
  · split <;> simp_all

theorem blockTail_reads? :
    (blockTail finish tokens).reads? =
      match (expect finish .closeBrace tokens).reads? with
      | some closing => some ([], closing.2)
      | none =>
        if headKind tokens = .finish then none
        else (statement finish tokens).reads?.bind fun first =>
          (blockTail finish first.2).reads?.map fun others => (first.1 :: others.1, others.2) := by
  rw [blockTail]
  split
  · simp_all
  · split
    · simp_all
    · split <;> simp_all

/-! ## What the first two tokens say -/

theorem ofKinds_eq_returnValue_iff {first second : Kind} :
    StatementHead.ofKinds first second = .returnValue ↔ first = .returnWord := by
  cases first <;> simp [StatementHead.ofKinds, factorStart]
  split <;> simp

theorem ofKinds_eq_conditional_iff {first second : Kind} :
    StatementHead.ofKinds first second = .conditional ↔ first = .ifWord := by
  cases first <;> simp [StatementHead.ofKinds, factorStart]
  split <;> simp

theorem ofKinds_eq_block_iff {first second : Kind} :
    StatementHead.ofKinds first second = .block ↔ first = .openBrace := by
  cases first <;> simp [StatementHead.ofKinds, factorStart]
  split <;> simp

theorem ofKinds_eq_environment_iff {first second : Kind} :
    StatementHead.ofKinds first second = .environment ↔ first = .rawWord := by
  cases first <;> simp [StatementHead.ofKinds, factorStart]
  split <;> simp

theorem ofKinds_eq_value {first second : Kind} (starts : first ∈ factorStart)
    (noAssign : first = .ident → second ≠ .assign) :
    StatementHead.ofKinds first second = .value := by
  simp only [factorStart, List.mem_cons, List.not_mem_nil, or_false] at starts
  rcases starts with rfl | rfl | rfl | rfl | rfl
  · rfl
  · rfl
  · simp [StatementHead.ofKinds, noAssign]
  · rfl
  · rfl

end

/-! ## The end of a conditional -/

/-- Only the word `if` begins a conditional, so a statement that begins otherwise does not continue
the chain after an `else`. -/
theorem afterElse_eq_otherwise {tokens : List Token} {statement : Statement}
    (derived : Grammar.Statement tokens statement) (rest : List Token)
    (noIf : headKind (tokens ++ rest) ≠ .ifWord) : afterElse statement = .otherwise statement := by
  cases derived with
  | conditional isWord => exact absurd isWord noIf
  | conditionalElse isWord => exact absurd isWord noIf
  | _ => rfl

/-! ## What is read derives -/

/-- What a reader of statements found: a derivation in which every `else` is at the nearest
conditional, and no `else` that the statement could have taken. -/
structure ReadStatement (used rest : List Token) (statement : Statement) : Prop where
  derived : Grammar.Statement used statement
  nearest : statement.elseNearest = true
  noElse : statement.endsOpen = true → headKind rest ≠ .elseWord

mutual

theorem statement_sound {finish : Position} {tokens rest : List Token} {value : Statement}
    (read : (statement finish tokens).reads? = some (value, rest)) :
    ∃ used, tokens = used ++ rest ∧ ReadStatement used rest value := by
  match tokens with
  | [] =>
      rw [statement_nil] at read
      cases read
  | token :: tail =>
      rw [statement_cons] at read
      cases head : StatementHead.ofKinds token.kind (headKind tail) with
      | assignment =>
          simp only [head] at read
          obtain ⟨⟨binding, _⟩, readBinding, same⟩ := Option.map_eq_some_iff.mp read
          cases same
          obtain ⟨used, same, derived⟩ := assignment_sound readBinding
          exact ⟨used, same, .assignment derived, rfl, nofun⟩
      | returnValue =>
          simp only [head] at read
          obtain ⟨⟨returned, _⟩, readValue, same⟩ := Option.map_eq_some_iff.mp read
          cases same
          obtain ⟨used, semicolon, rfl, derived, isEnd⟩ := expressionEnd_sound readValue
          exact ⟨token :: (used ++ [semicolon]), by simp,
            .returnValue (ofKinds_eq_returnValue_iff.mp head) derived isEnd, rfl, nofun⟩
      | value =>
          simp only [head] at read
          obtain ⟨⟨_, _⟩, readValue, same⟩ := Option.map_eq_some_iff.mp read
          cases same
          obtain ⟨used, semicolon, same, derived, isEnd⟩ := expressionEnd_sound readValue
          exact ⟨used ++ [semicolon], by simp [same], .expression derived isEnd, rfl, nofun⟩
      | environment =>
          simp only [head] at read
          obtain ⟨used, pieces, rfl, rfl, derived⟩ := rawTail_sound read
          exact ⟨token :: used, rfl, derived (ofKinds_eq_environment_iff.mp head), rfl, nofun⟩
      | block =>
          simp only [head] at read
          obtain ⟨⟨statements, _⟩, readBlock, same⟩ := Option.map_eq_some_iff.mp read
          cases same
          obtain ⟨used, rfl, derived, nearest⟩ := blockTail_sound readBlock
          exact ⟨token :: used, rfl, .block (ofKinds_eq_block_iff.mp head) derived, nearest, nofun⟩
      | conditional =>
          simp only [head] at read
          obtain ⟨⟨_, _⟩, readTail, same⟩ := Option.map_eq_some_iff.mp read
          cases same
          obtain ⟨used, rfl, found⟩ := conditionalTail_sound readTail
          exact ⟨token :: used, rfl, found (ofKinds_eq_conditional_iff.mp head)⟩
      | other =>
          simp only [head] at read
          cases read
termination_by 2 * tokens.length

theorem conditionalTail_sound {finish : Position} {tokens rest : List Token}
    {value : Condition × Statement × Alternative}
    (read : (conditionalTail finish tokens).reads? = some (value, rest)) :
    ∃ used, tokens = used ++ rest ∧ ∀ {word : Token}, word.kind = .ifWord →
      ReadStatement (word :: used) rest (.conditional value.1 value.2.1 value.2.2) := by
  rw [conditionalTail_reads?, conditionHead_reads?] at read
  obtain ⟨⟨test, afterTest⟩, readHead, goesOn⟩ := Option.bind_eq_some_iff.mp read
  obtain ⟨⟨_, inside⟩, opened, readTest⟩ := Option.bind_eq_some_iff.mp readHead
  obtain ⟨⟨body, afterBody⟩, readBody, finishes⟩ := Option.bind_eq_some_iff.mp goesOn
  obtain ⟨⟨alternative, _⟩, readAlternative, same⟩ := Option.map_eq_some_iff.mp finishes
  cases same
  have headShorter : inside.length < tokens.length := Reply.length_lt_of_reads? opened
  have testShorter : afterTest.length < inside.length := Reply.length_lt_of_reads? readTest
  have bodyShorter : afterBody.length < afterTest.length := Reply.length_lt_of_reads? readBody
  obtain ⟨usedBody, sameBody, foundBody⟩ := statement_sound readBody
  have foundAlternative := alternativeTail_sound readAlternative
  obtain ⟨opening, isOpen, rfl⟩ := expect_sound opened
  obtain ⟨usedTest, closing, sameTest, derivedTest, isClose⟩ := groupTail_sound readTest
  simp only at sameTest sameBody foundAlternative
  rcases foundAlternative with ⟨rfl, rfl, noElse⟩ |
    ⟨elseWord, usedOther, other, rfl, isElse, foundOther, rfl⟩
  · refine ⟨opening :: (usedTest ++ closing :: usedBody), by simp [sameTest, sameBody],
      fun isWord => ⟨?_, ?_, fun _ => noElse⟩⟩
    · exact .conditional isWord isOpen derivedTest isClose foundBody.derived
    · simp [Statement.elseNearest, Alternative.elseNearest, Alternative.isAbsent,
        foundBody.nearest]
  · -- The body stands before an `else`, so it is not one that could have taken it.
    have closed : body.endsOpen = false := by
      cases isOpen : body.endsOpen with
      | false => rfl
      | true => exact absurd isElse (foundBody.noElse isOpen)
    refine ⟨opening :: (usedTest ++ closing :: (usedBody ++ elseWord :: usedOther)),
      by simp [sameTest, sameBody], fun isWord => ⟨?_, ?_, ?_⟩⟩
    · exact .conditionalElse isWord isOpen derivedTest isClose foundBody.derived isElse
        foundOther.derived
    · simp [Statement.elseNearest, afterElse_elseNearest, foundBody.nearest, foundOther.nearest,
        closed]
    · intro isOpen
      rw [Statement.endsOpen, afterElse_endsOpen] at isOpen
      exact foundOther.noElse isOpen
termination_by 2 * tokens.length

theorem alternativeTail_sound {finish : Position} {tokens rest : List Token} {value : Alternative}
    (read : (alternativeTail finish tokens).reads? = some (value, rest)) :
    (value = .absent ∧ tokens = rest ∧ headKind rest ≠ .elseWord) ∨
      ∃ word used other, tokens = word :: (used ++ rest) ∧ word.kind = .elseWord ∧
        ReadStatement used rest other ∧ value = afterElse other := by
  rw [alternativeTail_reads?] at read
  split at read
  · next absent =>
      cases read
      exact .inl ⟨rfl, rfl, headKind_ne_of_expect absent nofun⟩
  · next word found =>
      have wordShorter := Reply.length_lt_of_reads? found
      obtain ⟨elseWord, isElse, rfl⟩ := expect_sound found
      refine .inr ⟨elseWord, ?_⟩
      split at read
      · next next foundIf =>
          have ifShorter := Reply.length_lt_of_reads? foundIf
          obtain ⟨⟨_, _⟩, readTail, same⟩ := Option.map_eq_some_iff.mp read
          cases same
          obtain ⟨ifWord, isIf, sameIf⟩ := expect_sound foundIf
          obtain ⟨used, sameUsed, foundTail⟩ := conditionalTail_sound readTail
          exact ⟨ifWord :: used, _, by simp [sameIf, sameUsed], isElse, foundTail isIf, rfl⟩
      · next noIf =>
          obtain ⟨⟨other, _⟩, readOther, same⟩ := Option.map_eq_some_iff.mp read
          cases same
          obtain ⟨used, sameUsed, foundOther⟩ := statement_sound readOther
          have noIfAhead := headKind_ne_of_expect noIf nofun
          rw [sameUsed] at noIfAhead
          exact ⟨used, other, by simp [sameUsed], isElse, foundOther,
            (afterElse_eq_otherwise foundOther.derived _ noIfAhead).symm⟩
termination_by 2 * tokens.length

theorem blockTail_sound {finish : Position} {tokens rest : List Token} {values : List Statement}
    (read : (blockTail finish tokens).reads? = some (values, rest)) :
    ∃ used, tokens = used ++ rest ∧ Statements used values ∧
      Statement.elsesNearest values = true := by
  rw [blockTail_reads?] at read
  split at read
  · next closing closed =>
      cases read
      obtain ⟨brace, isClose, rfl⟩ := expect_sound closed
      exact ⟨[brace], rfl, .nil isClose, rfl⟩
  · split at read
    · cases read
    · obtain ⟨⟨first, middle⟩, readFirst, goesOn⟩ := Option.bind_eq_some_iff.mp read
      obtain ⟨⟨others, _⟩, readOthers, same⟩ := Option.map_eq_some_iff.mp goesOn
      cases same
      have shorter := Reply.length_lt_of_reads? readFirst
      obtain ⟨used, rfl, foundFirst⟩ := statement_sound readFirst
      obtain ⟨usedOthers, rfl, derivedOthers, nearestOthers⟩ := blockTail_sound readOthers
      refine ⟨used ++ usedOthers, by simp, .cons foundFirst.derived derivedOthers, ?_⟩
      simp [Statement.elsesNearest, foundFirst.nearest, nearestOthers]
termination_by 2 * tokens.length + 1

end

/-! ## What derives is read -/

theorem statement_begins {tokens : List Token} {statement : Statement}
    (derived : Grammar.Statement tokens statement) :
    ∃ token tail, tokens = token :: tail ∧ token.kind ∈ statementStart := by
  cases derived with
  | assignment derived =>
      cases derived with
      | declare isWord => exact ⟨_, _, rfl, by simp [statementStart, isWord]⟩
      | rebind named => exact ⟨_, _, rfl, by simp [statementStart, named.kind_eq]⟩
  | returnValue isWord => exact ⟨_, _, rfl, by simp [statementStart, isWord]⟩
  | expression derived =>
      obtain ⟨token, tail, rfl, starts⟩ := derived.begins
      have included : ∀ kind ∈ factorStart, kind ∈ statementStart := by decide
      exact ⟨token, _, rfl, included _ starts⟩
  | raw isWord => exact ⟨_, _, rfl, by simp [statementStart, isWord]⟩
  | block isOpen => exact ⟨_, _, rfl, by simp [statementStart, isOpen]⟩
  | conditional isWord => exact ⟨_, _, rfl, by simp [statementStart, isWord]⟩
  | conditionalElse isWord => exact ⟨_, _, rfl, by simp [statementStart, isWord]⟩

/-- A kind that begins no statement does not stand ahead of one. -/
theorem statement_headKind_ne {tokens : List Token} {statement : Statement}
    (derived : Grammar.Statement tokens statement) (rest : List Token) {kind : Kind}
    (noStart : kind ∉ statementStart) : headKind (tokens ++ rest) ≠ kind := by
  obtain ⟨token, tail, rfl, starts⟩ := statement_begins derived
  intro same
  rw [List.cons_append, headKind_cons] at same
  exact noStart (same ▸ starts)

/-- What follows a statement in a block neither ends it nor continues it. -/
theorem statements_headKind_ne {tokens : List Token} {statements : List Statement}
    (derived : Statements tokens statements) (rest : List Token) {kind : Kind}
    (noStart : kind ∉ statementStart) (noClose : kind ≠ .closeBrace) :
    headKind (tokens ++ rest) ≠ kind := by
  cases derived with
  | nil isClose =>
      intro same
      exact noClose (same.symm.trans isClose)
  | cons derived _ =>
      rw [List.append_assoc]
      exact statement_headKind_ne derived _ noStart

theorem carriesOn_ne_assign {kind : Kind} (carries : CarriesOn kind) : kind ≠ .assign := by
  obtain ⟨_, sum | product⟩ := carries
  · cases sum <;> nofun
  · cases product <;> nofun

/-- A value at the head of a statement is not taken for the target of an assignment. -/
theorem value_not_assigned {token semicolon : Token} {tail rest : List Token} {value : Expr}
    (derived : Expression (token :: tail) value) (isEnd : semicolon.kind = .semicolon)
    (isIdent : token.kind = .ident) : headKind (tail ++ semicolon :: rest) ≠ .assign := by
  obtain ⟨head, others, first, same, factor, goesOn⟩ := derived.first_factor
  cases factor with
  | number isNumber => simp_all
  | text named => simp_all [named.kind_eq]
  | group isOpen => simp_all
  | raw isDollar => simp_all
  | call named isOpen =>
      simp only [List.cons_append, List.cons.injEq] at same
      simp [same.2, isOpen]
  | var named =>
      simp only [List.cons_append, List.nil_append, List.cons.injEq] at same
      rw [same.2]
      rcases goesOn with rfl | ⟨sign, others, rfl, carries⟩
      · simp [isEnd]
      · exact carriesOn_ne_assign carries

/-- Whatever is read as a statement after an `else` is read as the end of the conditional. -/
theorem alternativeTail_of_statement {finish : Position} {tokens rest : List Token}
    {elseWord : Token} {other : Statement} (isElse : elseWord.kind = .elseWord)
    (read : (statement finish tokens).reads? = some (other, rest)) :
    (alternativeTail finish (elseWord :: tokens)).reads? = some (afterElse other, rest) := by
  rw [alternativeTail_reads?, expect_cons isElse]
  simp only
  by_cases isIf : headKind tokens = .ifWord
  · match tokens with
    | [] => cases isIf
    | token :: tail =>
        rw [headKind_cons] at isIf
        rw [statement_cons, ofKinds_eq_conditional_iff.mpr isIf] at read
        obtain ⟨⟨parts, _⟩, readTail, same⟩ := Option.map_eq_some_iff.mp read
        cases same
        rw [expect_cons isIf]
        simp only [readTail, Option.map_some]
        rfl
  · obtain ⟨used, same, found⟩ := statement_sound read
    rw [expect_eq_none isIf]
    simp only [read, Option.map_some]
    rw [same] at isIf
    rw [afterElse_eq_otherwise found.derived rest isIf]

theorem assignment_statement_complete {finish : Position} {tokens rest : List Token}
    {binding : Assignment} (derived : Assigns tokens binding) :
    (statement finish (tokens ++ rest)).reads? = some (.assignment binding, rest) := by
  have read : (assignment finish (tokens ++ rest)).reads? = _ := assignment_complete derived
  have head : ∃ token tail, tokens ++ rest = token :: tail ∧
      StatementHead.ofKinds token.kind (headKind tail) = .assignment := by
    cases derived with
    | declare isWord => exact ⟨_, _, rfl, by simp [StatementHead.ofKinds, isWord]⟩
    | rebind named isSign =>
        exact ⟨_, _, rfl, by simp [StatementHead.ofKinds, named.kind_eq, isSign]⟩
  obtain ⟨token, tail, same, isAssignment⟩ := head
  rw [same] at read ⊢
  rw [statement_cons, isAssignment, read]
  rfl

mutual

theorem statement_complete {finish : Position} {tokens : List Token} {value : Statement}
    (derived : Grammar.Statement tokens value) (nearest : value.elseNearest = true)
    (rest : List Token) (noSemicolon : headKind rest ≠ .semicolon)
    (noElse : value.endsOpen = true → headKind rest ≠ .elseWord) :
    (statement finish (tokens ++ rest)).reads? = some (value, rest) := by
  match derived with
  | .assignment derived => exact assignment_statement_complete derived
  | .returnValue isWord derived isEnd =>
      simp only [List.cons_append, statement_cons, ofKinds_eq_returnValue_iff.mpr isWord]
      rw [List.append_assoc, List.cons_append, List.nil_append,
        expressionEnd_complete derived isEnd]
      rfl
  | @Grammar.Statement.expression semicolon tokens _ derived isEnd =>
      obtain ⟨token, tail, rfl, starts⟩ := derived.begins
      have read : (expressionEnd finish (token :: (tail ++ semicolon :: rest))).reads? = some _ :=
        expressionEnd_complete derived isEnd
      rw [List.append_assoc, List.cons_append, List.cons_append, List.nil_append, statement_cons,
        ofKinds_eq_value starts (value_not_assigned derived isEnd), read]
      rfl
  | @Grammar.Statement.raw word opening closing tokens ending _ isWord isOpen derived isClose
      ends =>
      rw [List.cons_append, List.cons_append, List.append_assoc, List.cons_append, statement_cons,
        ofKinds_eq_environment_iff.mpr isWord,
        rawTail_complete isOpen derived isClose ends noSemicolon]
  | .block isOpen derived =>
      rw [Statement.elseNearest] at nearest
      simp only [List.cons_append, statement_cons, ofKinds_eq_block_iff.mpr isOpen,
        blockTail_complete derived nearest rest, Option.map_some]
  | @Grammar.Statement.conditional word opening closing head body _ inner isWord isOpen test isClose
      derivedBody =>
      have noElse := noElse rfl
      have nearestBody : inner.elseNearest = true := by
        simp only [Statement.elseNearest, Bool.and_eq_true] at nearest
        exact nearest.1.1
      have readAlternative : (alternativeTail finish rest).reads? = some (.absent, rest) := by
        rw [alternativeTail_reads?, expect_eq_none noElse]
      rw [List.cons_append, List.cons_append, List.append_assoc, List.cons_append, statement_cons,
        ofKinds_eq_conditional_iff.mpr isWord]
      simp only [conditionalTail_reads?, conditionHead_reads?, expect_cons isOpen, Option.bind_some,
        groupTail_complete test isClose, Option.map_some,
        statement_complete derivedBody nearestBody rest noSemicolon (fun _ => noElse),
        readAlternative]
  | @Grammar.Statement.conditionalElse word opening closing elseWord head body other _ inner _
      isWord isOpen test isClose derivedBody isElse derivedOther =>
      simp only [Statement.elseNearest, afterElse_elseNearest, afterElse_isAbsent, Bool.and_eq_true,
        Bool.false_or, Bool.not_eq_true'] at nearest
      obtain ⟨⟨nearestBody, nearestOther⟩, closed⟩ := nearest
      rw [Statement.endsOpen, afterElse_endsOpen] at noElse
      have notEnd : headKind (elseWord :: (other ++ rest)) ≠ .semicolon := by simp [isElse]
      have readOther : (statement finish (other ++ rest)).reads? = _ :=
        statement_complete derivedOther nearestOther rest noSemicolon noElse
      rw [List.cons_append, List.cons_append, List.append_assoc, List.cons_append,
        List.append_assoc, List.cons_append, statement_cons, ofKinds_eq_conditional_iff.mpr isWord]
      simp only [conditionalTail_reads?, conditionHead_reads?, expect_cons isOpen, Option.bind_some,
        groupTail_complete test isClose, Option.map_some,
        statement_complete derivedBody nearestBody _ notEnd (by simp [closed]),
        alternativeTail_of_statement isElse readOther]

theorem blockTail_complete {finish : Position} {tokens : List Token} {values : List Statement}
    (derived : Statements tokens values) (nearest : Statement.elsesNearest values = true)
    (rest : List Token) :
    (blockTail finish (tokens ++ rest)).reads? = some (values, rest) := by
  match derived with
  | .nil isClose =>
      rw [blockTail_reads?, List.cons_append, expect_cons isClose]
      rfl
  | @Statements.cons tokens others _ _ derivedFirst derivedOthers =>
      simp only [Statement.elsesNearest, Bool.and_eq_true] at nearest
      have noClose := statement_headKind_ne derivedFirst (others ++ rest)
        (show Kind.closeBrace ∉ statementStart by decide)
      have noFinish := statement_headKind_ne derivedFirst (others ++ rest)
        (show Kind.finish ∉ statementStart by decide)
      have noSemicolon := statements_headKind_ne derivedOthers rest
        (show Kind.semicolon ∉ statementStart by decide) nofun
      have noElse := statements_headKind_ne derivedOthers rest
        (show Kind.elseWord ∉ statementStart by decide) nofun
      rw [List.append_assoc, blockTail_reads?, expect_eq_none noClose]
      simp only [if_neg noFinish, Option.bind_some,
        statement_complete derivedFirst nearest.1 _ noSemicolon (fun _ => noElse),
        blockTail_complete derivedOthers nearest.2 rest, Option.map_some]

end

end StructuredShell.Parser
