import StructuredShell.Proofs.Grammar.Statements
import StructuredShell.Syntax.Parser.Program

/-!
# Programs are read as the grammar derives them

The reader of programs accepts exactly the lists of tokens that the grammar derives. The program it
gives is the tree of the one derivation in which every `else` belongs to the nearest conditional.
-/

set_option autoImplicit false

namespace StructuredShell.Grammar

open StructuredShell.Parser

/-! ## Moving an `else` to the nearest conditional -/

/-- A statement that ends in an open conditional can take an `else` at its end. -/
theorem exists_statement_taking_else {tokens other : List Token} {elseWord : Token}
    {body alternative : StructuredShell.Statement} (derived : Statement tokens body)
    (nearest : body.elseNearest = true) (isOpen : body.endsOpen = true)
    (isElse : elseWord.kind = .elseWord) (derivedOther : Statement other alternative)
    (nearestOther : alternative.elseNearest = true) :
    ∃ whole, Statement (tokens ++ elseWord :: other) whole ∧ whole.elseNearest = true := by
  match derived with
  | .assignment _ => cases isOpen
  | .returnValue _ _ _ => cases isOpen
  | .expression _ _ => cases isOpen
  | .raw _ _ _ _ _ => cases isOpen
  | .block _ _ => cases isOpen
  | @Statement.conditional word opening closing head inner condition statement isWord opens test
      closes derivedInner =>
      simp only [Statement.elseNearest, Bool.and_eq_true] at nearest
      rw [List.cons_append, List.cons_append, List.append_assoc, List.cons_append]
      cases isInnerOpen : statement.endsOpen with
      | true =>
          -- The inner conditional is nearer, so the `else` goes there.
          obtain ⟨whole, derivedWhole, nearestWhole⟩ := exists_statement_taking_else derivedInner
            nearest.1.1 isInnerOpen isElse derivedOther nearestOther
          refine ⟨_, .conditional isWord opens test closes derivedWhole, ?_⟩
          simp [Statement.elseNearest, Alternative.elseNearest, Alternative.isAbsent, nearestWhole]
      | false =>
          refine ⟨_, .conditionalElse isWord opens test closes derivedInner isElse derivedOther, ?_⟩
          simp [Statement.elseNearest, afterElse_elseNearest, nearest.1.1, nearestOther,
            isInnerOpen]
  | @Statement.conditionalElse word opening closing elseWord' head inner last condition statement
      final isWord opens test closes derivedInner isElse' derivedLast =>
      simp only [Statement.elseNearest, afterElse_elseNearest, afterElse_isAbsent, Bool.and_eq_true,
        Bool.false_or, Bool.not_eq_true'] at nearest
      rw [Statement.endsOpen, afterElse_endsOpen] at isOpen
      obtain ⟨whole, derivedWhole, nearestWhole⟩ := exists_statement_taking_else derivedLast
        nearest.1.2 isOpen isElse derivedOther nearestOther
      have rebuilt := Statement.conditionalElse isWord opens test closes derivedInner isElse'
        derivedWhole
      refine ⟨_, by simpa using rebuilt, ?_⟩
      simp [Statement.elseNearest, afterElse_elseNearest, nearest.1.1, nearestWhole, nearest.2]

mutual

theorem Statement.exists_nearest {tokens : List Token} {statement : StructuredShell.Statement}
    (derived : Statement tokens statement) :
    ∃ nearest, Statement tokens nearest ∧ nearest.elseNearest = true := by
  match derived with
  | .assignment derived => exact ⟨_, .assignment derived, rfl⟩
  | .returnValue isWord derived isEnd => exact ⟨_, .returnValue isWord derived isEnd, rfl⟩
  | .expression derived isEnd => exact ⟨_, .expression derived isEnd, rfl⟩
  | .raw isWord isOpen derived isClose ends =>
      exact ⟨_, .raw isWord isOpen derived isClose ends, rfl⟩
  | .block isOpen derived =>
      obtain ⟨statements, derived, nearest⟩ := Statements.exists_nearest derived
      exact ⟨_, .block isOpen derived, nearest⟩
  | .conditional isWord opens test closes derivedBody =>
      obtain ⟨body, derivedBody, nearestBody⟩ := Statement.exists_nearest derivedBody
      refine ⟨_, .conditional isWord opens test closes derivedBody, ?_⟩
      simp [Statement.elseNearest, Alternative.elseNearest, Alternative.isAbsent, nearestBody]
  | .conditionalElse isWord opens test closes derivedBody isElse derivedOther =>
      obtain ⟨body, derivedBody, nearestBody⟩ := Statement.exists_nearest derivedBody
      obtain ⟨other, derivedOther, nearestOther⟩ := Statement.exists_nearest derivedOther
      cases isOpen : body.endsOpen with
      | false =>
          refine ⟨_, .conditionalElse isWord opens test closes derivedBody isElse derivedOther, ?_⟩
          simp [Statement.elseNearest, afterElse_elseNearest, nearestBody, nearestOther, isOpen]
      | true =>
          obtain ⟨whole, derivedWhole, nearestWhole⟩ := exists_statement_taking_else derivedBody
            nearestBody isOpen isElse derivedOther nearestOther
          refine ⟨_, .conditional isWord opens test closes derivedWhole, ?_⟩
          simp [Statement.elseNearest, Alternative.elseNearest, Alternative.isAbsent, nearestWhole]

theorem Statements.exists_nearest {tokens : List Token}
    {statements : List StructuredShell.Statement} (derived : Statements tokens statements) :
    ∃ nearest, Statements tokens nearest ∧ Statement.elsesNearest nearest = true := by
  match derived with
  | .nil isClose => exact ⟨_, .nil isClose, rfl⟩
  | .cons derivedFirst derivedOthers =>
      obtain ⟨first, derivedFirst, nearestFirst⟩ := Statement.exists_nearest derivedFirst
      obtain ⟨others, derivedOthers, nearestOthers⟩ := Statements.exists_nearest derivedOthers
      refine ⟨_, .cons derivedFirst derivedOthers, ?_⟩
      simp [Statement.elsesNearest, nearestFirst, nearestOthers]

end

/-- A list of tokens with any derivation has one with every `else` at the nearest conditional. -/
theorem Program.exists_nearest {tokens : List Token} {program : StructuredShell.Program}
    (derived : Program tokens program) :
    ∃ nearest, Program tokens nearest ∧ nearest.elseNearest = true := by
  induction derived with
  | nil => exact ⟨_, .nil, rfl⟩
  | function derivedFunction _ ih =>
      obtain ⟨others, derivedOthers, nearestOthers⟩ := ih
      cases derivedFunction with
      | define isWord named isOpen parameters isBrace body =>
          obtain ⟨statements, derivedBody, nearestBody⟩ := body.exists_nearest
          refine ⟨_, .function (.define isWord named isOpen parameters isBrace derivedBody)
            derivedOthers, ?_⟩
          simp only [Program.elseNearest, List.all_cons, nearestBody, Bool.true_and]
          exact nearestOthers
  | assignment derivedBinding _ ih =>
      obtain ⟨others, derivedOthers, nearestOthers⟩ := ih
      exact ⟨_, .assignment derivedBinding derivedOthers, nearestOthers⟩

end StructuredShell.Grammar

namespace StructuredShell.Parser

open Grammar

/-! ## The readers without their errors -/

section

variable {finish : Position} {tokens rest : List Token}

theorem parameters_reads? :
    (parameters finish tokens).reads? =
      match (expect finish .closeParen tokens).reads? with
      | some closing => some ([], closing.2)
      | none => (expectIdent finish tokens).reads?.bind fun name =>
        (expectSeparator finish name.2).reads?.bind fun separator =>
          if separator.1 then
            (parameters finish separator.2).reads?.map fun others => (name.1 :: others.1, others.2)
          else some ([name.1], separator.2) := by
  rw [parameters]
  split
  · simp_all
  · split
    · simp_all
    · split <;> simp_all

theorem function_reads? :
    (function finish tokens).reads? =
      (expect finish .funcWord tokens).reads?.bind fun word =>
        (expectIdent finish word.2).reads?.bind fun name =>
          (expect finish .openParen name.2).reads?.bind fun opening =>
            (parameters finish opening.2).reads?.bind fun names =>
              (expect finish .openBrace names.2).reads?.bind fun brace =>
                (blockTail finish brace.2).reads?.map fun body =>
                  (⟨name.1, names.1, body.1⟩, body.2) := by
  have blocks : ∀ tail : List Token, (block finish tail).reads? =
      (expect finish .openBrace tail).reads?.bind fun brace =>
        (blockTail finish brace.2).reads? := by
    intro tail
    unfold block
    split <;> simp_all
  have tails : ∀ (name : String) (tail : List Token), (functionTail finish name tail).reads? =
      (expect finish .openParen tail).reads?.bind fun opening =>
        (parameters finish opening.2).reads?.bind fun names =>
          (block finish names.2).reads?.map fun body => (⟨name, names.1, body.1⟩, body.2) := by
    intro name tail
    unfold functionTail
    split
    · simp_all
    · split <;> simp_all
  unfold function
  split
  · simp_all
  · split
    · simp_all
    · next word _ name _ _ named =>
      simp only [word, named, Reply.reads?_within, Reply.reads?_ok, Option.bind_some, tails, blocks,
        Option.map_bind]
      rfl

theorem program_reads? :
    (program finish tokens).reads? =
      match ItemHead.ofKind (headKind tokens) with
      | .finish => some (⟨[], []⟩, tokens)
      | .other => none
      | .function => (function finish tokens).reads?.bind fun first =>
        (program finish first.2).reads?.map fun others =>
          (⟨others.1.globals, first.1 :: others.1.functions⟩, others.2)
      | .assignment => (assignment finish tokens).reads?.bind fun first =>
        (program finish first.2).reads?.map fun others =>
          (⟨first.1 :: others.1.globals, others.1.functions⟩, others.2) := by
  rw [program]
  cases ItemHead.ofKind (headKind tokens) with
  | finish => rfl
  | other => rfl
  | function =>
      simp only
      cases function finish tokens <;> simp
  | assignment =>
      simp only
      cases assignment finish tokens <;> simp

end

/-! ## What is read derives -/

theorem parameters_sound {finish : Position} {tokens rest : List Token} {names : List String}
    (read : (parameters finish tokens).reads? = some (names, rest)) :
    ∃ used, tokens = used ++ rest ∧ Parameters used names := by
  rw [parameters_reads?] at read
  split at read
  · next closing closed =>
      cases read
      obtain ⟨paren, isClose, rfl⟩ := expect_sound closed
      exact ⟨[paren], rfl, .none isClose⟩
  · obtain ⟨⟨name, middle⟩, readName, goesOn⟩ := Option.bind_eq_some_iff.mp read
    obtain ⟨⟨more, after⟩, separated, finishes⟩ := Option.bind_eq_some_iff.mp goesOn
    obtain ⟨token, named, rfl⟩ := expectIdent_sound readName
    obtain ⟨separator, isSeparator, rfl⟩ := expectSeparator_sound separated
    cases more with
    | false =>
        cases finishes
        exact ⟨[token, separator], rfl, .last named isSeparator⟩
    | true =>
        obtain ⟨⟨others, last⟩, readOthers, same⟩ := Option.map_eq_some_iff.mp finishes
        cases same
        obtain ⟨used, rfl, derived⟩ := parameters_sound readOthers
        exact ⟨token :: separator :: used, rfl, .more named isSeparator derived⟩
termination_by tokens.length

theorem function_sound {finish : Position} {tokens rest : List Token} {value : FunctionDecl}
    (read : (function finish tokens).reads? = some (value, rest)) :
    ∃ used, tokens = used ++ rest ∧ Grammar.Function used value ∧
      Statement.elsesNearest value.body = true := by
  rw [function_reads?] at read
  obtain ⟨⟨_, _⟩, readWord, read⟩ := Option.bind_eq_some_iff.mp read
  obtain ⟨⟨name, _⟩, readName, read⟩ := Option.bind_eq_some_iff.mp read
  obtain ⟨⟨_, _⟩, opened, read⟩ := Option.bind_eq_some_iff.mp read
  obtain ⟨⟨names, _⟩, readNames, read⟩ := Option.bind_eq_some_iff.mp read
  obtain ⟨⟨_, _⟩, braced, read⟩ := Option.bind_eq_some_iff.mp read
  obtain ⟨⟨body, _⟩, readBody, same⟩ := Option.map_eq_some_iff.mp read
  cases same
  obtain ⟨word, isWord, rfl⟩ := expect_sound readWord
  obtain ⟨token, named, rfl⟩ := expectIdent_sound readName
  obtain ⟨opening, isOpen, rfl⟩ := expect_sound opened
  obtain ⟨usedNames, rfl, derivedNames⟩ := parameters_sound readNames
  obtain ⟨brace, isBrace, rfl⟩ := expect_sound braced
  obtain ⟨usedBody, rfl, derivedBody, nearest⟩ := blockTail_sound readBody
  exact ⟨word :: token :: opening :: (usedNames ++ brace :: usedBody), by simp,
    .define isWord named isOpen derivedNames isBrace derivedBody, nearest⟩

/-- What is left of the tokens after a program begins with the end of the text. -/
theorem program_sound {finish : Position} {tokens rest : List Token} {value : Program}
    (read : (program finish tokens).reads? = some (value, rest)) :
    ∃ used, tokens = used ++ rest ∧ Grammar.Program used value ∧ value.elseNearest = true ∧
      headKind rest = .finish := by
  rw [program_reads?] at read
  cases head : ItemHead.ofKind (headKind tokens) with
  | finish =>
      simp only [head] at read
      cases read
      have atEnd : headKind tokens = .finish := by
        generalize headKind tokens = kind at head
        cases kind <;> first | rfl | cases head
      exact ⟨[], rfl, .nil, rfl, atEnd⟩
  | other =>
      simp only [head] at read
      cases read
  | function =>
      simp only [head] at read
      obtain ⟨⟨first, middle⟩, readFirst, goesOn⟩ := Option.bind_eq_some_iff.mp read
      obtain ⟨⟨others, _⟩, readOthers, same⟩ := Option.map_eq_some_iff.mp goesOn
      cases same
      have shorter := Reply.length_lt_of_reads? readFirst
      obtain ⟨used, rfl, derived, nearest⟩ := function_sound readFirst
      obtain ⟨usedOthers, rfl, derivedOthers, nearestOthers, atEnd⟩ := program_sound readOthers
      refine ⟨used ++ usedOthers, by simp, .function derived derivedOthers, ?_, atEnd⟩
      simp only [Program.elseNearest, List.all_cons, nearest, Bool.true_and]
      exact nearestOthers
  | assignment =>
      simp only [head] at read
      obtain ⟨⟨first, middle⟩, readFirst, goesOn⟩ := Option.bind_eq_some_iff.mp read
      obtain ⟨⟨others, _⟩, readOthers, same⟩ := Option.map_eq_some_iff.mp goesOn
      cases same
      have shorter := Reply.length_lt_of_reads? readFirst
      obtain ⟨used, rfl, derived⟩ := assignment_sound readFirst
      obtain ⟨usedOthers, rfl, derivedOthers, nearestOthers, atEnd⟩ := program_sound readOthers
      exact ⟨used ++ usedOthers, by simp, .assignment derived derivedOthers, nearestOthers, atEnd⟩
termination_by tokens.length

/-! ## What derives is read -/

theorem parameters_complete {finish : Position} {tokens : List Token} {names : List String}
    (derived : Parameters tokens names) (rest : List Token) :
    (parameters finish (tokens ++ rest)).reads? = some (names, rest) := by
  induction derived with
  | none isClose =>
      rw [parameters_reads?, List.cons_append, expect_cons isClose]
      rfl
  | last named isClose =>
      rw [parameters_reads?, List.cons_append, expect_eq_none (by simp [named.kind_eq])]
      simp only [List.cons_append, List.nil_append, expectIdent_cons named, Option.bind_some,
        expectSeparator_closeParen isClose]
      rfl
  | more named isComma _ ih =>
      rw [parameters_reads?, List.cons_append, expect_eq_none (by simp [named.kind_eq])]
      simp only [List.cons_append, expectIdent_cons named, Option.bind_some,
        expectSeparator_comma isComma, if_true, ih, Option.map_some]

theorem function_complete {finish : Position} {tokens : List Token} {value : FunctionDecl}
    (derived : Grammar.Function tokens value)
    (nearest : Statement.elsesNearest value.body = true) (rest : List Token) :
    (function finish (tokens ++ rest)).reads? = some (value, rest) := by
  cases derived with
  | define isWord named isOpen derivedNames isBrace derivedBody =>
      rw [function_reads?]
      simp only [List.cons_append, expect_cons isWord, Option.bind_some, expectIdent_cons named,
        expect_cons isOpen]
      rw [List.append_assoc, parameters_complete derivedNames]
      simp only [Option.bind_some, List.cons_append, expect_cons isBrace,
        blockTail_complete derivedBody nearest rest, Option.map_some]

theorem itemHead_function {tokens : List Token} {value : FunctionDecl}
    (derived : Grammar.Function tokens value) (rest : List Token) :
    ItemHead.ofKind (headKind (tokens ++ rest)) = .function := by
  cases derived with
  | define isWord =>
      rw [List.cons_append, headKind_cons, isWord]
      rfl

theorem itemHead_assignment {tokens : List Token} {binding : Assignment}
    (derived : Assigns tokens binding) (rest : List Token) :
    ItemHead.ofKind (headKind (tokens ++ rest)) = .assignment := by
  cases derived with
  | declare isWord =>
      rw [List.cons_append, headKind_cons, isWord]
      rfl
  | rebind named =>
      rw [List.cons_append, headKind_cons, named.kind_eq]
      rfl

theorem program_complete {finish : Position} {tokens : List Token} {value : Program}
    (derived : Grammar.Program tokens value) (nearest : value.elseNearest = true) :
    (program finish tokens).reads? = some (value, []) := by
  induction derived with
  | nil =>
      rw [program_reads?]
      rfl
  | @function tokens rest first others derivedFunction _ ih =>
      simp only [Program.elseNearest, List.all_cons, Bool.and_eq_true] at nearest
      rw [program_reads?, itemHead_function derivedFunction rest]
      simp only [function_complete derivedFunction nearest.1 rest, Option.bind_some,
        ih nearest.2, Option.map_some]
  | @assignment tokens rest binding others derivedBinding _ ih =>
      rw [program_reads?, itemHead_assignment derivedBinding rest]
      simp only [assignment_complete derivedBinding, Option.bind_some, ih nearest,
        Option.map_some]

end StructuredShell.Parser

namespace StructuredShell.TokenStream

open StructuredShell.Parser

/-! ## Whole token streams -/

theorem ofTokens_append_finish (tokens : List Token) {last : Token} (isEnd : last.kind = .finish) :
    TokenStream.ofTokens (tokens ++ [last]) = ⟨tokens, last.position⟩ := by
  simp [TokenStream.ofTokens, isEnd]

/-- A token list with one end, at its end, gives a program exactly when its reader does. -/
theorem program_eq_ok_iff (tokens : List Token) {last : Token} (isEnd : last.kind = .finish)
    (program : Program) :
    (TokenStream.ofTokens (tokens ++ [last])).program.1 = .ok program ↔
      ∃ rest, (Parser.program last.position tokens).reads? = some (program, rest) := by
  rw [ofTokens_append_finish tokens isEnd, TokenStream.program, TokenStream.read]
  cases Parser.program last.position tokens with
  | ok value rest shorter => simp
  | fail error stopped => simp

/-- Which programs are read from a list of tokens: those it derives with every `else` at the nearest
conditional. -/
theorem program_eq_ok_iff_nearest (tokens : List Token) (last : Token)
    (noEnd : ∀ token ∈ tokens, token.kind ≠ .finish) (isEnd : last.kind = .finish)
    (program : Program) :
    (TokenStream.ofTokens (tokens ++ [last])).program.1 = .ok program ↔
      Grammar.Program tokens program ∧ program.elseNearest = true := by
  rw [program_eq_ok_iff tokens isEnd]
  constructor
  · intro found
    obtain ⟨rest, read⟩ := found
    obtain ⟨used, rfl, derived, nearest, atEnd⟩ := program_sound read
    match rest with
    | [] => exact ⟨by simpa using derived, nearest⟩
    | token :: tail => exact absurd atEnd (noEnd token (by simp))
  · intro found
    obtain ⟨derived, nearest⟩ := found
    exact ⟨[], program_complete derived nearest⟩

/-- The reader accepts exactly what the grammar derives. A program is read from a list of tokens if
and only if it is the tree of a derivation of them in which every `else` belongs to the nearest
conditional, and every list that has a derivation is accepted. Positions play no part, and neither
do the literals of tokens whose kind asks for none. -/
theorem program_eq_ok_iff_derives (tokens : List Token) (last : Token)
    (noEnd : ∀ token ∈ tokens, token.kind ≠ .finish) (isEnd : last.kind = .finish) :
    (∀ program, (TokenStream.ofTokens (tokens ++ [last])).program.1 = .ok program ↔
      Grammar.Program tokens program ∧ program.elseNearest = true) ∧
    ((∃ program, (TokenStream.ofTokens (tokens ++ [last])).program.1 = .ok program) ↔
      ∃ program, Grammar.Program tokens program) := by
  have exact_iff := program_eq_ok_iff_nearest tokens last noEnd isEnd
  refine ⟨exact_iff, ?_, ?_⟩
  · intro found
    obtain ⟨program, read⟩ := found
    exact ⟨program, ((exact_iff program).mp read).1⟩
  · intro found
    obtain ⟨_, derived⟩ := found
    obtain ⟨program, derived, nearest⟩ := derived.exists_nearest
    exact ⟨program, (exact_iff program).mpr ⟨derived, nearest⟩⟩

/-- The tokens of a function whose body has two conditionals and one `else`. -/
def nestedConditionals : List Token := [
  ⟨.funcWord, none, ⟨1, 1⟩⟩, ⟨.ident, some (.text "f"), ⟨1, 6⟩⟩, ⟨.openParen, none, ⟨1, 7⟩⟩,
  ⟨.closeParen, none, ⟨1, 8⟩⟩, ⟨.openBrace, none, ⟨1, 10⟩⟩,
  ⟨.ifWord, none, ⟨2, 3⟩⟩, ⟨.openParen, none, ⟨2, 6⟩⟩, ⟨.trueWord, none, ⟨2, 7⟩⟩,
  ⟨.closeParen, none, ⟨2, 11⟩⟩,
  ⟨.ifWord, none, ⟨2, 13⟩⟩, ⟨.openParen, none, ⟨2, 16⟩⟩, ⟨.falseWord, none, ⟨2, 17⟩⟩,
  ⟨.closeParen, none, ⟨2, 22⟩⟩, ⟨.openBrace, none, ⟨2, 24⟩⟩, ⟨.closeBrace, none, ⟨2, 25⟩⟩,
  ⟨.elseWord, none, ⟨2, 27⟩⟩, ⟨.openBrace, none, ⟨2, 32⟩⟩, ⟨.closeBrace, none, ⟨2, 33⟩⟩,
  ⟨.closeBrace, none, ⟨3, 1⟩⟩]

theorem program_eq_ok_iff_derives_nested :
    (∀ token ∈ nestedConditionals, token.kind ≠ .finish) ∧
    Grammar.Program nestedConditionals
      ⟨[], [⟨"f", [], [.conditional (.constant true)
        (.conditional (.constant false) (.block []) (.otherwise (.block []))) .absent]⟩]⟩ := by
  have noEnd : ∀ token ∈ nestedConditionals, token.kind ≠ .finish := by decide
  have exact_iff :=
    (program_eq_ok_iff_derives nestedConditionals ⟨.finish, none, ⟨3, 2⟩⟩ noEnd rfl).1
  refine ⟨noEnd, ((exact_iff _).mp ?_).1⟩
  cbv

end StructuredShell.TokenStream
