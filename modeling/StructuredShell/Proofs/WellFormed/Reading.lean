import StructuredShell.Proofs.Lexing.Scan
import StructuredShell.Proofs.WellFormed.Trees

/-!
# Trees of source texts

Whatever derives from the tokens of a text is well-formed. The grammar alone does not say so: that
the texts of an environment balance, and that the reader of tokens meets the end of an environment
where the reader of characters does, comes from the rules by which the tokens were found. Each rule
of the grammar is followed along those rules, from one state of the reading loop to another.
-/

set_option autoImplicit false

namespace StructuredShell

open Lexer (Delimiter Follows Interrupts RawBlock Scan Spells Splice Stops isSpacing staysInCode)
open Grammar (Named)

/-! ## Literals -/

theorem Lexer.Spells.isName {name : String} {spelling : List Char}
    (spells : Spells .ident (some (.text name)) spelling) : IsName name := by
  cases spells with
  | ident isWord free => exact ⟨by rwa [Text.isWord, String.toList_ofList], free⟩

theorem Lexer.Spells.number_bounds {value : Int} {spelling : List Char}
    (spells : Spells .number (some (.number value)) spelling) : 0 ≤ value ∧ value ≤ 2 ^ 63 - 1 := by
  cases spells with
  | number _ _ small =>
      rw [Lexer.largestNumber] at small
      omega

theorem Lexer.Spells.text_unquoted {text : String} {spelling : List Char}
    (spells : Spells .string (some (.text text)) spelling) : '"' ∉ text.toList := by
  cases spells with
  | string absent => rwa [String.toList_ofList]

/-! ## Environments -/

variable {splices : List Splice} {more tokens : List Token}

theorem Lexer.Follows.named {token : Token} {name : String}
    (follows : Follows ⟨.code, splices⟩ (token :: more)) (named : Named .ident token name) :
    IsName name ∧ Follows ⟨.code, splices⟩ more := by
  obtain ⟨⟨spelling, spells⟩, further⟩ := follows.next named.kind_eq rfl
  rw [named.literal_eq] at spells
  exact ⟨spells.isName, further⟩

theorem startsShell_of_interrupts {fragments : List Fragment} {block : RawBlock}
    {position : Position} {source : List Char} (derived : Grammar.Environment tokens fragments)
    (scanned : Scan ⟨.body block, splices⟩ position source (tokens ++ more))
    (interrupts : Interrupts block.delimiter block.pending source) :
    Fragment.startsShell fragments = false := by
  cases derived with
  | nil => rfl
  | text named => exact absurd named.kind_eq (scanned.not_text interrupts)
  | splice => rfl

theorem unblank_of_stops {fragments : List Fragment} {block : RawBlock} {position : Position}
    {source : List Char} (derived : Grammar.Environment tokens fragments)
    (scanned : Scan ⟨.body block, splices⟩ position source (tokens ++ more))
    (stops : Stops isSpacing source) :
    ∀ text rest, fragments = .shell text :: rest → Stops isSpacing text.toList := by
  rintro text rest rfl
  cases derived with
  | text named =>
      obtain ⟨taken, rest, _, _, rfl, nonempty, isText, -⟩ := scanned.text_cons named.kind_eq
      obtain rfl : text = String.ofList taken := by
        simpa [named.literal_eq] using isText
      rw [String.toList_ofList]
      match taken with
      | [] => exact absurd rfl nonempty
      | c :: taken => exact Lexer.stops_cons.mpr (Lexer.stops_cons.mp stops)

/-- An environment that is read up to its closing delimiter fits between its delimiters. -/
theorem fit_of_closed {fragments : List Fragment} {delimiter : Delimiter} {start : Position}
    {position next : Position} {source rest : List Char} {closing : Token} {left : Nat}
    (derived : Grammar.Environment tokens fragments)
    (scanned : Scan ⟨.body ⟨delimiter, start, 0⟩, splices⟩ position source
      (tokens ++ closing :: more))
    (stops : Stops isSpacing source) (runs : Fragment.Runs delimiter 0 fragments left)
    (scannedClose : Scan ⟨.body ⟨delimiter, start, left⟩, splices⟩ next rest (closing :: more))
    (isClose : closing.kind = delimiter.closeKind) :
    Fragment.Fit delimiter fragments ∧ Follows ⟨.code, splices⟩ more := by
  obtain ⟨balanced, further⟩ := scannedClose.leave isClose
  obtain rfl : left = 0 := balanced
  exact ⟨Fragment.fit_iff_runs.mpr ⟨runs, unblank_of_stops derived scanned stops⟩, further⟩

/-! ## Values -/

theorem sumSign_stays {kind : Kind} {operator : ArithOp} (isSign : Grammar.SumSign kind operator) :
    staysInCode kind = true := by
  cases isSign <;> rfl

theorem productSign_stays {kind : Kind} {operator : ArithOp}
    (isSign : Grammar.ProductSign kind operator) : staysInCode kind = true := by
  cases isSign <;> rfl

mutual

theorem expression_wellFormed {tokens more : List Token} {value : Expr} {splices : List Splice}
    (derived : Grammar.Expression tokens value)
    (follows : Follows ⟨.code, splices⟩ (tokens ++ more)) :
    value.WellFormed ∧ Follows ⟨.code, splices⟩ more :=
  match derived with
  | .term derivedTerm => term_wellFormed derivedTerm follows
  | .sum derivedLeft isSign derivedRight => by
      rw [List.append_assoc] at follows
      obtain ⟨wellFormedLeft, followsSign⟩ := expression_wellFormed derivedLeft follows
      have followsRight := (followsSign.next rfl (sumSign_stays isSign)).2
      obtain ⟨wellFormedRight, further⟩ := term_wellFormed derivedRight followsRight
      exact ⟨⟨wellFormedLeft, wellFormedRight⟩, further⟩

theorem term_wellFormed {tokens more : List Token} {value : Expr} {splices : List Splice}
    (derived : Grammar.Term tokens value) (follows : Follows ⟨.code, splices⟩ (tokens ++ more)) :
    value.WellFormed ∧ Follows ⟨.code, splices⟩ more :=
  match derived with
  | .factor derivedFactor => factor_wellFormed derivedFactor follows
  | .product derivedLeft isSign derivedRight => by
      rw [List.append_assoc] at follows
      obtain ⟨wellFormedLeft, followsSign⟩ := term_wellFormed derivedLeft follows
      have followsRight := (followsSign.next rfl (productSign_stays isSign)).2
      obtain ⟨wellFormedRight, further⟩ := factor_wellFormed derivedRight followsRight
      exact ⟨⟨wellFormedLeft, wellFormedRight⟩, further⟩

theorem factor_wellFormed {tokens more : List Token} {value : Expr} {splices : List Splice}
    (derived : Grammar.Factor tokens value) (follows : Follows ⟨.code, splices⟩ (tokens ++ more)) :
    value.WellFormed ∧ Follows ⟨.code, splices⟩ more :=
  match derived with
  | .number isNumber hasValue => by
      obtain ⟨⟨spelling, spells⟩, further⟩ := follows.next isNumber rfl
      rw [hasValue] at spells
      exact ⟨spells.number_bounds, further⟩
  | .text named => by
      obtain ⟨⟨spelling, spells⟩, further⟩ := follows.next named.kind_eq rfl
      rw [named.literal_eq] at spells
      exact ⟨spells.text_unquoted, further⟩
  | .var named => follows.named named
  | .call named isOpen derivedArguments => by
      obtain ⟨isName, followsOpen⟩ := follows.named named
      obtain ⟨wellFormed, further⟩ :=
        arguments_wellFormed derivedArguments (followsOpen.next isOpen rfl).2
      exact ⟨⟨isName, wellFormed⟩, further⟩
  | .group isOpen derivedValue isClose => by
      rw [List.cons_append, List.append_assoc] at follows
      obtain ⟨wellFormed, followsClose⟩ :=
        expression_wellFormed derivedValue (follows.next isOpen rfl).2
      exact ⟨wellFormed, (followsClose.next isClose rfl).2⟩
  | .raw isDollar isOpen derivedFragments isClose => by
      rw [List.cons_append, List.cons_append, List.append_assoc] at follows
      have announces := congrArg Delimiter.ofTrigger? isDollar
      obtain ⟨start, position, source, stops, scanned⟩ := follows.enter announces
      obtain ⟨wellFormed, left, next, rest, runs, scannedClose⟩ :=
        environment_wellFormed derivedFragments scanned
      obtain ⟨fit, further⟩ :=
        fit_of_closed derivedFragments scanned stops runs scannedClose isClose
      exact ⟨⟨fit, wellFormed⟩, further⟩

theorem arguments_wellFormed {tokens more : List Token} {values : List Expr}
    {splices : List Splice} (derived : Grammar.Arguments tokens values)
    (follows : Follows ⟨.code, splices⟩ (tokens ++ more)) :
    Expr.AllWellFormed values ∧ Follows ⟨.code, splices⟩ more :=
  match derived with
  | .none isClose => ⟨trivial, (follows.next isClose rfl).2⟩
  | .last derivedValue isClose => by
      rw [List.append_assoc] at follows
      obtain ⟨wellFormed, followsClose⟩ := expression_wellFormed derivedValue follows
      exact ⟨⟨wellFormed, trivial⟩, (followsClose.next isClose rfl).2⟩
  | .more derivedValue isComma derivedRest => by
      rw [List.append_assoc] at follows
      obtain ⟨wellFormed, followsComma⟩ := expression_wellFormed derivedValue follows
      obtain ⟨wellFormedRest, further⟩ :=
        arguments_wellFormed derivedRest (followsComma.next isComma rfl).2
      exact ⟨⟨wellFormed, wellFormedRest⟩, further⟩

theorem environment_wellFormed {tokens more : List Token} {fragments : List Fragment}
    {block : RawBlock} {splices : List Splice} {position : Position} {source : List Char}
    (derived : Grammar.Environment tokens fragments)
    (scanned : Scan ⟨.body block, splices⟩ position source (tokens ++ more)) :
    Fragment.AllWellFormed fragments ∧ ∃ left next rest,
      Fragment.Runs block.delimiter block.pending fragments left ∧
      Scan ⟨.body { block with pending := left }, splices⟩ next rest more :=
  match derived with
  | .nil => ⟨trivial, block.pending, position, source, .nil, scanned⟩
  | @Grammar.Environment.text token tokens text fragments named derivedRest => by
      obtain ⟨taken, rest, pending, next, rfl, nonempty, isText, level, noSplice, interrupts,
        scannedRest⟩ := scanned.text_cons named.kind_eq
      obtain rfl : text = String.ofList taken := by
        simpa [named.literal_eq] using isText
      obtain ⟨wellFormed, left, last, after, runs, further⟩ :=
        environment_wellFormed derivedRest scannedRest
      have unshelled := startsShell_of_interrupts derivedRest scannedRest interrupts
      refine ⟨wellFormed, left, last, after, .shell ?_ ?_ ?_ unshelled runs, further⟩
      · simpa using nonempty
      · rwa [String.toList_ofList]
      · rwa [String.toList_ofList]
  | .splice isDollar isOpen derivedValue isClose derivedRest => by
      rw [List.cons_append, List.cons_append, List.append_assoc] at scanned
      obtain ⟨start, follows⟩ := scanned.splice_cons isDollar
      obtain ⟨wellFormed, followsClose⟩ := expression_wellFormed derivedValue follows
      obtain ⟨next, rest, scannedRest⟩ := followsClose.resume isClose
      obtain ⟨wellFormedRest, left, last, after, runs, further⟩ :=
        environment_wellFormed derivedRest scannedRest
      exact ⟨⟨wellFormed, wellFormedRest⟩, left, last, after, .splice runs, further⟩

end

/-! ## Conditions -/

theorem relationSign_stays {kind : Kind} {operator : RelOp}
    (isSign : Grammar.RelationSign kind operator) : staysInCode kind = true := by
  cases isSign <;> rfl

mutual

theorem disjunction_wellFormed {tokens more : List Token} {condition : Condition}
    {splices : List Splice} (derived : Grammar.Disjunction tokens condition)
    (follows : Follows ⟨.code, splices⟩ (tokens ++ more)) :
    condition.WellFormed ∧ Follows ⟨.code, splices⟩ more :=
  match derived with
  | .conjunction derivedConjunction => conjunction_wellFormed derivedConjunction follows
  | .either derivedLeft isSign derivedRight => by
      rw [List.append_assoc] at follows
      obtain ⟨wellFormedLeft, followsSign⟩ := disjunction_wellFormed derivedLeft follows
      obtain ⟨wellFormedRight, further⟩ :=
        conjunction_wellFormed derivedRight (followsSign.next isSign rfl).2
      exact ⟨⟨wellFormedLeft, wellFormedRight⟩, further⟩

theorem conjunction_wellFormed {tokens more : List Token} {condition : Condition}
    {splices : List Splice} (derived : Grammar.Conjunction tokens condition)
    (follows : Follows ⟨.code, splices⟩ (tokens ++ more)) :
    condition.WellFormed ∧ Follows ⟨.code, splices⟩ more :=
  match derived with
  | .atom derivedAtom => atom_wellFormed derivedAtom follows
  | .both derivedLeft isSign derivedRight => by
      rw [List.append_assoc] at follows
      obtain ⟨wellFormedLeft, followsSign⟩ := conjunction_wellFormed derivedLeft follows
      obtain ⟨wellFormedRight, further⟩ :=
        atom_wellFormed derivedRight (followsSign.next isSign rfl).2
      exact ⟨⟨wellFormedLeft, wellFormedRight⟩, further⟩

theorem atom_wellFormed {tokens more : List Token} {condition : Condition} {splices : List Splice}
    (derived : Grammar.Atom tokens condition)
    (follows : Follows ⟨.code, splices⟩ (tokens ++ more)) :
    condition.WellFormed ∧ Follows ⟨.code, splices⟩ more :=
  match derived with
  | .isTrue isWord => ⟨trivial, (follows.next isWord rfl).2⟩
  | .isFalse isWord => ⟨trivial, (follows.next isWord rfl).2⟩
  | .group isOpen derivedCondition isClose => by
      rw [List.cons_append, List.append_assoc] at follows
      obtain ⟨wellFormed, followsClose⟩ :=
        disjunction_wellFormed derivedCondition (follows.next isOpen rfl).2
      exact ⟨wellFormed, (followsClose.next isClose rfl).2⟩
  | .comparison derivedLeft isSign derivedRight => by
      rw [List.append_assoc] at follows
      obtain ⟨wellFormedLeft, followsSign⟩ := expression_wellFormed derivedLeft follows
      have followsRight := (followsSign.next rfl (relationSign_stays isSign)).2
      obtain ⟨wellFormedRight, further⟩ := expression_wellFormed derivedRight followsRight
      exact ⟨⟨wellFormedLeft, wellFormedRight⟩, further⟩

end

/-! ## Statements -/

theorem Expr.WellFormed.alone {value : Expr} (wellFormed : value.WellFormed) :
    value.WellFormedAlone := by
  cases value with
  | raw fragments => exact ⟨.inr wellFormed.1, wellFormed.2⟩
  | _ => exact wellFormed

theorem assignment_wellFormed {binding : Assignment} (derived : Grammar.Assigns tokens binding)
    (follows : Follows ⟨.code, splices⟩ (tokens ++ more)) :
    binding.WellFormed ∧ Follows ⟨.code, splices⟩ more := by
  cases derived with
  | declare isWord named isSign derivedValue isEnd =>
      rw [List.cons_append, List.cons_append, List.cons_append, List.append_assoc] at follows
      obtain ⟨isName, followsSign⟩ := (follows.next isWord rfl).2.named named
      obtain ⟨wellFormed, followsEnd⟩ :=
        expression_wellFormed derivedValue (followsSign.next isSign rfl).2
      exact ⟨⟨isName, wellFormed⟩, (followsEnd.next isEnd rfl).2⟩
  | rebind named isSign derivedValue isEnd =>
      rw [List.cons_append, List.cons_append, List.append_assoc] at follows
      obtain ⟨isName, followsSign⟩ := follows.named named
      obtain ⟨wellFormed, followsEnd⟩ :=
        expression_wellFormed derivedValue (followsSign.next isSign rfl).2
      exact ⟨⟨isName, wellFormed⟩, (followsEnd.next isEnd rfl).2⟩

theorem conditionHead_wellFormed {word opening closing : Token} {condition : Condition}
    (isWord : word.kind = .ifWord) (isOpen : opening.kind = .openParen)
    (derived : Grammar.Disjunction tokens condition) (isClose : closing.kind = .closeParen)
    (follows : Follows ⟨.code, splices⟩ (word :: opening :: (tokens ++ closing :: more))) :
    condition.WellFormed ∧ Follows ⟨.code, splices⟩ more := by
  have followsOpen := (follows.next isWord rfl).2
  obtain ⟨wellFormed, followsClose⟩ :=
    disjunction_wellFormed derived (followsOpen.next isOpen rfl).2
  exact ⟨wellFormed, (followsClose.next isClose rfl).2⟩

theorem afterElse_wellFormed {statement : Statement} (wellFormed : statement.WellFormed) :
    (Grammar.afterElse statement).WellFormed := by
  cases statement with
  | conditional condition body alternative => exact wellFormed
  | _ => exact ⟨wellFormed, rfl⟩

mutual

theorem statement_wellFormed {tokens more : List Token} {statement : Statement}
    {splices : List Splice} (derived : Grammar.Statement tokens statement)
    (nearest : statement.elseNearest = true)
    (follows : Follows ⟨.code, splices⟩ (tokens ++ more)) :
    statement.WellFormed ∧ Follows ⟨.code, splices⟩ more :=
  match derived with
  | .assignment derivedBinding => assignment_wellFormed derivedBinding follows
  | .returnValue isWord derivedValue isEnd => by
      rw [List.cons_append, List.append_assoc] at follows
      obtain ⟨wellFormed, followsEnd⟩ :=
        expression_wellFormed derivedValue (follows.next isWord rfl).2
      exact ⟨wellFormed, (followsEnd.next isEnd rfl).2⟩
  | .expression derivedValue isEnd => by
      rw [List.append_assoc] at follows
      obtain ⟨wellFormed, followsEnd⟩ := expression_wellFormed derivedValue follows
      exact ⟨wellFormed.alone, (followsEnd.next isEnd rfl).2⟩
  | .raw isWord isOpen derivedFragments isClose isEnding => by
      rw [List.cons_append, List.cons_append, List.append_assoc, List.cons_append] at follows
      have announces := congrArg Delimiter.ofTrigger? isWord
      obtain ⟨start, position, source, stops, scanned⟩ := follows.enter announces
      obtain ⟨wellFormed, left, next, rest, runs, scannedClose⟩ :=
        environment_wellFormed derivedFragments scanned
      obtain ⟨fit, further⟩ :=
        fit_of_closed derivedFragments scanned stops runs scannedClose isClose
      refine ⟨⟨.inl fit, wellFormed⟩, ?_⟩
      rcases isEnding with rfl | ⟨semicolon, isEnd, rfl⟩
      · exact further
      · exact (further.next isEnd rfl).2
  | .block isOpen derivedStatements =>
      statements_wellFormed derivedStatements nearest (follows.next isOpen rfl).2
  | .conditional isWord isOpen derivedCondition isClose derivedBody => by
      rw [List.cons_append, List.cons_append, List.append_assoc, List.cons_append] at follows
      simp only [Statement.elseNearest, Bool.and_eq_true] at nearest
      obtain ⟨wellFormedCondition, followsBody⟩ :=
        conditionHead_wellFormed isWord isOpen derivedCondition isClose follows
      obtain ⟨wellFormedBody, further⟩ := statement_wellFormed derivedBody nearest.1.1 followsBody
      exact ⟨⟨wellFormedCondition, wellFormedBody, trivial, .inl rfl⟩, further⟩
  | .conditionalElse isWord isOpen derivedCondition isClose derivedBody isElse derivedOther => by
      rw [List.cons_append, List.cons_append, List.append_assoc, List.cons_append,
        List.append_assoc] at follows
      simp only [Statement.elseNearest, afterElse_elseNearest, afterElse_isAbsent, Bool.and_eq_true,
        Bool.false_or, Bool.not_eq_true'] at nearest
      obtain ⟨wellFormedCondition, followsBody⟩ :=
        conditionHead_wellFormed isWord isOpen derivedCondition isClose follows
      obtain ⟨wellFormedBody, followsElse⟩ :=
        statement_wellFormed derivedBody nearest.1.1 followsBody
      obtain ⟨wellFormedOther, further⟩ :=
        statement_wellFormed derivedOther nearest.1.2 (followsElse.next isElse rfl).2
      exact ⟨⟨wellFormedCondition, wellFormedBody, afterElse_wellFormed wellFormedOther,
        .inr nearest.2⟩, further⟩

theorem statements_wellFormed {tokens more : List Token} {statements : List Statement}
    {splices : List Splice} (derived : Grammar.Statements tokens statements)
    (nearest : Statement.elsesNearest statements = true)
    (follows : Follows ⟨.code, splices⟩ (tokens ++ more)) :
    Statement.AllWellFormed statements ∧ Follows ⟨.code, splices⟩ more :=
  match derived with
  | .nil isClose => ⟨trivial, (follows.next isClose rfl).2⟩
  | .cons derivedStatement derivedRest => by
      rw [List.append_assoc] at follows
      simp only [Statement.elsesNearest, Bool.and_eq_true] at nearest
      obtain ⟨wellFormed, followsRest⟩ := statement_wellFormed derivedStatement nearest.1 follows
      obtain ⟨wellFormedRest, further⟩ := statements_wellFormed derivedRest nearest.2 followsRest
      exact ⟨⟨wellFormed, wellFormedRest⟩, further⟩

end

/-! ## Programs -/

theorem parameters_wellFormed {names : List String} (derived : Grammar.Parameters tokens names)
    (follows : Follows ⟨.code, splices⟩ (tokens ++ more)) :
    (∀ name ∈ names, IsName name) ∧ Follows ⟨.code, splices⟩ more := by
  induction derived with
  | none isClose => exact ⟨by simp, (follows.next isClose rfl).2⟩
  | last named isClose =>
      obtain ⟨isName, followsClose⟩ := follows.named named
      exact ⟨by simpa using isName, (followsClose.next isClose rfl).2⟩
  | more named isComma _ ih =>
      obtain ⟨isName, followsComma⟩ := follows.named named
      obtain ⟨areNames, further⟩ := ih (followsComma.next isComma rfl).2
      exact ⟨by simpa using ⟨isName, areNames⟩, further⟩

theorem function_wellFormed {function : FunctionDecl} (derived : Grammar.Function tokens function)
    (nearest : Statement.elsesNearest function.body = true)
    (follows : Follows ⟨.code, splices⟩ (tokens ++ more)) :
    function.WellFormed ∧ Follows ⟨.code, splices⟩ more := by
  cases derived with
  | define isWord named isOpen derivedNames isBrace derivedBody =>
      rw [List.cons_append, List.cons_append, List.cons_append, List.append_assoc,
        List.cons_append] at follows
      obtain ⟨isName, followsOpen⟩ := (follows.next isWord rfl).2.named named
      obtain ⟨areNames, followsBrace⟩ :=
        parameters_wellFormed derivedNames (followsOpen.next isOpen rfl).2
      obtain ⟨wellFormed, further⟩ :=
        statements_wellFormed derivedBody nearest (followsBrace.next isBrace rfl).2
      exact ⟨⟨isName, areNames, wellFormed⟩, further⟩

theorem program_wellFormed {program : Program} (derived : Grammar.Program tokens program)
    (nearest : program.elseNearest = true)
    (follows : Follows ⟨.code, splices⟩ (tokens ++ more)) : program.WellFormed := by
  induction derived with
  | nil => exact ⟨by simp, by simp⟩
  | function derivedFunction _ ih =>
      rw [List.append_assoc] at follows
      simp only [Program.elseNearest, List.all_cons, Bool.and_eq_true] at nearest
      obtain ⟨wellFormed, further⟩ := function_wellFormed derivedFunction nearest.1 follows
      obtain ⟨globals, functions⟩ := ih nearest.2 further
      exact ⟨globals, by simpa using ⟨wellFormed, functions⟩⟩
  | assignment derivedBinding _ ih =>
      rw [List.append_assoc] at follows
      obtain ⟨wellFormed, further⟩ := assignment_wellFormed derivedBinding follows
      obtain ⟨globals, functions⟩ := ih nearest further
      exact ⟨by simpa using ⟨wellFormed, globals⟩, functions⟩

end StructuredShell
