import StructuredShell.Proofs.Prefixes.Foretold

/-!
# Errors in values

The readers of values as recognizers, and what they decide: an error in a value stands at the first
token that no value could have there, and every kind that it names could stand there.
-/

set_option autoImplicit false

namespace StructuredShell.Parser

open Grammar Recognizer

/-! ## The readers as recognizers -/

section

variable {finish : Position} {tokens : List Token}

def sumKinds : List Kind := [.plus, .minus]

def productKinds : List Kind := [.star, .slash, .percent]

/-- The terms after the first one. What they are joined to plays no part. -/
def sums : Recognizer := .of fun finish tokens => sumTail finish (.number 0) tokens

/-- The factors after the first one. -/
def products : Recognizer := .of fun finish tokens => productTail finish (.number 0) tokens

/-- What may stand after a name: the arguments of a call. -/
def callEnd : Recognizer :=
  onHead [.openParen] ((oneOf [.openParen]).followedBy (.of arguments)) stay

/-- What stands after an item of a parenthesised list whose items go on in a given way. -/
def separator (more : Recognizer) : Recognizer :=
  onHead [.comma] ((oneOf [.comma]).followedBy more) <|
    onHead [.closeParen] (oneOf [.closeParen]) (refuse [.comma, .closeParen])

theorem sumOperator?_eq_none_iff {kind : Kind} : sumOperator? kind = none ↔ kind ∉ sumKinds := by
  cases kind <;> decide

theorem productOperator?_eq_none_iff {kind : Kind} :
    productOperator? kind = none ↔ kind ∉ productKinds := by
  cases kind <;> decide

theorem sumTail_outcome (left : Expr) (finish : Position) (tokens : List Token) :
    (sumTail finish left tokens).outcome =
      onHead sumKinds ((oneOf sumKinds).followedBy ((of term).followedBy sums)) stay
        finish tokens := by
  refine loop_eq (fun left => of fun finish tokens => sumTail finish left tokens) (by decide)
    Reply.length_lt_of_outcome ?_ ?_ (.number 0) left finish tokens
  · intro joined finish tokens noSign
    have stopped : (sumTail finish joined tokens).reads? = some (joined, tokens) :=
      sumTail_stop (sumOperator?_eq_none_iff.mpr noSign)
    exact Reply.outcome_eq_ok_iff.mpr ⟨joined, stopped⟩
  · intro joined finish token rest isSign
    cases found : sumOperator? token.kind with
    | none => exact absurd isSign (sumOperator?_eq_none_iff.mp found)
    | some operator =>
        cases read : term finish rest with
        | fail error stopped => exact ⟨joined, by simp [of, followedBy, sumTail, found, read]⟩
        | ok right after shorter =>
            exact ⟨.binary operator joined right, by simp [of, followedBy, sumTail, found, read]⟩

theorem sums_eq :
    sums = onHead sumKinds ((oneOf sumKinds).followedBy ((of term).followedBy sums)) stay := by
  funext finish tokens
  exact sumTail_outcome _ finish tokens

theorem of_expression : of expression = (of term).followedBy sums := by
  funext finish tokens
  simp only [of, followedBy, expression]
  cases term finish tokens with
  | fail error stopped => rfl
  | ok left rest shorter => simp [sumTail_outcome, ← sums_eq]

theorem productTail_outcome (left : Expr) (finish : Position) (tokens : List Token) :
    (productTail finish left tokens).outcome =
      onHead productKinds ((oneOf productKinds).followedBy ((of factor).followedBy products)) stay
        finish tokens := by
  refine loop_eq (fun left => of fun finish tokens => productTail finish left tokens) (by decide)
    Reply.length_lt_of_outcome ?_ ?_ (.number 0) left finish tokens
  · intro joined finish tokens noSign
    have stopped : (productTail finish joined tokens).reads? = some (joined, tokens) :=
      productTail_stop (productOperator?_eq_none_iff.mpr noSign)
    exact Reply.outcome_eq_ok_iff.mpr ⟨joined, stopped⟩
  · intro joined finish token rest isSign
    cases found : productOperator? token.kind with
    | none => exact absurd isSign (productOperator?_eq_none_iff.mp found)
    | some operator =>
        cases read : factor finish rest with
        | fail error stopped => exact ⟨joined, by simp [of, followedBy, productTail, found, read]⟩
        | ok right after shorter =>
            exact ⟨.binary operator joined right,
              by simp [of, followedBy, productTail, found, read]⟩

theorem products_eq :
    products =
      onHead productKinds ((oneOf productKinds).followedBy ((of factor).followedBy products))
        stay := by
  funext finish tokens
  exact productTail_outcome _ finish tokens

theorem of_term : of term = (of factor).followedBy products := by
  funext finish tokens
  simp only [of, followedBy, term]
  cases factor finish tokens with
  | fail error stopped => rfl
  | ok left rest shorter => simp [productTail_outcome, ← products_eq]

theorem not_factorStart_of_other {token : Token} (wellFormed : token.WellFormed)
    (other : FactorHead.ofToken token = .other) : token.kind ∉ factorStart := by
  intro starts
  simp only [factorStart, List.mem_cons, List.not_mem_nil, or_false] at starts
  rcases starts with isNumber | isString | isIdent | isOpen | isDollar
  · obtain ⟨value, carried⟩ := wellFormed.number isNumber
    simp [ofToken_eq_number_iff.mpr ⟨isNumber, carried⟩] at other
  · obtain ⟨text, named⟩ := wellFormed.named isString rfl
    simp [ofToken_eq_text_iff.mpr named] at other
  · obtain ⟨name, named⟩ := wellFormed.named isIdent rfl
    simp [ofToken_eq_name_iff.mpr named] at other
  · simp [ofToken_eq_group_iff.mpr isOpen] at other
  · simp [ofToken_eq_environment_iff.mpr isDollar] at other

theorem factor_outcome (wellFormed : AllWellFormed tokens) :
    (factor finish tokens).outcome =
      onHead [.number, .string] (oneOf [.number, .string])
        (onHead [.ident] ((oneOf [.ident]).followedBy callEnd)
          (onHead [.openParen]
            ((oneOf [.openParen]).followedBy ((of expression).followedBy (oneOf [.closeParen])))
            (onHead [.dollar]
              ((oneOf [.dollar]).followedBy ((oneOf [.openParen]).followedBy
                ((of fragments).followedBy (oneOf [.closeParen]))))
              (refuse factorStart)))) finish tokens := by
  match tokens with
  | [] =>
      rw [factor]
      rfl
  | token :: rest =>
      rw [factor]
      cases head : FactorHead.ofToken token with
      | number value =>
          have isNumber := (ofToken_eq_number_iff.mp head).1
          simp [onHead, oneOf, isNumber]
      | text value =>
          have isString := (ofToken_eq_text_iff.mp head).kind_eq
          simp [onHead, oneOf, isString]
      | name name =>
          have isIdent := (ofToken_eq_name_iff.mp head).kind_eq
          rw [onHead_neg (by simp [isIdent]), onHead_pos (by simp [isIdent]),
            oneOf_followedBy (by simp [isIdent]), callEnd]
          cases found : expect finish .openParen rest with
          | fail _ _ =>
              rw [onHead_of_not_expect found (by decide)]
              rfl
          | ok _ after shorter =>
              rw [onHead_of_expect found]
              simp [of]
      | group =>
          have isOpen := ofToken_eq_group_iff.mp head
          rw [onHead_neg (by simp [isOpen]), onHead_neg (by simp [isOpen]),
            onHead_pos (by simp [isOpen]), oneOf_followedBy (by simp [isOpen]), followedBy, of]
          cases expression finish rest <;> simp [expect_outcome]
      | environment =>
          have isDollar := ofToken_eq_environment_iff.mp head
          rw [onHead_neg (by simp [isDollar]), onHead_neg (by simp [isDollar]),
            onHead_neg (by simp [isDollar]), onHead_pos (by simp [isDollar]),
            oneOf_followedBy (by simp [isDollar])]
          simp only [followedBy, of, ← expect_outcome]
          cases expect finish .openParen rest with
          | fail error stopped => rfl
          | ok _ after shorter =>
              simp only [Reply.outcome_ok]
              cases fragments finish after <;> simp
      | other =>
          have noStart := not_factorStart_of_other (wellFormed token (.head _)) head
          simp only [factorStart, List.mem_cons, List.not_mem_nil, or_false, not_or] at noStart
          simp [onHead, noStart, refuse]

theorem separator_eq (more : Recognizer) :
    separator more finish tokens =
      match expectSeparator finish tokens with
      | .ok true rest _ => more finish rest
      | .ok false rest _ => .ok rest
      | .fail error _ => .error error := by
  match tokens with
  | [] => rfl
  | token :: rest =>
      unfold separator expectSeparator
      by_cases isComma : token.kind = .comma
      · rw [onHead_pos (by simp [isComma]), oneOf_followedBy (by simp [isComma])]
        simp [isComma, Reply.take]
      · rw [onHead_neg (by simp [isComma])]
        by_cases isClose : token.kind = .closeParen
        · rw [onHead_pos (by simp [isClose])]
          simp [isClose, Reply.take, oneOf]
        · rw [onHead_neg (by simp [isClose])]
          simp [isComma, isClose, refuse]

theorem of_arguments :
    of arguments =
      onHead [.closeParen] (oneOf [.closeParen])
        ((of expression).followedBy (separator (of arguments))) := by
  funext finish tokens
  rw [of, arguments]
  cases found : expect finish .closeParen tokens with
  | ok _ rest shorter =>
      rw [onHead_oneOf_of_expect found]
      rfl
  | fail _ _ =>
      rw [onHead_of_not_expect found (by decide)]
      simp only [followedBy, of, separator_eq]
      cases expression finish tokens with
      | fail error stopped => rfl
      | ok argument rest shorter =>
          simp only [Reply.outcome_ok]
          cases expectSeparator finish rest with
          | fail error stopped => rfl
          | ok isComma after shorter' => cases isComma <;> simp

theorem of_spliceTail :
    of spliceTail =
      (oneOf [.openBracket]).followedBy ((of expression).followedBy (oneOf [.closeBracket])) := by
  funext finish tokens
  simp only [of, followedBy, ← expect_outcome, spliceTail]
  cases expect finish .openBracket tokens with
  | fail error stopped => rfl
  | ok _ rest shorter =>
      simp only [Reply.outcome_ok]
      cases expression finish rest <;> simp

theorem fragments_outcome (wellFormed : AllWellFormed tokens) :
    (fragments finish tokens).outcome =
      onHead [.rawText] ((oneOf [.rawText]).followedBy (of fragments))
        (onHead [.dollar] ((oneOf [.dollar]).followedBy ((of spliceTail).followedBy (of fragments)))
          stay) finish tokens := by
  match tokens with
  | [] =>
      rw [fragments]
      rfl
  | token :: rest =>
      rw [fragments]
      cases head : FragmentHead.ofToken token with
      | shell text =>
          have isText := (ofToken_eq_shell_iff.mp head).kind_eq
          rw [onHead_pos (by simp [isText]), oneOf_followedBy (by simp [isText])]
          simp [of]
      | splice =>
          have isDollar := ofToken_eq_splice_iff.mp head
          rw [onHead_neg (by simp [isDollar]), onHead_pos (by simp [isDollar]),
            oneOf_followedBy (by simp [isDollar])]
          simp only [followedBy, of]
          cases spliceTail finish rest <;> simp
      | other =>
          have noText : token.kind ≠ .rawText := by
            intro isText
            obtain ⟨text, named⟩ := (wellFormed token (.head _)).named isText rfl
            simp [ofToken_eq_shell_iff.mpr named] at head
          have noDollar : token.kind ≠ .dollar := by
            intro isDollar
            simp [ofToken_eq_splice_iff.mpr isDollar] at head
          rw [onHead_neg (by simpa using noText), onHead_neg (by simpa using noDollar)]
          rfl

end

/-! ## The languages of values -/

def expressions : Language Token := {tokens | ∃ value, Expression tokens value}

def terms : Language Token := {tokens | ∃ value, Term tokens value}

def factors : Language Token := {tokens | ∃ value, Factor tokens value}

def argumentLists : Language Token := {tokens | ∃ values, Arguments tokens values}

def environments : Language Token := {tokens | ∃ pieces, Environment tokens pieces}

/-- A value inside raw text, after the dollar sign. -/
def splices : Language Token :=
  ofKinds [.openBracket] * (expressions * ofKinds [.closeBracket])

/-- What follows an item of a parenthesised list, given the language of what follows a comma. -/
def separators (items : Language Token) : Language Token :=
  ofKinds [.comma] * items + ofKinds [.closeParen]

theorem factors_le_terms : factors ≤ terms := by
  rintro tokens ⟨value, derived⟩
  exact ⟨value, .factor derived⟩

theorem terms_le_expressions : terms ≤ expressions := by
  rintro tokens ⟨value, derived⟩
  exact ⟨value, .term derived⟩

theorem sums_le :
    ofKinds sumKinds * (terms * after expressions expressions) ≤ after expressions expressions := by
  rintro _ ⟨_, ⟨sign, _, isSign, rfl⟩, _, ⟨right, ⟨second, derived⟩, others, carriesOn, rfl⟩, rfl⟩
  rintro before ⟨first, derivedFirst⟩
  obtain ⟨operator, found⟩ : ∃ operator, sumOperator? sign.kind = some operator := by
    rw [← Option.ne_none_iff_exists', ne_eq, sumOperator?_eq_none_iff, not_not]
    exact isSign
  have isSum := Expression.sum derivedFirst (sumOperator?_eq_some_iff.mp found) derived
  simpa using carriesOn _ ⟨_, isSum⟩

theorem products_le :
    ofKinds productKinds * (factors * after terms terms) ≤ after terms terms := by
  rintro _ ⟨_, ⟨sign, _, isSign, rfl⟩, _, ⟨right, ⟨second, derived⟩, others, carriesOn, rfl⟩, rfl⟩
  rintro before ⟨first, derivedFirst⟩
  obtain ⟨operator, found⟩ : ∃ operator, productOperator? sign.kind = some operator := by
    rw [← Option.ne_none_iff_exists', ne_eq, productOperator?_eq_none_iff, not_not]
    exact isSign
  have isProduct := Term.product derivedFirst (productOperator?_eq_some_iff.mp found) derived
  simpa using carriesOn _ ⟨_, isProduct⟩

theorem literals_le : ofKinds [.number, .string] ≤ factors := by
  rintro _ ⟨token, wellFormed, isLiteral, rfl⟩
  rcases List.mem_pair.mp isLiteral with isNumber | isString
  · obtain ⟨value, carried⟩ := wellFormed.number isNumber
    exact ⟨_, .number isNumber carried⟩
  · obtain ⟨text, named⟩ := wellFormed.named isString rfl
    exact ⟨_, .text named⟩

theorem variables_le : ofKinds [.ident] ≤ factors := by
  rintro _ ⟨token, wellFormed, isIdent, rfl⟩
  obtain ⟨name, named⟩ := wellFormed.named (List.mem_singleton.mp isIdent) rfl
  exact ⟨_, .var named⟩

theorem calls_le : ofKinds [.openParen] * argumentLists ≤ after (ofKinds [.ident]) factors := by
  rintro _ ⟨_, ⟨opening, _, isOpen, rfl⟩, given, ⟨values, derived⟩, rfl⟩
  rintro _ ⟨token, wellFormed, isIdent, rfl⟩
  obtain ⟨name, named⟩ := wellFormed.named (List.mem_singleton.mp isIdent) rfl
  exact ⟨_, .call named (List.mem_singleton.mp isOpen) derived⟩

theorem groups_le :
    ofKinds [.openParen] * (expressions * ofKinds [.closeParen]) ≤ factors := by
  rintro _ ⟨_, ⟨opening, _, isOpen, rfl⟩, _,
    ⟨inner, ⟨value, derived⟩, _, ⟨closing, _, isClose, rfl⟩, rfl⟩, rfl⟩
  exact ⟨_, .group (List.mem_singleton.mp isOpen) derived (List.mem_singleton.mp isClose)⟩

theorem raws_le :
    ofKinds [.dollar] * (ofKinds [.openParen] * (environments * ofKinds [.closeParen])) ≤
      factors := by
  rintro _ ⟨_, ⟨dollar, _, isDollar, rfl⟩, _, ⟨_, ⟨opening, _, isOpen, rfl⟩, _,
    ⟨inner, ⟨pieces, derived⟩, _, ⟨closing, _, isClose, rfl⟩, rfl⟩, rfl⟩, rfl⟩
  exact ⟨_, .raw (List.mem_singleton.mp isDollar) (List.mem_singleton.mp isOpen) derived
    (List.mem_singleton.mp isClose)⟩

theorem closed_le_argumentLists : ofKinds [.closeParen] ≤ argumentLists := by
  rintro _ ⟨closing, _, isClose, rfl⟩
  exact ⟨_, .none (List.mem_singleton.mp isClose)⟩

theorem expressions_mul_separators_le :
    expressions * separators argumentLists ≤ argumentLists := by
  rintro _ ⟨first, ⟨value, derived⟩, _, goesOn, rfl⟩
  rcases goesOn with ⟨_, ⟨comma, _, isComma, rfl⟩, others, ⟨values, derivedOthers⟩, rfl⟩ |
    ⟨closing, _, isClose, rfl⟩
  · exact ⟨_, .more derived (List.mem_singleton.mp isComma) derivedOthers⟩
  · exact ⟨_, .last derived (List.mem_singleton.mp isClose)⟩

theorem nil_mem_callEnds : [] ∈ after (ofKinds [.ident]) factors := by
  intro before isName
  rw [List.append_nil]
  exact variables_le isName

theorem nil_mem_environments : [] ∈ environments := ⟨[], .nil⟩

theorem texts_le : ofKinds [.rawText] * environments ≤ environments := by
  rintro _ ⟨_, ⟨token, wellFormed, isText, rfl⟩, others, ⟨pieces, derived⟩, rfl⟩
  obtain ⟨text, named⟩ := wellFormed.named (List.mem_singleton.mp isText) rfl
  exact ⟨_, .text named derived⟩

theorem splices_le : ofKinds [.dollar] * (splices * environments) ≤ environments := by
  rintro _ ⟨_, ⟨dollar, _, isDollar, rfl⟩, _, ⟨_, ⟨_, ⟨opening, _, isOpen, rfl⟩, _,
    ⟨inner, ⟨value, derived⟩, _, ⟨closing, _, isClose, rfl⟩, rfl⟩, rfl⟩,
    others, ⟨pieces, derivedOthers⟩, rfl⟩, rfl⟩
  refine ⟨.splice value :: pieces, ?_⟩
  simpa using Environment.splice (List.mem_singleton.mp isDollar) (List.mem_singleton.mp isOpen)
    derived (List.mem_singleton.mp isClose) derivedOthers

/-! ## How values may begin -/

theorem begins_factors : Begins factors [] := (begins_one .ident (by decide)).mono variables_le

theorem begins_terms : Begins terms [] := begins_factors.mono factors_le_terms

theorem begins_expressions : Begins expressions [] := begins_terms.mono terms_le_expressions

theorem begins_argumentLists : Begins argumentLists [] :=
  (begins_one .closeParen (by decide)).mono closed_le_argumentLists

theorem begins_closed {language : Language Token} (begins : Begins language []) (kind : Kind)
    (noEnd : kind ≠ .finish) : Begins (language * ofKinds [kind]) [] :=
  begins.mul_left (begins_one kind noEnd)

theorem begins_splices : Begins splices [] :=
  (begins_one .openBracket (by decide)).mul_left
    (begins_closed begins_expressions .closeBracket (by decide))

theorem begins_separators (items : Language Token) : Begins (separators items) [] :=
  (begins_one .closeParen (by decide)).mono le_add_self

/-- Every kind that an error names at the head of a factor begins one. -/
theorem factorStart_viable {token : Token} (wellFormed : token.WellFormed)
    (starts : token.kind ∈ factorStart) : Begins factors [token] := by
  simp only [factorStart, List.mem_cons, List.not_mem_nil, or_false] at starts
  rcases starts with isNumber | isString | isIdent | isOpen | isDollar
  · exact .of_mem (literals_le ⟨token, wellFormed, by simp [isNumber], rfl⟩)
  · exact .of_mem (literals_le ⟨token, wellFormed, by simp [isString], rfl⟩)
  · exact .of_mem (variables_le ⟨token, wellFormed, by simp [isIdent], rfl⟩)
  · have inner := begins_closed begins_expressions .closeParen (by decide)
    exact (begins_with wellFormed (by simp [isOpen]) inner).mono groups_le
  · have inner := begins_closed (.of_mem nil_mem_environments) .closeParen (by decide)
    have opened := (begins_one .openParen (by decide)).mul_left inner
    exact (begins_with wellFormed (by simp [isDollar]) opened).mono raws_le

/-! ## Errors in values -/

theorem separator_foretold {items : Language Token} {more : Recognizer} {finish : Position}
    {tokens : List Token} (wellFormed : AllWellFormed tokens) (ends : Begins items [])
    (goesOn : ∀ rest, rest <:+ tokens → rest.length < tokens.length →
      Foretold items more finish rest) :
    Foretold (separators items) (separator more) finish tokens := by
  refine .onHead wellFormed (fun _ => ?_) fun _ => .onHead wellFormed (fun _ => ?_) fun _ => ?_
  · exact (Foretold.oneOfThen wellFormed (by decide) ends goesOn).mono le_self_add
  · exact (Foretold.oneOf wellFormed (by decide)).mono le_add_self
  · refine .refuse (by decide) ?_
    intro token isWellFormed isExpected
    rcases List.mem_pair.mp isExpected with isComma | isClose
    · exact (begins_with isWellFormed (by simp [isComma]) ends).mono le_self_add
    · exact .of_mem (.inr ⟨token, isWellFormed, by simp [isClose], rfl⟩)

mutual

theorem expression_foretold (finish : Position) (tokens : List Token)
    (wellFormed : AllWellFormed tokens) : Foretold expressions (of expression) finish tokens := by
  rw [of_expression]
  refine (term_foretold finish tokens wellFormed).chain wellFormed terms_le_expressions ?_
  intro rest isRest read
  have shorter := Reply.length_lt_of_outcome read
  refine .loop sums_eq (by decide) begins_terms sums_le Reply.length_lt_of_outcome rest
    (wellFormed.suffix isRest) ?_
  intro later isLater laterShorter
  exact term_foretold finish later (wellFormed.suffix (isLater.trans isRest))
termination_by 4 * tokens.length + 2

theorem term_foretold (finish : Position) (tokens : List Token)
    (wellFormed : AllWellFormed tokens) : Foretold terms (of term) finish tokens := by
  rw [of_term]
  refine (factor_foretold finish tokens wellFormed).chain wellFormed factors_le_terms ?_
  intro rest isRest read
  have shorter := Reply.length_lt_of_outcome read
  refine .loop products_eq (by decide) begins_factors products_le Reply.length_lt_of_outcome rest
    (wellFormed.suffix isRest) ?_
  intro later isLater laterShorter
  exact factor_foretold finish later (wellFormed.suffix (isLater.trans isRest))
termination_by 4 * tokens.length + 1

theorem factor_foretold (finish : Position) (tokens : List Token)
    (wellFormed : AllWellFormed tokens) : Foretold factors (of factor) finish tokens := by
  refine Foretold.congr ?_ wellFormed fun _ _ areWellFormed _ => factor_outcome areWellFormed
  refine .onHead wellFormed (fun _ => ?literal) fun _ => .onHead wellFormed (fun _ => ?name)
    fun _ => .onHead wellFormed (fun _ => ?group) fun _ => .onHead wellFormed (fun _ => ?raw)
    fun _ => ?other
  case literal => exact (Foretold.oneOf wellFormed (by decide)).mono literals_le
  case name =>
    refine (Foretold.oneOfThen wellFormed (by decide) (.of_mem nil_mem_callEnds) ?_).mono
      mul_after_le
    intro rest isRest isShorter
    exact callEnd_foretold finish rest (wellFormed.suffix isRest)
  case group =>
    refine (Foretold.oneOfThen wellFormed (by decide)
      (begins_closed begins_expressions .closeParen (by decide)) ?_).mono groups_le
    intro rest isRest isShorter
    have wellFormed := wellFormed.suffix isRest
    exact (expression_foretold finish rest wellFormed).closedBy wellFormed (by decide)
  case raw =>
    have ends := begins_closed (.of_mem nil_mem_environments) .closeParen (by decide)
    refine (Foretold.oneOfThen wellFormed (by decide)
      ((begins_one .openParen (by decide)).mul_left ends) ?_).mono raws_le
    intro rest isRest isShorter
    have wellFormed := wellFormed.suffix isRest
    refine .oneOfThen wellFormed (by decide) ends ?_
    intro inner isInner isInnerShorter
    have wellFormed := wellFormed.suffix isInner
    exact (fragments_foretold finish inner wellFormed).closedBy wellFormed (by decide)
  case other => exact .refuse (by decide) fun token => factorStart_viable
termination_by 4 * tokens.length

theorem callEnd_foretold (finish : Position) (tokens : List Token)
    (wellFormed : AllWellFormed tokens) :
    Foretold (after (ofKinds [.ident]) factors) callEnd finish tokens := by
  refine .onHead wellFormed (fun _ => ?_) fun _ => .stay nil_mem_callEnds
  refine (Foretold.oneOfThen wellFormed (by decide) begins_argumentLists ?_).mono calls_le
  intro rest isRest isShorter
  exact arguments_foretold finish rest (wellFormed.suffix isRest)
termination_by 4 * tokens.length

theorem arguments_foretold (finish : Position) (tokens : List Token)
    (wellFormed : AllWellFormed tokens) :
    Foretold argumentLists (of arguments) finish tokens := by
  rw [of_arguments]
  refine .onHead wellFormed (fun _ => ?_) fun _ => ?_
  · exact (Foretold.oneOf wellFormed (by decide)).mono closed_le_argumentLists
  · refine ((expression_foretold finish tokens wellFormed).followedBy wellFormed
      (begins_separators argumentLists) ?_).mono expressions_mul_separators_le
    intro rest isRest read
    have shorter := Reply.length_lt_of_outcome read
    have wellFormed := wellFormed.suffix isRest
    refine separator_foretold wellFormed begins_argumentLists ?_
    intro others isOthers isShorter
    exact arguments_foretold finish others (wellFormed.suffix isOthers)
termination_by 4 * tokens.length + 3

theorem spliceTail_foretold (finish : Position) (tokens : List Token)
    (wellFormed : AllWellFormed tokens) : Foretold splices (of spliceTail) finish tokens := by
  rw [of_spliceTail]
  refine .oneOfThen wellFormed (by decide)
    (begins_closed begins_expressions .closeBracket (by decide)) ?_
  intro rest isRest isShorter
  have wellFormed := wellFormed.suffix isRest
  exact (expression_foretold finish rest wellFormed).closedBy wellFormed (by decide)
termination_by 4 * tokens.length

theorem fragments_foretold (finish : Position) (tokens : List Token)
    (wellFormed : AllWellFormed tokens) :
    Foretold environments (of fragments) finish tokens := by
  refine Foretold.congr ?_ wellFormed fun _ _ areWellFormed _ => fragments_outcome areWellFormed
  refine .onHead wellFormed (fun _ => ?text) fun _ => .onHead wellFormed (fun _ => ?splice)
    fun _ => .stay nil_mem_environments
  case text =>
    refine (Foretold.oneOfThen wellFormed (by decide) (.of_mem nil_mem_environments) ?_).mono
      texts_le
    intro rest isRest isShorter
    exact fragments_foretold finish rest (wellFormed.suffix isRest)
  case splice =>
    refine (Foretold.oneOfThen wellFormed (by decide)
      (begins_splices.mul_left (.of_mem nil_mem_environments)) ?_).mono splices_le
    intro rest isRest isShorter
    have wellFormed := wellFormed.suffix isRest
    refine (spliceTail_foretold finish rest wellFormed).followedBy wellFormed
      (.of_mem nil_mem_environments) ?_
    intro others isOthers read
    have shorter := Reply.length_lt_of_outcome read
    exact fragments_foretold finish others (wellFormed.suffix isOthers)
termination_by 4 * tokens.length

end

theorem sums_foretold (finish : Position) (tokens : List Token)
    (wellFormed : AllWellFormed tokens) :
    Foretold (after expressions expressions) sums finish tokens := by
  refine .loop sums_eq (by decide) begins_terms sums_le Reply.length_lt_of_outcome tokens
    wellFormed ?_
  intro rest isRest _
  exact term_foretold finish rest (wellFormed.suffix isRest)

theorem products_foretold (finish : Position) (tokens : List Token)
    (wellFormed : AllWellFormed tokens) :
    Foretold (after terms terms) products finish tokens := by
  refine .loop products_eq (by decide) begins_factors products_le Reply.length_lt_of_outcome tokens
    wellFormed ?_
  intro rest isRest _
  exact factor_foretold finish rest (wellFormed.suffix isRest)

end StructuredShell.Parser
