import StructuredShell.Proofs.Grammar.Reading
import StructuredShell.Syntax.Parser.Expression

/-!
# Values are read as the grammar derives them

What a reader of values takes derives its value, and a list of tokens that derives a value is taken
whole when nothing that follows could carry it on.
-/

set_option autoImplicit false

namespace StructuredShell.Parser

open Grammar

/-! ## The readers without their errors -/

section

variable {finish : Position} {tokens rest : List Token} {left : Expr} {token : Token}

theorem sumOperator?_eq_some_iff {kind : Kind} {operator : ArithOp} :
    sumOperator? kind = some operator ↔ SumSign kind operator := by
  constructor
  · intro found
    unfold sumOperator? at found
    split at found <;> cases found
    · exact .plus
    · exact .minus
  · intro sign
    cases sign <;> rfl

theorem productOperator?_eq_some_iff {kind : Kind} {operator : ArithOp} :
    productOperator? kind = some operator ↔ ProductSign kind operator := by
  constructor
  · intro found
    unfold productOperator? at found
    split at found <;> cases found
    · exact .star
    · exact .slash
    · exact .percent
  · intro sign
    cases sign <;> rfl

theorem expression_reads? :
    (expression finish tokens).reads? =
      (term finish tokens).reads?.bind fun read => (sumTail finish read.1 read.2).reads? := by
  rw [expression]
  split <;> simp_all

theorem sumTail_stop (stops : sumOperator? (headKind tokens) = none) :
    (sumTail finish left tokens).reads? = some (left, tokens) := by
  cases tokens with
  | nil =>
      rw [sumTail]
      rfl
  | cons token rest =>
      rw [sumTail]
      split <;> simp_all

theorem sumTail_sign {operator : ArithOp} (sign : SumSign token.kind operator) :
    (sumTail finish left (token :: rest)).reads? =
      (term finish rest).reads?.bind fun read =>
        (sumTail finish (.binary operator left read.1) read.2).reads? := by
  have found := sumOperator?_eq_some_iff.mpr sign
  rw [sumTail]
  split
  · simp_all
  · next operator' same =>
      rw [found] at same
      cases same
      split <;> simp_all

theorem term_reads? :
    (term finish tokens).reads? =
      (factor finish tokens).reads?.bind fun read => (productTail finish read.1 read.2).reads? := by
  rw [term]
  split <;> simp_all

theorem productTail_stop (stops : productOperator? (headKind tokens) = none) :
    (productTail finish left tokens).reads? = some (left, tokens) := by
  cases tokens with
  | nil =>
      rw [productTail]
      rfl
  | cons token rest =>
      rw [productTail]
      split <;> simp_all

theorem productTail_sign {operator : ArithOp} (sign : ProductSign token.kind operator) :
    (productTail finish left (token :: rest)).reads? =
      (factor finish rest).reads?.bind fun read =>
        (productTail finish (.binary operator left read.1) read.2).reads? := by
  have found := productOperator?_eq_some_iff.mpr sign
  rw [productTail]
  split
  · simp_all
  · next operator' same =>
      rw [found] at same
      cases same
      split <;> simp_all

theorem arguments_reads? :
    (arguments finish tokens).reads? =
      match (expect finish .closeParen tokens).reads? with
      | some read => some ([], read.2)
      | none => (expression finish tokens).reads?.bind fun read =>
        (expectSeparator finish read.2).reads?.bind fun separator =>
          if separator.1 then
            (arguments finish separator.2).reads?.map fun others => (read.1 :: others.1, others.2)
          else some ([read.1], separator.2) := by
  rw [arguments]
  split
  · simp_all
  · split
    · simp_all
    · split <;> simp_all

theorem spliceTail_reads? :
    (spliceTail finish tokens).reads? =
      (expect finish .openBracket tokens).reads?.bind fun opening =>
        (expression finish opening.2).reads?.bind fun read =>
          (expect finish .closeBracket read.2).reads?.map fun closing => (read.1, closing.2) := by
  rw [spliceTail]
  split
  · simp_all
  · split <;> simp_all

theorem ofToken_eq_number_iff {value : Int} :
    FactorHead.ofToken token = .number value ↔
      token.kind = .number ∧ token.literal = some (.number value) := by
  rw [← numberValue?_eq_some_iff, FactorHead.ofToken]
  split <;> (try split) <;> simp_all

theorem ofToken_eq_text_iff {value : String} :
    FactorHead.ofToken token = .text value ↔ Named .string token value := by
  rw [named_iff, FactorHead.ofToken]
  split <;> (try split) <;> simp_all

theorem ofToken_eq_name_iff {name : String} :
    FactorHead.ofToken token = .name name ↔ Named .ident token name := by
  rw [named_iff, FactorHead.ofToken]
  split <;> (try split) <;> simp_all

theorem ofToken_eq_group_iff : FactorHead.ofToken token = .group ↔ token.kind = .openParen := by
  rw [FactorHead.ofToken]
  split <;> (try split) <;> simp_all

theorem ofToken_eq_environment_iff :
    FactorHead.ofToken token = .environment ↔ token.kind = .dollar := by
  rw [FactorHead.ofToken]
  split <;> (try split) <;> simp_all

theorem factor_nil : (factor finish []).reads? = none := by
  rw [factor]
  rfl

theorem factor_cons :
    (factor finish (token :: rest)).reads? =
      match FactorHead.ofToken token with
      | .number value => some (.number value, rest)
      | .text value => some (.text value, rest)
      | .name name =>
        match (expect finish .openParen rest).reads? with
        | none => some (.var name, rest)
        | some opening =>
          (arguments finish opening.2).reads?.map fun read => (.call name read.1, read.2)
      | .group =>
        (expression finish rest).reads?.bind fun read =>
          (expect finish .closeParen read.2).reads?.map fun closing => (read.1, closing.2)
      | .environment =>
        (expect finish .openParen rest).reads?.bind fun opening =>
          (fragments finish opening.2).reads?.bind fun read =>
            (expect finish .closeParen read.2).reads?.map fun closing => (.raw read.1, closing.2)
      | .other => none := by
  rw [factor]
  cases FactorHead.ofToken token with
  | number value => rfl
  | text value => rfl
  | name name =>
      dsimp only
      cases expect finish .openParen rest <;> simp
  | group =>
      dsimp only
      cases expression finish rest <;> simp
  | environment =>
      dsimp only
      cases expect finish .openParen rest with
      | fail => rfl
      | ok _ rest' _ =>
          simp only [Reply.reads?_ok, Option.bind_some]
          cases fragments finish rest' <;> simp
  | other => rfl

theorem ofToken_eq_shell_iff {text : String} :
    FragmentHead.ofToken token = .shell text ↔ Named .rawText token text := by
  rw [named_iff, FragmentHead.ofToken]
  split <;> (try split) <;> simp_all

theorem ofToken_eq_splice_iff : FragmentHead.ofToken token = .splice ↔ token.kind = .dollar := by
  rw [FragmentHead.ofToken]
  split <;> (try split) <;> simp_all

theorem fragments_nil : (fragments finish []).reads? = some ([], []) := by
  rw [fragments]
  rfl

theorem fragments_cons :
    (fragments finish (token :: rest)).reads? =
      match FragmentHead.ofToken token with
      | .other => some ([], token :: rest)
      | .shell text =>
        (fragments finish rest).reads?.map fun read => (.shell text :: read.1, read.2)
      | .splice =>
        (spliceTail finish rest).reads?.bind fun splice =>
          (fragments finish splice.2).reads?.map fun read =>
            (.splice splice.1 :: read.1, read.2) := by
  rw [fragments]
  cases FragmentHead.ofToken token with
  | other => rfl
  | shell text => simp
  | splice =>
      dsimp only
      cases spliceTail finish rest <;> simp

end

/-! ## What is read derives -/

mutual

theorem expression_sound {finish : Position} {tokens rest : List Token} {value : Expr}
    (read : (expression finish tokens).reads? = some (value, rest)) :
    ∃ used, tokens = used ++ rest ∧ Expression used value := by
  rw [expression_reads?] at read
  obtain ⟨⟨first, middle⟩, readFirst, readTail⟩ := Option.bind_eq_some_iff.mp read
  have shorter := Reply.length_lt_of_reads? readFirst
  obtain ⟨used, rfl, derived⟩ := term_sound readFirst
  obtain ⟨others, rfl, carried⟩ := sumTail_sound readTail
  exact ⟨used ++ others, (List.append_assoc ..).symm, carried (.term derived)⟩
termination_by 4 * tokens.length + 2

theorem sumTail_sound {finish : Position} {tokens rest : List Token} {left value : Expr}
    (read : (sumTail finish left tokens).reads? = some (value, rest)) :
    ∃ used, tokens = used ++ rest ∧
      ∀ {before : List Token}, Expression before left → Expression (before ++ used) value := by
  cases found : sumOperator? (headKind tokens) with
  | none =>
      rw [sumTail_stop found] at read
      cases read
      exact ⟨[], rfl, fun derived => by rwa [List.append_nil]⟩
  | some operator =>
      match tokens with
      | [] => cases found
      | token :: tail =>
          have sign := sumOperator?_eq_some_iff.mp found
          rw [sumTail_sign sign] at read
          obtain ⟨⟨right, middle⟩, readTerm, readTail⟩ := Option.bind_eq_some_iff.mp read
          have shorter := Reply.length_lt_of_reads? readTerm
          obtain ⟨used, rfl, derived⟩ := term_sound readTerm
          obtain ⟨others, rfl, carried⟩ := sumTail_sound readTail
          refine ⟨token :: (used ++ others), by simp, fun before => ?_⟩
          simpa using carried (.sum before sign derived)
termination_by 4 * tokens.length

theorem term_sound {finish : Position} {tokens rest : List Token} {value : Expr}
    (read : (term finish tokens).reads? = some (value, rest)) :
    ∃ used, tokens = used ++ rest ∧ Term used value := by
  rw [term_reads?] at read
  obtain ⟨⟨first, middle⟩, readFirst, readTail⟩ := Option.bind_eq_some_iff.mp read
  have shorter := Reply.length_lt_of_reads? readFirst
  obtain ⟨used, rfl, derived⟩ := factor_sound readFirst
  obtain ⟨others, rfl, carried⟩ := productTail_sound readTail
  exact ⟨used ++ others, (List.append_assoc ..).symm, carried (.factor derived)⟩
termination_by 4 * tokens.length + 1

theorem productTail_sound {finish : Position} {tokens rest : List Token} {left value : Expr}
    (read : (productTail finish left tokens).reads? = some (value, rest)) :
    ∃ used, tokens = used ++ rest ∧
      ∀ {before : List Token}, Term before left → Term (before ++ used) value := by
  cases found : productOperator? (headKind tokens) with
  | none =>
      rw [productTail_stop found] at read
      cases read
      exact ⟨[], rfl, fun derived => by rwa [List.append_nil]⟩
  | some operator =>
      match tokens with
      | [] => cases found
      | token :: tail =>
          have sign := productOperator?_eq_some_iff.mp found
          rw [productTail_sign sign] at read
          obtain ⟨⟨right, middle⟩, readFactor, readTail⟩ := Option.bind_eq_some_iff.mp read
          have shorter := Reply.length_lt_of_reads? readFactor
          obtain ⟨used, rfl, derived⟩ := factor_sound readFactor
          obtain ⟨others, rfl, carried⟩ := productTail_sound readTail
          refine ⟨token :: (used ++ others), by simp, fun before => ?_⟩
          simpa using carried (.product before sign derived)
termination_by 4 * tokens.length

theorem factor_sound {finish : Position} {tokens rest : List Token} {value : Expr}
    (read : (factor finish tokens).reads? = some (value, rest)) :
    ∃ used, tokens = used ++ rest ∧ Factor used value := by
  match tokens with
  | [] =>
      rw [factor_nil] at read
      cases read
  | token :: tail =>
      rw [factor_cons] at read
      cases head : FactorHead.ofToken token with
      | number number =>
          obtain ⟨isNumber, literal⟩ := ofToken_eq_number_iff.mp head
          simp only [head] at read
          cases read
          exact ⟨[token], rfl, .number isNumber literal⟩
      | text text =>
          simp only [head] at read
          cases read
          exact ⟨[token], rfl, .text (ofToken_eq_text_iff.mp head)⟩
      | name name =>
          have named := ofToken_eq_name_iff.mp head
          simp only [head] at read
          split at read
          · cases read
            exact ⟨[token], rfl, .var named⟩
          · next opening opened =>
              obtain ⟨paren, isOpen, rfl⟩ := expect_sound opened
              obtain ⟨⟨given, after⟩, readArguments, same⟩ := Option.map_eq_some_iff.mp read
              cases same
              obtain ⟨used, same, derived⟩ := arguments_sound readArguments
              exact ⟨token :: paren :: used, by simp [same], .call named isOpen derived⟩
      | group =>
          have isOpen := ofToken_eq_group_iff.mp head
          simp only [head] at read
          obtain ⟨⟨inner, after⟩, readInner, closes⟩ := Option.bind_eq_some_iff.mp read
          obtain ⟨⟨_, last⟩, closed, same⟩ := Option.map_eq_some_iff.mp closes
          cases same
          obtain ⟨used, rfl, derived⟩ := expression_sound readInner
          obtain ⟨paren, isClose, rfl⟩ := expect_sound closed
          exact ⟨token :: (used ++ [paren]), by simp, .group isOpen derived isClose⟩
      | environment =>
          have isDollar := ofToken_eq_environment_iff.mp head
          simp only [head] at read
          obtain ⟨⟨_, inside⟩, opened, goesOn⟩ := Option.bind_eq_some_iff.mp read
          obtain ⟨⟨pieces, after⟩, readPieces, closes⟩ := Option.bind_eq_some_iff.mp goesOn
          obtain ⟨⟨_, last⟩, closed, same⟩ := Option.map_eq_some_iff.mp closes
          cases same
          obtain ⟨paren, isOpen, rfl⟩ := expect_sound opened
          obtain ⟨used, rfl, derived⟩ := fragments_sound readPieces
          obtain ⟨close, isClose, rfl⟩ := expect_sound closed
          exact ⟨token :: paren :: (used ++ [close]), by simp,
            .raw isDollar isOpen derived isClose⟩
      | other =>
          simp only [head] at read
          cases read
termination_by 4 * tokens.length

theorem arguments_sound {finish : Position} {tokens rest : List Token} {values : List Expr}
    (read : (arguments finish tokens).reads? = some (values, rest)) :
    ∃ used, tokens = used ++ rest ∧ Arguments used values := by
  rw [arguments_reads?] at read
  split at read
  · next closing closed =>
      cases read
      obtain ⟨paren, isClose, rfl⟩ := expect_sound closed
      exact ⟨[paren], rfl, .none isClose⟩
  · obtain ⟨⟨first, middle⟩, readFirst, goesOn⟩ := Option.bind_eq_some_iff.mp read
    obtain ⟨⟨more, after⟩, separated, finishes⟩ := Option.bind_eq_some_iff.mp goesOn
    have shorter := Reply.length_lt_of_reads? readFirst
    obtain ⟨used, rfl, derived⟩ := expression_sound readFirst
    obtain ⟨separator, isSeparator, rfl⟩ := expectSeparator_sound separated
    cases more with
    | false =>
        cases finishes
        exact ⟨used ++ [separator], by simp, .last derived isSeparator⟩
    | true =>
        obtain ⟨⟨others, last⟩, readOthers, same⟩ := Option.map_eq_some_iff.mp finishes
        cases same
        obtain ⟨usedOthers, rfl, derivedOthers⟩ := arguments_sound readOthers
        exact ⟨used ++ separator :: usedOthers, by simp, .more derived isSeparator derivedOthers⟩
termination_by 4 * tokens.length + 3

theorem fragments_sound {finish : Position} {tokens rest : List Token} {pieces : List Fragment}
    (read : (fragments finish tokens).reads? = some (pieces, rest)) :
    ∃ used, tokens = used ++ rest ∧ Environment used pieces := by
  match tokens with
  | [] =>
      rw [fragments_nil] at read
      cases read
      exact ⟨[], rfl, .nil⟩
  | token :: tail =>
      rw [fragments_cons] at read
      cases head : FragmentHead.ofToken token with
      | other =>
          simp only [head] at read
          cases read
          exact ⟨[], rfl, .nil⟩
      | shell text =>
          simp only [head] at read
          obtain ⟨⟨others, after⟩, readOthers, same⟩ := Option.map_eq_some_iff.mp read
          cases same
          obtain ⟨used, rfl, derived⟩ := fragments_sound readOthers
          exact ⟨token :: used, rfl, .text (ofToken_eq_shell_iff.mp head) derived⟩
      | splice =>
          have isDollar := ofToken_eq_splice_iff.mp head
          simp only [head, spliceTail_reads?] at read
          obtain ⟨⟨value, middle⟩, readSplice, goesOn⟩ := Option.bind_eq_some_iff.mp read
          obtain ⟨⟨_, inside⟩, opened, readsValue⟩ := Option.bind_eq_some_iff.mp readSplice
          obtain ⟨⟨_, after⟩, readValue, closes⟩ := Option.bind_eq_some_iff.mp readsValue
          obtain ⟨⟨_, last⟩, closed, same⟩ := Option.map_eq_some_iff.mp closes
          cases same
          obtain ⟨⟨others, _⟩, readOthers, same⟩ := Option.map_eq_some_iff.mp goesOn
          cases same
          obtain ⟨bracket, isOpen, rfl⟩ := expect_sound opened
          obtain ⟨used, rfl, derived⟩ := expression_sound readValue
          obtain ⟨close, isClose, rfl⟩ := expect_sound closed
          obtain ⟨usedOthers, rfl, derivedOthers⟩ := fragments_sound readOthers
          exact ⟨token :: bracket :: (used ++ close :: usedOthers), by simp,
            .splice isDollar isOpen derived isClose derivedOthers⟩
termination_by 4 * tokens.length

end

end StructuredShell.Parser

namespace StructuredShell.Grammar

open StructuredShell.Parser

/-! ## How derivations begin -/

def CarriesOn (kind : Kind) : Prop :=
  ∃ operator, SumSign kind operator ∨ ProductSign kind operator

theorem Term.first_factor {tokens : List Token} {value : Expr} (derived : Term tokens value) :
    ∃ head tail first, tokens = head ++ tail ∧ Factor head first ∧
      (tail = [] ∨ ∃ sign rest, tail = sign :: rest ∧ CarriesOn sign.kind) := by
  cases derived with
  | factor derived => exact ⟨_, [], _, by simp, derived, .inl rfl⟩
  | product left sign right =>
      obtain ⟨head, tail, first, rfl, derived, goesOn⟩ := left.first_factor
      refine ⟨head, _, first, List.append_assoc .., derived, .inr ?_⟩
      rcases goesOn with rfl | ⟨earlier, rest, rfl, carries⟩
      · exact ⟨_, _, rfl, _, .inr sign⟩
      · exact ⟨earlier, _, rfl, carries⟩

/-- A value begins with a factor, which an operator follows if anything does. -/
theorem Expression.first_factor {tokens : List Token} {value : Expr}
    (derived : Expression tokens value) :
    ∃ head tail first, tokens = head ++ tail ∧ Factor head first ∧
      (tail = [] ∨ ∃ sign rest, tail = sign :: rest ∧ CarriesOn sign.kind) := by
  cases derived with
  | term derived => exact derived.first_factor
  | sum left sign right =>
      obtain ⟨head, tail, first, rfl, derived, goesOn⟩ := left.first_factor
      refine ⟨head, _, first, List.append_assoc .., derived, .inr ?_⟩
      rcases goesOn with rfl | ⟨earlier, rest, rfl, carries⟩
      · exact ⟨_, _, rfl, _, .inl sign⟩
      · exact ⟨earlier, _, rfl, carries⟩

theorem Factor.begins {tokens : List Token} {value : Expr} (derived : Factor tokens value) :
    ∃ token tail, tokens = token :: tail ∧ token.kind ∈ factorStart := by
  cases derived with
  | number isNumber => exact ⟨_, _, rfl, by simp [factorStart, isNumber]⟩
  | text named => exact ⟨_, _, rfl, by simp [factorStart, named.kind_eq]⟩
  | var named => exact ⟨_, _, rfl, by simp [factorStart, named.kind_eq]⟩
  | call named => exact ⟨_, _, rfl, by simp [factorStart, named.kind_eq]⟩
  | group isOpen => exact ⟨_, _, rfl, by simp [factorStart, isOpen]⟩
  | raw isDollar => exact ⟨_, _, rfl, by simp [factorStart, isDollar]⟩

theorem Expression.begins {tokens : List Token} {value : Expr}
    (derived : Expression tokens value) :
    ∃ token tail, tokens = token :: tail ∧ token.kind ∈ factorStart := by
  obtain ⟨head, tail, first, rfl, factor, _⟩ := derived.first_factor
  obtain ⟨token, others, rfl, starts⟩ := factor.begins
  exact ⟨token, _, rfl, starts⟩

/-- A kind that begins no value does not stand ahead of one. -/
theorem Expression.headKind_ne {tokens : List Token} {value : Expr}
    (derived : Expression tokens value) (rest : List Token) {kind : Kind}
    (noStart : kind ∉ factorStart) : headKind (tokens ++ rest) ≠ kind := by
  obtain ⟨token, tail, rfl, starts⟩ := derived.begins
  intro same
  rw [List.cons_append, headKind_cons] at same
  exact noStart (same ▸ starts)

end StructuredShell.Grammar

namespace StructuredShell.Parser

open Grammar

/-! ## What derives is read -/

structure StopsValue (kind : Kind) : Prop where
  noCall : kind ≠ .openParen
  noSum : sumOperator? kind = none
  noProduct : productOperator? kind = none

theorem sumSign_stops_term {kind : Kind} {operator : ArithOp} (sign : SumSign kind operator) :
    kind ≠ .openParen ∧ productOperator? kind = none := by
  cases sign <;> exact ⟨nofun, rfl⟩

theorem productSign_stops_factor {kind : Kind} {operator : ArithOp}
    (sign : ProductSign kind operator) :
    kind ≠ .openParen := by
  cases sign <;> nofun

theorem StopsValue.of_kind {kind : Kind} (stops : StopsValue kind) {token : Token}
    (same : token.kind = kind) (rest : List Token) : StopsValue (headKind (token :: rest)) := by
  rwa [headKind_cons, same]

theorem stopsValue_closeParen : StopsValue .closeParen := ⟨nofun, rfl, rfl⟩

theorem stopsValue_closeBracket : StopsValue .closeBracket := ⟨nofun, rfl, rfl⟩

theorem stopsValue_comma : StopsValue .comma := ⟨nofun, rfl, rfl⟩

mutual

/-- A derived sum is read up to the point where its reader looks for another term. -/
theorem expression_carries {finish : Position} {tokens : List Token} {value : Expr}
    (derived : Expression tokens value) (rest : List Token) (noCall : headKind rest ≠ .openParen)
    (noProduct : productOperator? (headKind rest) = none) :
    (expression finish (tokens ++ rest)).reads? = (sumTail finish value rest).reads? := by
  match derived with
  | .term derived =>
      rw [expression_reads?, term_carries derived rest noCall, productTail_stop noProduct]
      rfl
  | @Expression.sum left right sign _ _ _ derivedLeft isSign derivedRight =>
      have ends := sumSign_stops_term isSign
      rw [List.append_assoc, List.cons_append,
        expression_carries derivedLeft (sign :: (right ++ rest)) ends.1 ends.2,
        sumTail_sign isSign, term_carries derivedRight rest noCall, productTail_stop noProduct]
      rfl

theorem term_carries {finish : Position} {tokens : List Token} {value : Expr}
    (derived : Term tokens value) (rest : List Token) (noCall : headKind rest ≠ .openParen) :
    (term finish (tokens ++ rest)).reads? = (productTail finish value rest).reads? := by
  match derived with
  | .factor derived =>
      rw [term_reads?, factor_complete derived rest noCall]
      rfl
  | @Term.product left right sign _ _ _ derivedLeft isSign derivedRight =>
      rw [List.append_assoc, List.cons_append,
        term_carries derivedLeft (sign :: (right ++ rest)) (productSign_stops_factor isSign),
        productTail_sign isSign, factor_complete derivedRight rest noCall]
      rfl

theorem factor_complete {finish : Position} {tokens : List Token} {value : Expr}
    (derived : Factor tokens value) (rest : List Token) (noCall : headKind rest ≠ .openParen) :
    (factor finish (tokens ++ rest)).reads? = some (value, rest) := by
  match derived with
  | .number isNumber literal =>
      simp only [List.cons_append, List.nil_append, factor_cons,
        ofToken_eq_number_iff.mpr ⟨isNumber, literal⟩]
  | .text named =>
      simp only [List.cons_append, List.nil_append, factor_cons, ofToken_eq_text_iff.mpr named]
  | .var named =>
      simp only [List.cons_append, List.nil_append, factor_cons, ofToken_eq_name_iff.mpr named,
        expect_eq_none noCall]
  | .call named isOpen derived =>
      simp only [List.cons_append, factor_cons, ofToken_eq_name_iff.mpr named,
        expect_cons isOpen, arguments_complete derived rest, Option.map_some]
  | @Factor.group opening closing tokens _ isOpen derived isClose =>
      have stops := stopsValue_closeParen.of_kind isClose rest
      simp only [List.cons_append, factor_cons, ofToken_eq_group_iff.mpr isOpen]
      rw [List.append_assoc, List.cons_append, List.nil_append,
        expression_carries derived _ stops.noCall stops.noProduct, sumTail_stop stops.noSum]
      simp only [Option.bind_some, expect_cons isClose, Option.map_some]
  | @Factor.raw dollar opening closing tokens _ isDollar isOpen derived isClose =>
      have stops : FragmentHead.ofToken closing = .other := by
        simp [FragmentHead.ofToken, isClose]
      simp only [List.cons_append, List.append_assoc, List.nil_append, factor_cons,
        ofToken_eq_environment_iff.mpr isDollar, expect_cons isOpen, Option.bind_some,
        fragments_complete derived closing rest stops, expect_cons isClose, Option.map_some]

theorem arguments_complete {finish : Position} {tokens : List Token} {values : List Expr}
    (derived : Arguments tokens values) (rest : List Token) :
    (arguments finish (tokens ++ rest)).reads? = some (values, rest) := by
  match derived with
  | .none isClose =>
      simp only [List.cons_append, List.nil_append, arguments_reads?, expect_cons isClose]
  | @Arguments.last tokens closing _ derived isClose =>
      have stops := stopsValue_closeParen.of_kind isClose rest
      have noClose := derived.headKind_ne (closing :: rest)
        (show Kind.closeParen ∉ factorStart by decide)
      rw [List.append_assoc, List.cons_append, List.nil_append, arguments_reads?,
        expect_eq_none noClose, expression_carries derived _ stops.noCall stops.noProduct,
        sumTail_stop stops.noSum, Option.bind_some, expectSeparator_closeParen isClose]
      rfl
  | @Arguments.more tokens others comma _ _ derived isComma derivedOthers =>
      have stops := stopsValue_comma.of_kind isComma (others ++ rest)
      have noClose := derived.headKind_ne (comma :: (others ++ rest))
        (show Kind.closeParen ∉ factorStart by decide)
      rw [List.append_assoc, List.cons_append, arguments_reads?, expect_eq_none noClose,
        expression_carries derived _ stops.noCall stops.noProduct, sumTail_stop stops.noSum]
      simp only [Option.bind_some, expectSeparator_comma isComma, if_true,
        arguments_complete derivedOthers rest, Option.map_some]

/-- Raw text and splices are read up to a token that begins neither. -/
theorem fragments_complete {finish : Position} {tokens : List Token} {pieces : List Fragment}
    (derived : Environment tokens pieces) (closing : Token) (rest : List Token)
    (stops : FragmentHead.ofToken closing = .other) :
    (fragments finish (tokens ++ closing :: rest)).reads? = some (pieces, closing :: rest) := by
  match derived with
  | .nil => simp only [List.nil_append, fragments_cons, stops]
  | .text named derived =>
      simp only [List.cons_append, fragments_cons, ofToken_eq_shell_iff.mpr named,
        fragments_complete derived closing rest stops, Option.map_some]
  | @Environment.splice dollar opening bracket tokens others _ _ isDollar isOpen derived isClose
      derivedOthers =>
      have ends := stopsValue_closeBracket.of_kind isClose (others ++ closing :: rest)
      simp only [List.cons_append, List.append_assoc, fragments_cons,
        ofToken_eq_splice_iff.mpr isDollar, spliceTail_reads?, expect_cons isOpen,
        Option.bind_some, expression_carries derived _ ends.noCall ends.noProduct,
        sumTail_stop ends.noSum, expect_cons isClose,
        Option.map_some, fragments_complete derivedOthers closing rest stops]

end

theorem expression_complete {finish : Position} {tokens : List Token} {value : Expr}
    (derived : Expression tokens value) (rest : List Token) (stops : StopsValue (headKind rest)) :
    (expression finish (tokens ++ rest)).reads? = some (value, rest) := by
  rw [expression_carries derived rest stops.noCall stops.noProduct, sumTail_stop stops.noSum]

end StructuredShell.Parser
