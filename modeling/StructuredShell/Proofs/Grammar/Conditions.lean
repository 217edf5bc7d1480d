import StructuredShell.Proofs.Grammar.Values
import StructuredShell.Syntax.Parser.Condition

/-!
# Conditions are read as the grammar derives them

A parenthesis at the head of a condition opens a group or a value. The reader tries the group first.
That loses nothing: what derives a condition between parentheses never derives a value between the
same parentheses.
-/

set_option autoImplicit false

namespace StructuredShell.Parser

open Grammar

/-! ## The readers without their errors -/

section

variable {finish : Position} {tokens rest : List Token} {left : Condition} {token : Token}

theorem relation?_eq_some_iff {kind : Kind} {operator : RelOp} :
    relation? kind = some operator ↔ RelationSign kind operator := by
  constructor
  · intro found
    unfold relation? at found
    split at found <;> cases found
    · exact .less
    · exact .greater
    · exact .lessEqual
    · exact .greaterEqual
    · exact .equal
    · exact .notEqual
  · intro sign
    cases sign <;> rfl

theorem relation_sound {operator : RelOp}
    (read : (relation finish tokens).reads? = some (operator, rest)) :
    ∃ token : Token, RelationSign token.kind operator ∧ tokens = token :: rest := by
  unfold relation at read
  split at read
  · cases read
  · next token tail =>
      split at read
      · cases read
      · next operator' found =>
          cases read
          exact ⟨token, relation?_eq_some_iff.mp found, rfl⟩

theorem relation_cons {operator : RelOp} (sign : RelationSign token.kind operator) :
    (relation finish (token :: rest)).reads? = some (operator, rest) := by
  have found := relation?_eq_some_iff.mpr sign
  unfold relation
  simp only
  split <;> simp_all

theorem comparison_reads? :
    (comparison finish tokens).reads? =
      (expression finish tokens).reads?.bind fun first =>
        (relation finish first.2).reads?.bind fun sign =>
          (expression finish sign.2).reads?.map fun second =>
            (.comparison sign.1 first.1 second.1, second.2) := by
  unfold comparison
  split
  · simp_all
  · split <;> simp_all

theorem condition_reads? :
    (condition finish tokens).reads? =
      (conjunction finish tokens).reads?.bind fun read =>
        (disjunctionTail finish read.1 read.2).reads? := by
  rw [condition]
  split <;> simp_all

theorem disjunctionTail_reads? :
    (disjunctionTail finish left tokens).reads? =
      match (expect finish .either tokens).reads? with
      | none => some (left, tokens)
      | some opening => (conjunction finish opening.2).reads?.bind fun read =>
        (disjunctionTail finish (.disjunction left read.1) read.2).reads? := by
  rw [disjunctionTail]
  split
  · simp_all
  · split <;> simp_all

theorem disjunctionTail_stop (stops : headKind tokens ≠ .either) :
    (disjunctionTail finish left tokens).reads? = some (left, tokens) := by
  rw [disjunctionTail_reads?, expect_eq_none stops]

theorem disjunctionTail_sign (sign : token.kind = .either) :
    (disjunctionTail finish left (token :: rest)).reads? =
      (conjunction finish rest).reads?.bind fun read =>
        (disjunctionTail finish (.disjunction left read.1) read.2).reads? := by
  rw [disjunctionTail_reads?, expect_cons sign]

theorem conjunction_reads? :
    (conjunction finish tokens).reads? =
      (conditionAtom finish tokens).reads?.bind fun read =>
        (conjunctionTail finish read.1 read.2).reads? := by
  rw [conjunction]
  split <;> simp_all

theorem conjunctionTail_reads? :
    (conjunctionTail finish left tokens).reads? =
      match (expect finish .both tokens).reads? with
      | none => some (left, tokens)
      | some opening => (conditionAtom finish opening.2).reads?.bind fun read =>
        (conjunctionTail finish (.conjunction left read.1) read.2).reads? := by
  rw [conjunctionTail]
  split
  · simp_all
  · split <;> simp_all

theorem conjunctionTail_stop (stops : headKind tokens ≠ .both) :
    (conjunctionTail finish left tokens).reads? = some (left, tokens) := by
  rw [conjunctionTail_reads?, expect_eq_none stops]

theorem conjunctionTail_sign (sign : token.kind = .both) :
    (conjunctionTail finish left (token :: rest)).reads? =
      (conditionAtom finish rest).reads?.bind fun read =>
        (conjunctionTail finish (.conjunction left read.1) read.2).reads? := by
  rw [conjunctionTail_reads?, expect_cons sign]

theorem groupTail_reads? :
    (groupTail finish tokens).reads? =
      (condition finish tokens).reads?.bind fun read =>
        (expect finish .closeParen read.2).reads?.map fun closing => (read.1, closing.2) := by
  rw [groupTail]
  split <;> simp_all

theorem conditionAtom_nil : (conditionAtom finish []).reads? = none := by
  rw [conditionAtom]
  rfl

theorem conditionAtom_cons :
    (conditionAtom finish (token :: rest)).reads? =
      match ConditionHead.ofKind token.kind with
      | .constant value => some (.constant value, rest)
      | .operand => (comparison finish (token :: rest)).reads?
      | .other => none
      | .group => (groupTail finish rest).reads?.or (comparison finish (token :: rest)).reads? := by
  rw [conditionAtom]
  cases ConditionHead.ofKind token.kind with
  | constant value => rfl
  | operand => rfl
  | other => rfl
  | group =>
      simp only
      cases groupTail finish rest with
      | ok value rest' shorter => simp
      | fail error stopped =>
          simp only [Reply.reads?_fail, Option.none_or]
          cases comparison finish (token :: rest) <;> simp

theorem ofKind_eq_constant_iff {kind : Kind} {value : Bool} :
    ConditionHead.ofKind kind = .constant value ↔
      kind = (if value then .trueWord else .falseWord) := by
  cases value <;> cases kind <;> simp [ConditionHead.ofKind, factorStart]

theorem ofKind_eq_group_iff {kind : Kind} :
    ConditionHead.ofKind kind = .group ↔ kind = .openParen := by
  cases kind <;> simp [ConditionHead.ofKind, factorStart]

theorem ofKind_eq_operand {kind : Kind} (starts : kind ∈ factorStart)
    (noGroup : kind ≠ .openParen) :
    ConditionHead.ofKind kind = .operand := by
  simp only [factorStart, List.mem_cons, List.not_mem_nil, or_false] at starts
  rcases starts with rfl | rfl | rfl | rfl | rfl
  · rfl
  · rfl
  · rfl
  · exact absurd rfl noGroup
  · rfl

end

/-! ## What is read derives -/

theorem comparison_sound {finish : Position} {tokens rest : List Token} {value : Condition}
    (read : (comparison finish tokens).reads? = some (value, rest)) :
    ∃ used, tokens = used ++ rest ∧ Atom used value := by
  rw [comparison_reads?] at read
  obtain ⟨⟨first, afterFirst⟩, readFirst, goesOn⟩ := Option.bind_eq_some_iff.mp read
  obtain ⟨⟨operator, afterSign⟩, readSign, finishes⟩ := Option.bind_eq_some_iff.mp goesOn
  obtain ⟨⟨second, afterSecond⟩, readSecond, same⟩ := Option.map_eq_some_iff.mp finishes
  cases same
  obtain ⟨usedFirst, rfl, derivedFirst⟩ := expression_sound readFirst
  obtain ⟨token, sign, rfl⟩ := relation_sound readSign
  obtain ⟨usedSecond, rfl, derivedSecond⟩ := expression_sound readSecond
  exact ⟨usedFirst ++ token :: usedSecond, by simp, .comparison derivedFirst sign derivedSecond⟩

mutual

theorem condition_sound {finish : Position} {tokens rest : List Token} {value : Condition}
    (read : (condition finish tokens).reads? = some (value, rest)) :
    ∃ used, tokens = used ++ rest ∧ Disjunction used value := by
  rw [condition_reads?] at read
  obtain ⟨⟨first, middle⟩, readFirst, readTail⟩ := Option.bind_eq_some_iff.mp read
  have shorter := Reply.length_lt_of_reads? readFirst
  obtain ⟨used, rfl, derived⟩ := conjunction_sound readFirst
  obtain ⟨others, rfl, carried⟩ := disjunctionTail_sound readTail
  exact ⟨used ++ others, (List.append_assoc ..).symm, carried (.conjunction derived)⟩
termination_by 4 * tokens.length + 2

theorem disjunctionTail_sound {finish : Position} {tokens rest : List Token}
    {left value : Condition}
    (read : (disjunctionTail finish left tokens).reads? = some (value, rest)) :
    ∃ used, tokens = used ++ rest ∧
      ∀ {before : List Token}, Disjunction before left → Disjunction (before ++ used) value := by
  rw [disjunctionTail_reads?] at read
  split at read
  · cases read
    exact ⟨[], rfl, fun derived => by rwa [List.append_nil]⟩
  · next opening opened =>
      have behind := Reply.length_lt_of_reads? opened
      obtain ⟨token, sign, rfl⟩ := expect_sound opened
      obtain ⟨⟨right, middle⟩, readRight, readTail⟩ := Option.bind_eq_some_iff.mp read
      have shorter := Reply.length_lt_of_reads? readRight
      obtain ⟨used, same, derived⟩ := conjunction_sound readRight
      obtain ⟨others, rfl, carried⟩ := disjunctionTail_sound readTail
      refine ⟨token :: (used ++ others), by simp [same], fun before => ?_⟩
      simpa using carried (.either before sign derived)
termination_by 4 * tokens.length

theorem conjunction_sound {finish : Position} {tokens rest : List Token} {value : Condition}
    (read : (conjunction finish tokens).reads? = some (value, rest)) :
    ∃ used, tokens = used ++ rest ∧ Conjunction used value := by
  rw [conjunction_reads?] at read
  obtain ⟨⟨first, middle⟩, readFirst, readTail⟩ := Option.bind_eq_some_iff.mp read
  have shorter := Reply.length_lt_of_reads? readFirst
  obtain ⟨used, rfl, derived⟩ := conditionAtom_sound readFirst
  obtain ⟨others, rfl, carried⟩ := conjunctionTail_sound readTail
  exact ⟨used ++ others, (List.append_assoc ..).symm, carried (.atom derived)⟩
termination_by 4 * tokens.length + 1

theorem conjunctionTail_sound {finish : Position} {tokens rest : List Token}
    {left value : Condition}
    (read : (conjunctionTail finish left tokens).reads? = some (value, rest)) :
    ∃ used, tokens = used ++ rest ∧
      ∀ {before : List Token}, Conjunction before left → Conjunction (before ++ used) value := by
  rw [conjunctionTail_reads?] at read
  split at read
  · cases read
    exact ⟨[], rfl, fun derived => by rwa [List.append_nil]⟩
  · next opening opened =>
      have behind := Reply.length_lt_of_reads? opened
      obtain ⟨token, sign, rfl⟩ := expect_sound opened
      obtain ⟨⟨right, middle⟩, readRight, readTail⟩ := Option.bind_eq_some_iff.mp read
      have shorter := Reply.length_lt_of_reads? readRight
      obtain ⟨used, same, derived⟩ := conditionAtom_sound readRight
      obtain ⟨others, rfl, carried⟩ := conjunctionTail_sound readTail
      refine ⟨token :: (used ++ others), by simp [same], fun before => ?_⟩
      simpa using carried (.both before sign derived)
termination_by 4 * tokens.length

theorem conditionAtom_sound {finish : Position} {tokens rest : List Token} {value : Condition}
    (read : (conditionAtom finish tokens).reads? = some (value, rest)) :
    ∃ used, tokens = used ++ rest ∧ Atom used value := by
  match tokens with
  | [] =>
      rw [conditionAtom_nil] at read
      cases read
  | token :: tail =>
      rw [conditionAtom_cons] at read
      cases head : ConditionHead.ofKind token.kind with
      | constant constant =>
          have isConstant := ofKind_eq_constant_iff.mp head
          simp only [head] at read
          cases read
          cases constant with
          | true => exact ⟨[token], rfl, .isTrue isConstant⟩
          | false => exact ⟨[token], rfl, .isFalse isConstant⟩
      | operand =>
          simp only [head] at read
          exact comparison_sound read
      | other =>
          simp only [head] at read
          cases read
      | group =>
          have isOpen := ofKind_eq_group_iff.mp head
          simp only [head] at read
          rcases Option.or_eq_some_iff.mp read with readGroup | ⟨_, readComparison⟩
          · obtain ⟨used, closing, rfl, derived, isClose⟩ := groupTail_sound readGroup
            exact ⟨token :: (used ++ [closing]), by simp, .group isOpen derived isClose⟩
          · exact comparison_sound readComparison
termination_by 4 * tokens.length

theorem groupTail_sound {finish : Position} {tokens rest : List Token} {value : Condition}
    (read : (groupTail finish tokens).reads? = some (value, rest)) :
    ∃ used closing, tokens = used ++ closing :: rest ∧ Disjunction used value ∧
      closing.kind = .closeParen := by
  rw [groupTail_reads?] at read
  obtain ⟨⟨_, middle⟩, readInner, closes⟩ := Option.bind_eq_some_iff.mp read
  obtain ⟨⟨_, last⟩, closed, same⟩ := Option.map_eq_some_iff.mp closes
  cases same
  obtain ⟨used, rfl, derived⟩ := condition_sound readInner
  obtain ⟨closing, isClose, rfl⟩ := expect_sound closed
  exact ⟨used, closing, rfl, derived, isClose⟩
termination_by 4 * tokens.length + 3

end

/-! ## A group is never a value -/

/-- A value that begins with a parenthesis begins with a value between parentheses. -/
theorem value_between_parentheses {opening : Token} {tail : List Token} {value : Expr}
    (derived : Expression (opening :: tail) value) (isOpen : opening.kind = .openParen) :
    ∃ inner closing rest first, tail = inner ++ closing :: rest ∧ Expression inner first ∧
      closing.kind = .closeParen := by
  obtain ⟨head, others, first, same, factor, _⟩ := derived.first_factor
  cases factor with
  | number isNumber => simp_all
  | text named => simp_all [named.kind_eq]
  | var named => simp_all [named.kind_eq]
  | call named => simp_all [named.kind_eq]
  | raw isDollar => simp_all
  | group _ inner isClose =>
      simp only [List.cons_append, List.append_assoc, List.nil_append, List.cons.injEq] at same
      exact ⟨_, _, _, _, same.2, inner, isClose⟩

theorem stopsValue_relation {kind : Kind} {operator : RelOp} (sign : RelationSign kind operator) :
    StopsValue kind := by
  cases sign <;> exact ⟨nofun, rfl, rfl⟩

mutual

theorem disjunction_not_value {tokens after inner : List Token} {closing : Token}
    {rest : List Token} {condition : Condition} {value : Expr}
    (derived : Disjunction tokens condition) (isValue : Expression inner value)
    (isClose : closing.kind = .closeParen)
    (same : tokens ++ after = inner ++ closing :: rest) : False := by
  match derived with
  | .conjunction derived => exact conjunction_not_value derived isValue isClose same
  | .either left _ _ =>
      rw [List.append_assoc] at same
      exact disjunction_not_value left isValue isClose same

theorem conjunction_not_value {tokens after inner : List Token} {closing : Token}
    {rest : List Token} {condition : Condition} {value : Expr}
    (derived : Conjunction tokens condition) (isValue : Expression inner value)
    (isClose : closing.kind = .closeParen)
    (same : tokens ++ after = inner ++ closing :: rest) : False := by
  match derived with
  | .atom derived => exact atom_not_value derived isValue isClose same
  | .both left _ _ =>
      rw [List.append_assoc] at same
      exact conjunction_not_value left isValue isClose same

/-- What derives a condition does not derive a value that a closing parenthesis follows. The two
readings part at the first atom: at the sign of a comparison, at a truth value, or inside the
parentheses with which both begin. -/
theorem atom_not_value {tokens after inner : List Token} {closing : Token}
    {rest : List Token} {condition : Condition} {value : Expr}
    (derived : Atom tokens condition) (isValue : Expression inner value)
    (isClose : closing.kind = .closeParen)
    (same : tokens ++ after = inner ++ closing :: rest) : False := by
  match derived with
  | .isTrue isWord =>
      apply isValue.headKind_ne (closing :: rest) (show Kind.trueWord ∉ factorStart by decide)
      rw [← same]
      exact isWord
  | .isFalse isWord =>
      apply isValue.headKind_ne (closing :: rest) (show Kind.falseWord ∉ factorStart by decide)
      rw [← same]
      exact isWord
  | @Atom.comparison left right sign _ first _ derivedLeft isSign _ =>
      have readLeft : (expression .start (left ++ sign :: (right ++ after))).reads? =
          some (first, sign :: (right ++ after)) :=
        expression_complete derivedLeft _ (stopsValue_relation isSign)
      have readValue : (expression .start (inner ++ closing :: rest)).reads? =
          some (value, closing :: rest) :=
        expression_complete isValue _ (stopsValue_closeParen.of_kind isClose rest)
      rw [← same, List.append_assoc, List.cons_append, readLeft] at readValue
      cases readValue
      rw [isClose] at isSign
      cases isSign
  | .group isOpen derivedInner _ =>
      obtain ⟨token, tail, rfl, _⟩ := isValue.begins
      simp only [List.cons_append, List.append_assoc, List.cons.injEq] at same
      obtain ⟨rfl, same⟩ := same
      obtain ⟨innermost, closing', others, _, rfl, derivedValue, isClose'⟩ :=
        value_between_parentheses isValue isOpen
      rw [List.append_assoc, List.cons_append] at same
      exact disjunction_not_value derivedInner derivedValue isClose' same

end

/-- The group that the reader tries first is not there when a value stands in parentheses. -/
theorem groupTail_eq_none {finish : Position} {inner rest : List Token} {closing : Token}
    {value : Expr} (isValue : Expression inner value) (isClose : closing.kind = .closeParen) :
    (groupTail finish (inner ++ closing :: rest)).reads? = none := by
  cases read : (groupTail finish (inner ++ closing :: rest)).reads? with
  | none => rfl
  | some found =>
      obtain ⟨condition, after⟩ := found
      obtain ⟨used, _, same, derived, _⟩ := groupTail_sound read
      exact (disjunction_not_value derived isValue isClose same.symm).elim

/-! ## What derives is read -/

theorem comparison_complete {finish : Position} {left right : List Token} {sign : Token}
    {operator : RelOp} {first second : Expr} (derivedLeft : Expression left first)
    (isSign : RelationSign sign.kind operator) (derivedRight : Expression right second)
    (rest : List Token) (stops : StopsValue (headKind rest)) :
    (comparison finish (left ++ sign :: (right ++ rest))).reads? =
      some (.comparison operator first second, rest) := by
  rw [comparison_reads?,
    expression_complete derivedLeft (sign :: (right ++ rest)) (stopsValue_relation isSign)]
  simp only [Option.bind_some, relation_cons isSign, expression_complete derivedRight rest stops,
    Option.map_some]

theorem stopsValue_both : StopsValue .both := ⟨nofun, rfl, rfl⟩

theorem stopsValue_either : StopsValue .either := ⟨nofun, rfl, rfl⟩

mutual

theorem condition_carries {finish : Position} {tokens : List Token} {value : Condition}
    (derived : Disjunction tokens value) (rest : List Token) (stops : StopsValue (headKind rest))
    (noBoth : headKind rest ≠ .both) :
    (condition finish (tokens ++ rest)).reads? = (disjunctionTail finish value rest).reads? := by
  match derived with
  | .conjunction derived =>
      rw [condition_reads?, conjunction_carries derived rest stops, conjunctionTail_stop noBoth]
      rfl
  | @Disjunction.either left right sign _ _ derivedLeft isSign derivedRight =>
      rw [List.append_assoc, List.cons_append,
        condition_carries derivedLeft (sign :: (right ++ rest)) (stopsValue_either.of_kind isSign _)
          (by simp [isSign]),
        disjunctionTail_sign isSign, conjunction_carries derivedRight rest stops,
        conjunctionTail_stop noBoth]
      rfl

theorem conjunction_carries {finish : Position} {tokens : List Token} {value : Condition}
    (derived : Conjunction tokens value) (rest : List Token) (stops : StopsValue (headKind rest)) :
    (conjunction finish (tokens ++ rest)).reads? = (conjunctionTail finish value rest).reads? := by
  match derived with
  | .atom derived =>
      rw [conjunction_reads?, conditionAtom_complete derived rest stops]
      rfl
  | @Conjunction.both left right sign _ _ derivedLeft isSign derivedRight =>
      rw [List.append_assoc, List.cons_append,
        conjunction_carries derivedLeft (sign :: (right ++ rest))
          (stopsValue_both.of_kind isSign _),
        conjunctionTail_sign isSign, conditionAtom_complete derivedRight rest stops]
      rfl

theorem conditionAtom_complete {finish : Position} {tokens : List Token} {value : Condition}
    (derived : Atom tokens value) (rest : List Token) (stops : StopsValue (headKind rest)) :
    (conditionAtom finish (tokens ++ rest)).reads? = some (value, rest) := by
  match derived with
  | .isTrue isWord =>
      have head := ofKind_eq_constant_iff.mpr (show _ = if true then _ else _ from isWord)
      simp only [List.cons_append, List.nil_append, conditionAtom_cons, head]
  | .isFalse isWord =>
      have head := ofKind_eq_constant_iff.mpr (show _ = if false then _ else _ from isWord)
      simp only [List.cons_append, List.nil_append, conditionAtom_cons, head]
  | @Atom.group opening closing inner _ isOpen derivedInner isClose =>
      have noBoth : headKind (closing :: rest) ≠ .both := by simp [isClose]
      have noEither : headKind (closing :: rest) ≠ .either := by simp [isClose]
      rw [List.cons_append, List.append_assoc, List.cons_append, List.nil_append,
        conditionAtom_cons]
      simp only [ofKind_eq_group_iff.mpr isOpen, groupTail_reads?,
        condition_carries derivedInner _ (stopsValue_closeParen.of_kind isClose rest) noBoth,
        disjunctionTail_stop noEither, Option.bind_some, expect_cons isClose, Option.map_some,
        Option.some_or]
  | @Atom.comparison left right sign _ _ _ derivedLeft isSign derivedRight =>
      obtain ⟨token, tail, rfl, starts⟩ := derivedLeft.begins
      have readComparison :
          (comparison finish (token :: (tail ++ sign :: (right ++ rest)))).reads? =
          some _ := comparison_complete derivedLeft isSign derivedRight rest stops
      rw [List.append_assoc, List.cons_append, List.cons_append, conditionAtom_cons,
        readComparison]
      by_cases isOpen : token.kind = .openParen
      · obtain ⟨inner, closing, others, _, rfl, derivedValue, isClose⟩ :=
          value_between_parentheses derivedLeft isOpen
        rw [List.append_assoc, List.cons_append, groupTail_eq_none derivedValue isClose]
        simp only [ofKind_eq_group_iff.mpr isOpen, Option.none_or]
      · simp only [ofKind_eq_operand starts isOpen]

end

theorem groupTail_complete {finish : Position} {tokens : List Token} {value : Condition}
    {closing : Token} (derived : Disjunction tokens value) (isClose : closing.kind = .closeParen)
    (rest : List Token) :
    (groupTail finish (tokens ++ closing :: rest)).reads? = some (value, rest) := by
  have noBoth : headKind (closing :: rest) ≠ .both := by simp [isClose]
  have noEither : headKind (closing :: rest) ≠ .either := by simp [isClose]
  rw [groupTail_reads?, condition_carries derived _ (stopsValue_closeParen.of_kind isClose rest)
    noBoth, disjunctionTail_stop noEither]
  simp only [Option.bind_some, expect_cons isClose, Option.map_some]

end StructuredShell.Parser
