import StructuredShell.Proofs.Prefixes.Values

/-!
# Errors in conditions

The readers of conditions as recognizers, and what they decide. A parenthesis at the head of a
condition is read in two ways. Where both fail, the error that lies further on is kept: up to there
one of the two ways was still open, and behind it both are closed.
-/

set_option autoImplicit false

namespace StructuredShell.Parser

open Grammar Recognizer

/-! ## The readers as recognizers -/

section

variable {finish : Position} {tokens : List Token}

/-- The alternatives after the first one. What they are joined to plays no part. -/
def disjuncts : Recognizer :=
  .of fun finish tokens => disjunctionTail finish (.constant true) tokens

/-- The atoms after the first one. -/
def conjuncts : Recognizer :=
  .of fun finish tokens => conjunctionTail finish (.constant true) tokens

theorem relation?_eq_none_iff {kind : Kind} : relation? kind = none ↔ kind ∉ relationKinds := by
  cases kind <;> decide

theorem of_relation : of relation = oneOf relationKinds := by
  funext finish tokens
  match tokens with
  | [] => rfl
  | token :: rest =>
      simp only [of, relation, oneOf]
      cases found : relation? token.kind with
      | none => simp [relation?_eq_none_iff.mp found]
      | some operator =>
          have isRelation : token.kind ∈ relationKinds := by
            by_contra other
            simp [relation?_eq_none_iff.mpr other] at found
          simp [isRelation]

theorem of_comparison :
    of comparison = (of expression).followedBy ((of relation).followedBy (of expression)) := by
  funext finish tokens
  simp only [of, followedBy, comparison]
  cases expression finish tokens with
  | fail error stopped => rfl
  | ok left rest shorter =>
      simp only [Reply.outcome_ok]
      cases relation finish rest <;> simp

theorem disjunctionTail_outcome (left : Condition) (finish : Position) (tokens : List Token) :
    (disjunctionTail finish left tokens).outcome =
      onHead [.either] ((oneOf [.either]).followedBy ((of conjunction).followedBy disjuncts)) stay
        finish tokens := by
  refine loop_eq (fun left => of fun finish tokens => disjunctionTail finish left tokens)
    (by decide) Reply.length_lt_of_outcome ?_ ?_ (.constant true) left finish tokens
  · intro joined finish tokens noSign
    have stopped : (disjunctionTail finish joined tokens).reads? = some (joined, tokens) :=
      disjunctionTail_stop (by simpa using noSign)
    exact Reply.outcome_eq_ok_iff.mpr ⟨joined, stopped⟩
  · intro joined finish token rest isSign
    have isEither := List.mem_singleton.mp isSign
    cases read : conjunction finish rest with
    | fail error stopped =>
        refine ⟨joined, ?_⟩
        rw [of, disjunctionTail, expect_cons_eq isEither]
        simp [followedBy, read]
    | ok right after shorter =>
        refine ⟨.disjunction joined right, ?_⟩
        rw [of, disjunctionTail, expect_cons_eq isEither]
        simp [of, followedBy, read]

theorem disjuncts_eq :
    disjuncts =
      onHead [.either] ((oneOf [.either]).followedBy ((of conjunction).followedBy disjuncts))
        stay := by
  funext finish tokens
  exact disjunctionTail_outcome _ finish tokens

theorem of_condition : of condition = (of conjunction).followedBy disjuncts := by
  funext finish tokens
  simp only [of, followedBy, condition]
  cases conjunction finish tokens with
  | fail error stopped => rfl
  | ok left rest shorter => simp [disjunctionTail_outcome, ← disjuncts_eq]

theorem conjunctionTail_outcome (left : Condition) (finish : Position) (tokens : List Token) :
    (conjunctionTail finish left tokens).outcome =
      onHead [.both] ((oneOf [.both]).followedBy ((of conditionAtom).followedBy conjuncts)) stay
        finish tokens := by
  refine loop_eq (fun left => of fun finish tokens => conjunctionTail finish left tokens)
    (by decide) Reply.length_lt_of_outcome ?_ ?_ (.constant true) left finish tokens
  · intro joined finish tokens noSign
    have stopped : (conjunctionTail finish joined tokens).reads? = some (joined, tokens) :=
      conjunctionTail_stop (by simpa using noSign)
    exact Reply.outcome_eq_ok_iff.mpr ⟨joined, stopped⟩
  · intro joined finish token rest isSign
    have isBoth := List.mem_singleton.mp isSign
    cases read : conditionAtom finish rest with
    | fail error stopped =>
        refine ⟨joined, ?_⟩
        rw [of, conjunctionTail, expect_cons_eq isBoth]
        simp [followedBy, read]
    | ok right after shorter =>
        refine ⟨.conjunction joined right, ?_⟩
        rw [of, conjunctionTail, expect_cons_eq isBoth]
        simp [of, followedBy, read]

theorem conjuncts_eq :
    conjuncts =
      onHead [.both] ((oneOf [.both]).followedBy ((of conditionAtom).followedBy conjuncts))
        stay := by
  funext finish tokens
  exact conjunctionTail_outcome _ finish tokens

theorem of_conjunction : of conjunction = (of conditionAtom).followedBy conjuncts := by
  funext finish tokens
  simp only [of, followedBy, conjunction]
  cases conditionAtom finish tokens with
  | fail error stopped => rfl
  | ok left rest shorter => simp [conjunctionTail_outcome, ← conjuncts_eq]

theorem of_groupTail : of groupTail = (of condition).followedBy (oneOf [.closeParen]) := by
  funext finish tokens
  simp only [of, followedBy, ← expect_outcome, groupTail]
  cases condition finish tokens <;> simp

def constantKinds : List Kind := [.trueWord, .falseWord]

theorem ofKind_eq_other {kind : Kind} (noConstant : kind ∉ constantKinds)
    (noStart : kind ∉ factorStart) : ConditionHead.ofKind kind = .other := by
  cases kind <;> simp_all [ConditionHead.ofKind, factorStart, constantKinds]

theorem of_conditionAtom :
    of conditionAtom =
      onHead constantKinds (oneOf constantKinds)
        (onHead [.openParen]
          (either ((oneOf [.openParen]).followedBy (of groupTail)) (of comparison))
          (onHead factorStart (of comparison) (refuse conditionStart))) := by
  funext finish tokens
  match tokens with
  | [] =>
      rw [of, conditionAtom]
      rfl
  | token :: rest =>
      rw [of, conditionAtom]
      by_cases isConstant : token.kind ∈ constantKinds
      · rw [onHead_pos isConstant, oneOf_of_head isConstant (by decide)]
        rcases List.mem_pair.mp isConstant with isTrue | isFalse
        · simp [isTrue, ConditionHead.ofKind]
        · simp [isFalse, ConditionHead.ofKind]
      rw [onHead_neg isConstant]
      by_cases isOpen : token.kind = .openParen
      · rw [onHead_pos (by simp [isOpen]), either, oneOf_followedBy (by simp [isOpen])]
        simp only [ofKind_eq_group_iff.mpr isOpen, of]
        cases groupTail finish rest with
        | ok value after shorter => simp
        | fail error stopped => cases comparison finish (token :: rest) <;> simp
      rw [onHead_neg (by simpa using isOpen)]
      by_cases starts : token.kind ∈ factorStart
      · rw [onHead_pos starts, ofKind_eq_operand starts isOpen]
        rfl
      · rw [onHead_neg starts, ofKind_eq_other isConstant starts]
        rfl

end

/-! ## The languages of conditions -/

def conditions : Language Token := {tokens | ∃ value, Disjunction tokens value}

def clauses : Language Token := {tokens | ∃ value, Conjunction tokens value}

def atoms : Language Token := {tokens | ∃ value, Atom tokens value}

/-- A condition with the parenthesis that closes it. -/
def groups : Language Token := conditions * ofKinds [.closeParen]

theorem atoms_le_clauses : atoms ≤ clauses := by
  rintro tokens ⟨value, derived⟩
  exact ⟨value, .atom derived⟩

theorem clauses_le_conditions : clauses ≤ conditions := by
  rintro tokens ⟨value, derived⟩
  exact ⟨value, .conjunction derived⟩

theorem disjuncts_le :
    ofKinds [.either] * (clauses * after conditions conditions) ≤ after conditions conditions := by
  rintro _ ⟨_, ⟨sign, _, isSign, rfl⟩, _, ⟨right, ⟨second, derived⟩, others, carriesOn, rfl⟩, rfl⟩
  rintro before ⟨first, derivedFirst⟩
  have isEither := Disjunction.either derivedFirst (List.mem_singleton.mp isSign) derived
  simpa using carriesOn _ ⟨_, isEither⟩

theorem conjuncts_le :
    ofKinds [.both] * (atoms * after clauses clauses) ≤ after clauses clauses := by
  rintro _ ⟨_, ⟨sign, _, isSign, rfl⟩, _, ⟨right, ⟨second, derived⟩, others, carriesOn, rfl⟩, rfl⟩
  rintro before ⟨first, derivedFirst⟩
  have isBoth := Conjunction.both derivedFirst (List.mem_singleton.mp isSign) derived
  simpa using carriesOn _ ⟨_, isBoth⟩

theorem constants_le : ofKinds constantKinds ≤ atoms := by
  rintro _ ⟨token, _, isConstant, rfl⟩
  rcases List.mem_pair.mp isConstant with isTrue | isFalse
  · exact ⟨_, .isTrue isTrue⟩
  · exact ⟨_, .isFalse isFalse⟩

theorem groups_le_atoms : ofKinds [.openParen] * groups ≤ atoms := by
  rintro _ ⟨_, ⟨opening, _, isOpen, rfl⟩, _,
    ⟨inner, ⟨value, derived⟩, _, ⟨closing, _, isClose, rfl⟩, rfl⟩, rfl⟩
  exact ⟨_, .group (List.mem_singleton.mp isOpen) derived (List.mem_singleton.mp isClose)⟩

theorem comparisons_le : expressions * (ofKinds relationKinds * expressions) ≤ atoms := by
  rintro _ ⟨left, ⟨first, derivedFirst⟩, _,
    ⟨_, ⟨sign, _, isSign, rfl⟩, right, ⟨second, derivedSecond⟩, rfl⟩, rfl⟩
  obtain ⟨operator, found⟩ : ∃ operator, relation? sign.kind = some operator := by
    rw [← Option.ne_none_iff_exists', ne_eq, relation?_eq_none_iff, not_not]
    exact isSign
  exact ⟨_, .comparison derivedFirst (relation?_eq_some_iff.mp found) derivedSecond⟩

/-! ## How conditions may begin -/

theorem begins_atoms : Begins atoms [] :=
  (begins_ofKinds .trueWord (by decide) (by decide)).mono constants_le

theorem begins_clauses : Begins clauses [] := begins_atoms.mono atoms_le_clauses

theorem begins_groups : Begins groups [] :=
  begins_closed (begins_clauses.mono clauses_le_conditions) .closeParen (by decide)

theorem begins_compared : Begins (ofKinds relationKinds * expressions) [] :=
  (begins_ofKinds .less (by decide) (by decide)).mul_left begins_expressions

/-- Every kind that an error names at the head of a condition begins one. -/
theorem conditionStart_viable {token : Token} (wellFormed : token.WellFormed)
    (starts : token.kind ∈ conditionStart) : Begins atoms [token] := by
  have cases_of_start : ∀ kind ∈ conditionStart, kind ∈ constantKinds ∨ kind ∈ factorStart := by
    decide
  rcases cases_of_start _ starts with isConstant | isFactor
  · exact .of_mem (constants_le ⟨token, wellFormed, isConstant, rfl⟩)
  · have begins := (factorStart_viable wellFormed isFactor).mono factors_le_terms
    exact ((begins.mono terms_le_expressions).mul_left begins_compared).mono comparisons_le

/-! ## Errors in conditions -/

theorem comparison_foretold (finish : Position) (tokens : List Token)
    (wellFormed : AllWellFormed tokens) : Foretold atoms (of comparison) finish tokens := by
  rw [of_comparison, of_relation]
  refine ((expression_foretold finish tokens wellFormed).followedBy wellFormed begins_compared
    ?_).mono comparisons_le
  intro rest isRest _
  have wellFormed := wellFormed.suffix isRest
  refine .oneOfThen wellFormed (by decide) begins_expressions ?_
  intro right isRight _
  exact expression_foretold finish right (wellFormed.suffix isRight)

/-- Where a comparison begins with a parenthesis there is no group. -/
theorem group_fails_of_comparison {finish : Position} {tokens rest : List Token}
    (isOpen : headKind tokens = .openParen) (read : of comparison finish tokens = .ok rest) :
    ∃ error, (oneOf [.openParen]).followedBy (of groupTail) finish tokens = .error error := by
  obtain ⟨_, compared⟩ := Reply.outcome_eq_ok_iff.mp read
  rw [comparison_reads?] at compared
  obtain ⟨⟨first, _⟩, readFirst, _⟩ := Option.bind_eq_some_iff.mp compared
  obtain ⟨used, rfl, derived⟩ := expression_sound readFirst
  obtain ⟨opening, tail, rfl, _⟩ := derived.begins
  obtain ⟨inner, closing, others, _, rfl, derivedInner, isClose⟩ :=
    value_between_parentheses derived isOpen
  rw [List.cons_append, oneOf_followedBy (List.mem_singleton.mpr isOpen), List.append_assoc,
    List.cons_append]
  exact Reply.outcome_eq_error_iff.mpr (groupTail_eq_none derivedInner isClose)

mutual

theorem condition_foretold (finish : Position) (tokens : List Token)
    (ready : Ready finish tokens) : Foretold conditions (of condition) finish tokens := by
  rw [of_condition]
  refine (conjunction_foretold finish tokens ready).chain ready.wellFormed clauses_le_conditions ?_
  intro rest isRest read
  have shorter := Reply.length_lt_of_outcome read
  have ready := ready.suffix isRest
  refine .loop disjuncts_eq (by decide) begins_clauses disjuncts_le Reply.length_lt_of_outcome rest
    ready.wellFormed ?_
  intro later isLater laterShorter
  exact conjunction_foretold finish later (ready.suffix isLater)
termination_by 4 * tokens.length + 2

theorem conjunction_foretold (finish : Position) (tokens : List Token)
    (ready : Ready finish tokens) : Foretold clauses (of conjunction) finish tokens := by
  rw [of_conjunction]
  refine (conditionAtom_foretold finish tokens ready).chain ready.wellFormed atoms_le_clauses ?_
  intro rest isRest read
  have shorter := Reply.length_lt_of_outcome read
  have ready := ready.suffix isRest
  refine .loop conjuncts_eq (by decide) begins_atoms conjuncts_le Reply.length_lt_of_outcome rest
    ready.wellFormed ?_
  intro later isLater laterShorter
  exact conditionAtom_foretold finish later (ready.suffix isLater)
termination_by 4 * tokens.length + 1

theorem conditionAtom_foretold (finish : Position) (tokens : List Token)
    (ready : Ready finish tokens) : Foretold atoms (of conditionAtom) finish tokens := by
  rw [of_conditionAtom]
  have wellFormed := ready.wellFormed
  refine .onHead wellFormed (fun _ => ?constant) fun _ => .onHead wellFormed (fun isOpen => ?group)
    fun _ => .onHead wellFormed (fun _ => ?operand) fun _ => ?other
  case constant => exact (Foretold.oneOf wellFormed (by decide)).mono constants_le
  case group =>
    refine .either ready.placed ?_ (comparison_foretold finish tokens wellFormed) ?_
    · refine (Foretold.oneOfThen wellFormed (by decide) begins_groups ?_).mono groups_le_atoms
      intro rest isRest isShorter
      exact groupTail_foretold finish rest (ready.suffix isRest)
    · intro place others rest _ sameHead read
      exact group_fails_of_comparison (sameHead.trans (List.mem_singleton.mp isOpen)) read
  case operand => exact comparison_foretold finish tokens wellFormed
  case other => exact .refuse (by decide) fun token => conditionStart_viable
termination_by 4 * tokens.length

theorem groupTail_foretold (finish : Position) (tokens : List Token)
    (ready : Ready finish tokens) : Foretold groups (of groupTail) finish tokens := by
  rw [of_groupTail]
  exact (condition_foretold finish tokens ready).closedBy ready.wellFormed (by decide)
termination_by 4 * tokens.length + 3

end

/-- Where both readings of a parenthesis fail, the error at the later token is kept. -/
theorem conditionAtom_keeps_further {finish : Position} {opening : Token} {rest : List Token}
    {groupError valueError : SyntaxError} (ready : Ready finish (opening :: rest))
    (isOpen : opening.kind = .openParen)
    (noGroup : (groupTail finish rest).outcome = .error groupError)
    (noValue : (comparison finish (opening :: rest)).outcome = .error valueError) :
    ∃ first second : Nat, first ≤ rest.length + 1 ∧ second ≤ rest.length + 1 ∧
      groupError = unexpected finish groupError.expected ((opening :: rest).drop first) ∧
      valueError = unexpected finish valueError.expected ((opening :: rest).drop second) ∧
      (conditionAtom finish (opening :: rest)).outcome =
        .error (if first < second then valueError else groupError) := by
  have readyRest := ready.suffix (List.suffix_cons opening rest)
  obtain ⟨count, refused, atCount⟩ :=
    (groupTail_foretold finish rest readyRest).refused readyRest.wellFormed noGroup
  obtain ⟨second, refusedValue, atSecond⟩ :=
    (comparison_foretold finish _ ready.wellFormed).refused ready.wellFormed noValue
  have atFirst : groupError =
      unexpected finish groupError.expected ((opening :: rest).drop (count + 1)) := atCount
  have firstBounded : count + 1 ≤ (opening :: rest).length := Nat.succ_le_succ refused.bounded
  refine ⟨count + 1, second, firstBounded, refusedValue.bounded, atFirst, atSecond, ?_⟩
  have kept : of conditionAtom finish (opening :: rest) =
      .error (furtherError groupError valueError) := by
    rw [of_conditionAtom, onHead_neg (by simp [constantKinds, isOpen]),
      onHead_pos (by simp [isOpen]), either, oneOf_followedBy (by simp [isOpen])]
    simp only [of, noGroup, noValue]
  have further : furtherError groupError valueError =
      if count + 1 < second then valueError else groupError := by
    rw [atFirst, atSecond]
    exact furtherError_eq ready.placed firstBounded refusedValue.bounded
  rw [← further]
  exact kept

end StructuredShell.Parser
