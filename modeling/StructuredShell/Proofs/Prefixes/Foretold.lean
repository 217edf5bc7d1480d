import Mathlib
import StructuredShell.Proofs.Lexing.Spelling
import StructuredShell.Proofs.Prefixes.Recognizers

/-!
# What the tokens so far decide

A recognizer that takes some tokens does so because of their kinds and of the kind of the token
behind them. A recognizer that fails does so because of the kinds up to the token that it reports:
no other tokens with these kinds would do better, and every kind that it expects there could have
stood there. Both are said at once, and both are kept by the ways in which recognizers are put
together.
-/

set_option autoImplicit false

namespace StructuredShell

/-! ## Languages of tokens -/

/-- A well-formed token that is not the end of the text. -/
structure Token.Inner (token : Token) : Prop where
  wellFormed : token.WellFormed
  noEnd : token.kind ≠ .finish

/-- Some token of a kind. -/
def Token.sample (kind : Kind) : Token :=
  ⟨kind, if kind.takesNumber then some (.number 0) else if kind.takesText then some (.text "")
    else none, .start⟩

theorem Token.sample_wellFormed (kind : Kind) : (Token.sample kind).WellFormed := by
  cases kind <;> simp [Token.sample, Token.WellFormed, Kind.takesNumber, Kind.takesText]

theorem Token.sample_inner {kind : Kind} (noEnd : kind ≠ .finish) : (Token.sample kind).Inner :=
  ⟨Token.sample_wellFormed kind, noEnd⟩

namespace Parser

/-- The single tokens of some kinds. -/
def ofKinds (kinds : List Kind) : Language Token :=
  {tokens | ∃ token : Token, token.WellFormed ∧ token.kind ∈ kinds ∧ tokens = [token]}

/-- What carries every phrase of one language on to a phrase of another. -/
def after (first whole : Language Token) : Language Token :=
  {tokens | ∀ before ∈ first, before ++ tokens ∈ whole}

/-- Whether tokens can be carried on to a phrase. -/
def Begins (language : Language Token) (start : List Token) : Prop :=
  ∃ more : List Token, (∀ token ∈ more, token.Inner) ∧ start ++ more ∈ language

section

variable {first second whole language : Language Token} {start used : List Token}

theorem mul_after_le : first * after first whole ≤ whole := by
  rintro tokens ⟨before, isFirst, rest, carriesOn, rfl⟩
  exact carriesOn before isFirst

theorem after_mul_after_le : after first second * after second whole ≤ after first whole := by
  rintro _ ⟨used, carriesOn, rest, carriesFurther, rfl⟩ before isFirst
  rw [← List.append_assoc]
  exact carriesFurther _ (carriesOn before isFirst)

theorem after_mono {smaller larger : Language Token} (smaller_le : smaller ≤ first)
    (le_larger : whole ≤ larger) : after first whole ≤ after smaller larger :=
  fun _ carriesOn before isSmaller => le_larger (carriesOn before (smaller_le isSmaller))

theorem nil_mem_after : [] ∈ after language language := by
  intro before isPhrase
  rwa [List.append_nil]

theorem Begins.of_mem (isPhrase : start ∈ language) : Begins language start :=
  ⟨[], List.forall_mem_nil _, by rwa [List.append_nil]⟩

theorem Begins.mono (begins : Begins first start) (included : first ≤ second) :
    Begins second start := by
  obtain ⟨more, areInner, isPhrase⟩ := begins
  exact ⟨more, areInner, included isPhrase⟩

/-- What begins a first part begins the whole if there is any second part. -/
theorem Begins.mul_left (begins : Begins first start) (ends : Begins second []) :
    Begins (first * second) start := by
  obtain ⟨more, areInner, isFirst⟩ := begins
  obtain ⟨last, areLastInner, isSecond⟩ := ends
  refine ⟨more ++ last, ?_, ?_⟩
  · intro token isMore
    rcases List.mem_append.mp isMore with isEarly | isLate
    · exact areInner token isEarly
    · exact areLastInner token isLate
  · rw [← List.append_assoc]
    exact Language.append_mem_mul isFirst isSecond

theorem Begins.mul_right (isFirst : used ∈ first) (begins : Begins second start) :
    Begins (first * second) (used ++ start) := by
  obtain ⟨more, areInner, isSecond⟩ := begins
  refine ⟨more, areInner, ?_⟩
  rw [List.append_assoc]
  exact Language.append_mem_mul isFirst isSecond

theorem begins_ofKinds {kinds : List Kind} (kind : Kind) (isKind : kind ∈ kinds)
    (noEnd : kind ≠ .finish) : Begins (ofKinds kinds) [] := by
  refine ⟨[.sample kind], ?_, .sample kind, Token.sample_wellFormed kind, isKind, rfl⟩
  intro token isSample
  rw [List.mem_singleton.mp isSample]
  exact Token.sample_inner noEnd

theorem begins_one (kind : Kind) (noEnd : kind ≠ .finish) : Begins (ofKinds [kind]) [] :=
  begins_ofKinds kind (.head _) noEnd

/-- A token begins every phrase that starts with its kind. -/
theorem begins_with {kinds : List Kind} {token : Token} (wellFormed : token.WellFormed)
    (isKind : token.kind ∈ kinds) (ends : Begins second []) :
    Begins (ofKinds kinds * second) [token] := by
  have isFirst : [token] ∈ ofKinds kinds := ⟨token, wellFormed, isKind, rfl⟩
  simpa using Begins.mul_right isFirst ends

end

/-! ## Agreement -/

/-- Whether two lists have the same kinds up to and with an index. The end of a list counts as the
end of the text. -/
def Agree (count : Nat) (tokens other : List Token) : Prop :=
  ∀ index ≤ count, headKind (other.drop index) = headKind (tokens.drop index)

section

variable {count : Nat} {tokens other : List Token}

theorem Agree.head (agree : Agree count tokens other) : headKind other = headKind tokens :=
  agree 0 (Nat.zero_le count)

theorem Agree.mono {less : Nat} (agree : Agree count tokens other) (isLess : less ≤ count) :
    Agree less tokens other :=
  fun index isIndex => agree index (isIndex.trans isLess)

theorem Agree.drop {passed : Nat} (agree : Agree (passed + count) tokens other) :
    Agree count (tokens.drop passed) (other.drop passed) := by
  intro index isIndex
  rw [List.drop_drop, List.drop_drop]
  exact agree (passed + index) (Nat.add_le_add_left isIndex passed)

end

/-! ## Foretold outcomes -/

/-- A recognizer takes a phrase, and so it does from all tokens with the same kinds up to the one
behind the phrase. -/
structure Takes (language : Language Token) (reader : Recognizer) (tokens : List Token)
    (count : Nat) : Prop where
  bounded : count ≤ tokens.length
  isPhrase : tokens.take count ∈ language
  takes : ∀ (finish : Position) (other : List Token), AllWellFormed other →
    Agree count tokens other → reader finish other = .ok (other.drop count)

/-- A recognizer reports a token. Each expected kind could stand in its place, and all tokens with
the same kinds up to the reported one fail. -/
structure Refuses (language : Language Token) (reader : Recognizer) (finish : Position)
    (tokens : List Token) (count : Nat) (expected : List Kind) : Prop where
  bounded : count ≤ tokens.length
  reports : reader finish tokens = .error (unexpected finish expected (tokens.drop count))
  expects : expected ≠ [] ∧ .finish ∉ expected
  viable : ∀ token : Token, token.WellFormed → token.kind ∈ expected →
    Begins language (tokens.take count ++ [token])
  refuses : ∀ (finish : Position) (other : List Token), AllWellFormed other →
    Agree count tokens other → ∃ error, reader finish other = .error error

def Foretold (language : Language Token) (reader : Recognizer) (finish : Position)
    (tokens : List Token) : Prop :=
  (∃ count, Takes language reader tokens count) ∨
    ∃ count expected, Refuses language reader finish tokens count expected

namespace Foretold

variable {language larger first second : Language Token} {reader other next : Recognizer}
  {finish : Position} {tokens : List Token} {kinds : List Kind}

theorem mono (foretold : Foretold language reader finish tokens) (included : language ≤ larger) :
    Foretold larger reader finish tokens := by
  rcases foretold with ⟨count, took⟩ | ⟨count, expected, refused⟩
  · exact .inl ⟨count, took.bounded, included took.isPhrase, took.takes⟩
  · refine .inr ⟨count, expected, refused.bounded, refused.reports, refused.expects, ?_,
      refused.refuses⟩
    intro token wellFormed isExpected
    exact (refused.viable token wellFormed isExpected).mono included

/-- Recognizers that do the same on all tokens with the kind that is ahead are foretold alike. -/
theorem congr (foretold : Foretold language reader finish tokens)
    (wellFormed : AllWellFormed tokens)
    (same : ∀ (place : Position) (others : List Token), AllWellFormed others →
      headKind others = headKind tokens → other place others = reader place others) :
    Foretold language other finish tokens := by
  rcases foretold with ⟨count, took⟩ | ⟨count, expected, refused⟩
  · refine .inl ⟨count, took.bounded, took.isPhrase, ?_⟩
    intro place others areWellFormed agree
    rw [same place others areWellFormed agree.head]
    exact took.takes place others areWellFormed agree
  · refine .inr ⟨count, expected, refused.bounded, ?_, refused.expects, refused.viable, ?_⟩
    · rw [same finish tokens wellFormed rfl]
      exact refused.reports
    · intro place others areWellFormed agree
      rw [same place others areWellFormed agree.head]
      exact refused.refuses place others areWellFormed agree

theorem onHead (wellFormed : AllWellFormed tokens)
    (yes : headKind tokens ∈ kinds → Foretold language reader finish tokens)
    (no : headKind tokens ∉ kinds → Foretold language other finish tokens) :
    Foretold language (.onHead kinds reader other) finish tokens := by
  by_cases isKind : headKind tokens ∈ kinds
  · refine (yes isKind).congr wellFormed ?_
    intro place others _ sameHead
    exact onHead_pos (sameHead ▸ isKind)
  · refine (no isKind).congr wellFormed ?_
    intro place others _ sameHead
    exact onHead_neg (sameHead ▸ isKind)

theorem stay (isPhrase : [] ∈ language) : Foretold language .stay finish tokens := by
  refine .inl ⟨0, Nat.zero_le _, isPhrase, ?_⟩
  intro place others _ _
  rfl

theorem refuse {expected : List Kind} (expects : expected ≠ [] ∧ .finish ∉ expected)
    (viable : ∀ token : Token, token.WellFormed → token.kind ∈ expected →
      Begins language [token]) :
    Foretold language (.refuse expected) finish tokens := by
  refine .inr ⟨0, expected, Nat.zero_le _, rfl, expects, viable, ?_⟩
  intro place others _ _
  exact ⟨_, rfl⟩

theorem oneOf (wellFormed : AllWellFormed tokens) (expects : kinds ≠ [] ∧ .finish ∉ kinds) :
    Foretold (ofKinds kinds) (.oneOf kinds) finish tokens := by
  by_cases isKind : headKind tokens ∈ kinds
  · match tokens with
    | [] => exact absurd isKind expects.2
    | token :: rest =>
        refine .inl ⟨1, by simp, ⟨token, wellFormed token (.head _), isKind, rfl⟩, ?_⟩
        intro place others _ agree
        exact oneOf_of_head (agree.head ▸ isKind) expects.2
  · refine .inr ⟨0, kinds, Nat.zero_le _, oneOf_of_not_head isKind, expects, ?_, ?_⟩
    · intro token wellFormed isExpected
      exact .of_mem ⟨token, wellFormed, isExpected, rfl⟩
    · intro place others _ agree
      exact ⟨_, oneOf_of_not_head (agree.head ▸ isKind)⟩

/-- One recognizer after another. An error in the first part lies within the whole, since there is
something that could stand in the second part. -/
theorem followedBy (wellFormed : AllWellFormed tokens)
    (foretold : Foretold first reader finish tokens) (ends : Begins second [])
    (goesOn : ∀ rest, rest <:+ tokens → reader finish tokens = .ok rest →
      Foretold second next finish rest) :
    Foretold (first * second) (reader.followedBy next) finish tokens := by
  rcases foretold with ⟨count, took⟩ | ⟨count, expected, refused⟩
  · have here := took.takes finish tokens wellFormed fun _ _ => rfl
    rcases goesOn _ (List.drop_suffix count tokens) here with
      ⟨more, tookMore⟩ | ⟨more, expected, refused⟩
    · have bounded := tookMore.bounded
      rw [List.length_drop] at bounded
      refine .inl ⟨count + more, by have := took.bounded; omega, ?_, ?_⟩
      · rw [List.take_add]
        exact Language.append_mem_mul took.isPhrase tookMore.isPhrase
      · intro place others areWellFormed agree
        rw [Recognizer.followedBy, took.takes place others areWellFormed (agree.mono (by omega)),
          ← List.drop_drop]
        exact tookMore.takes place _ (areWellFormed.suffix (List.drop_suffix count _)) agree.drop
    · have bounded := refused.bounded
      rw [List.length_drop] at bounded
      refine .inr ⟨count + more, expected, by have := took.bounded; omega, ?_, refused.expects, ?_,
        ?_⟩
      · rw [Recognizer.followedBy, here, ← List.drop_drop]
        exact refused.reports
      · intro token isWellFormed isExpected
        rw [List.take_add, List.append_assoc]
        exact .mul_right took.isPhrase (refused.viable token isWellFormed isExpected)
      · intro place others areWellFormed agree
        rw [Recognizer.followedBy, took.takes place others areWellFormed (agree.mono (by omega))]
        exact refused.refuses place _ (areWellFormed.suffix (List.drop_suffix count _)) agree.drop
  · refine .inr ⟨count, expected, refused.bounded, ?_, refused.expects, ?_, ?_⟩
    · rw [Recognizer.followedBy, refused.reports]
    · intro token isWellFormed isExpected
      exact (refused.viable token isWellFormed isExpected).mul_left ends
    · intro place others areWellFormed agree
      obtain ⟨error, failed⟩ := refused.refuses place others areWellFormed agree
      exact ⟨error, by rw [Recognizer.followedBy, failed]⟩

theorem closedBy (wellFormed : AllWellFormed tokens)
    (foretold : Foretold first reader finish tokens) {kind : Kind} (noEnd : kind ≠ .finish) :
    Foretold (first * ofKinds [kind]) (reader.followedBy (.oneOf [kind])) finish tokens := by
  refine foretold.followedBy wellFormed (begins_one kind noEnd) ?_
  intro rest isRest _
  exact .oneOf (wellFormed.suffix isRest) ⟨nofun, by simpa using noEnd.symm⟩

/-- A token of given kinds, and behind it another recognizer. -/
theorem oneOfThen (wellFormed : AllWellFormed tokens) (expects : kinds ≠ [] ∧ .finish ∉ kinds)
    (ends : Begins second [])
    (goesOn : ∀ rest, rest <:+ tokens → rest.length < tokens.length →
      Foretold second next finish rest) :
    Foretold (ofKinds kinds * second) ((Recognizer.oneOf kinds).followedBy next) finish tokens := by
  refine (Foretold.oneOf wellFormed expects).followedBy wellFormed ends ?_
  intro rest isRest taken
  obtain ⟨token, _, rfl⟩ := oneOf_eq_ok_iff.mp taken
  exact goesOn rest isRest (Nat.lt_succ_self rest.length)

/-- A loop over items that signs divide, after whatever it carries on. -/
theorem loop {item whole : Language Token} {tail : Recognizer} {signs : List Kind}
    (isLoop : tail = .onHead signs ((Recognizer.oneOf signs).followedBy (reader.followedBy tail))
      .stay)
    (expects : signs ≠ [] ∧ .finish ∉ signs) (begins : Begins item [])
    (carriesOn : ofKinds signs * (item * after whole whole) ≤ after whole whole)
    (shorter : ∀ {tokens rest}, reader finish tokens = .ok rest → rest.length < tokens.length)
    (tokens : List Token) (wellFormed : AllWellFormed tokens)
    (items : ∀ rest, rest <:+ tokens → rest.length < tokens.length →
      Foretold item reader finish rest) :
    Foretold (after whole whole) tail finish tokens := by
  rw [isLoop]
  refine .onHead wellFormed (fun _ => ?_) fun _ => .stay nil_mem_after
  refine (Foretold.oneOfThen wellFormed expects (begins.mul_left (.of_mem nil_mem_after))
    ?_).mono carriesOn
  intro behind isBehind isShorter
  have wellFormed := wellFormed.suffix isBehind
  refine (items behind isBehind isShorter).followedBy wellFormed (.of_mem nil_mem_after) ?_
  intro rest isRest read
  have restShorter := (shorter read).trans isShorter
  refine loop isLoop expects begins carriesOn shorter rest (wellFormed.suffix isRest) ?_
  intro later isLater laterShorter
  exact items later (isLater.trans (isRest.trans isBehind)) (laterShorter.trans restShorter)
termination_by tokens.length

/-- An item and the loop that carries it on. -/
theorem chain {item whole : Language Token} {tail : Recognizer} (wellFormed : AllWellFormed tokens)
    (foretold : Foretold item reader finish tokens) (included : item ≤ whole)
    (goesOn : ∀ rest, rest <:+ tokens → reader finish tokens = .ok rest →
      Foretold (after whole whole) tail finish rest) :
    Foretold whole (reader.followedBy tail) finish tokens :=
  (foretold.followedBy wellFormed (.of_mem nil_mem_after) goesOn).mono
    (le_trans (mul_le_mul' included le_rfl) mul_after_le)

/-- A foretold error is a refusal. -/
theorem refused {error : SyntaxError} (foretold : Foretold language reader finish tokens)
    (wellFormed : AllWellFormed tokens) (failed : reader finish tokens = .error error) :
    ∃ count, Refuses language reader finish tokens count error.expected ∧
      error = unexpected finish error.expected (tokens.drop count) := by
  rcases foretold with ⟨count, took⟩ | ⟨count, expected, refused⟩
  · rw [took.takes finish tokens wellFormed fun _ _ => rfl] at failed
    cases failed
  · have same : unexpected finish expected (tokens.drop count) = error := by
      simpa [refused.reports] using failed
    have sameExpected : error.expected = expected := by
      rw [← same]
      cases tokens.drop count <;> rfl
    rw [sameExpected]
    exact ⟨count, refused, same.symm⟩

end Foretold

/-! ## Two ways from one place -/

/-- Whether each token stands before the next, and the last one before the end of the text. -/
def Placed (finish : Position) (tokens : List Token) : Prop :=
  (tokens.map Token.position ++ [finish]).Pairwise fun early late => early.before late = true

section

variable {finish : Position} {tokens : List Token} {first second : Nat}
  {firstExpected secondExpected : List Kind}

theorem Placed.suffix {rest : List Token} (placed : Placed finish tokens)
    (isRest : rest <:+ tokens) : Placed finish rest :=
  placed.sublist ((isRest.sublist.map Token.position).append_right [finish])

/-- Tokens as a source text has them. -/
structure Ready (finish : Position) (tokens : List Token) : Prop where
  wellFormed : AllWellFormed tokens
  placed : Placed finish tokens

theorem Ready.suffix {rest : List Token} (ready : Ready finish tokens) (isRest : rest <:+ tokens) :
    Ready finish rest :=
  ⟨ready.wellFormed.suffix isRest, ready.placed.suffix isRest⟩

theorem unexpected_position (finish : Position) (expected : List Kind) {index : Nat}
    (bounded : index ≤ tokens.length) :
    (tokens.map Token.position ++ [finish])[index]? =
      some (unexpected finish expected (tokens.drop index)).position := by
  rcases Nat.lt_or_eq_of_le bounded with isInside | rfl
  · rw [List.drop_eq_getElem_cons isInside, List.getElem?_append_left (by simpa using isInside),
      List.getElem?_map, List.getElem?_eq_getElem isInside]
    rfl
  · simp [unexpected]

/-- An error at an earlier token lies before one at a later token. -/
theorem Placed.before (placed : Placed finish tokens) (isEarlier : first < second)
    (bounded : second ≤ tokens.length) :
    (unexpected finish firstExpected (tokens.drop first)).position.before
      (unexpected finish secondExpected (tokens.drop second)).position = true := by
  have early := unexpected_position finish firstExpected (isEarlier.le.trans bounded)
  have late := unexpected_position finish secondExpected bounded
  obtain ⟨isEarly, sameEarly⟩ := List.getElem?_eq_some_iff.mp early
  obtain ⟨isLate, sameLate⟩ := List.getElem?_eq_some_iff.mp late
  rw [← sameEarly, ← sameLate]
  exact List.pairwise_iff_getElem.mp placed first second isEarly isLate isEarlier

theorem Placed.not_before (placed : Placed finish tokens) (isLater : second ≤ first)
    (bounded : first ≤ tokens.length) :
    ¬(unexpected finish firstExpected (tokens.drop first)).position.before
      (unexpected finish secondExpected (tokens.drop second)).position = true := by
  rcases Nat.lt_or_eq_of_le isLater with isLater | rfl
  · have back : (unexpected finish secondExpected (tokens.drop second)).position.before
        (unexpected finish firstExpected (tokens.drop first)).position = true :=
      placed.before isLater bounded
    rw [Position.before_iff] at back ⊢
    omega
  · have same : (unexpected finish firstExpected (tokens.drop second)).position =
        (unexpected finish secondExpected (tokens.drop second)).position := by
      cases tokens.drop second <;> rfl
    rw [same, Position.before_iff]
    omega

/-- Of two errors on the same tokens the one at the later token is reported, and the first one if
both are at the same token. -/
theorem furtherError_eq (placed : Placed finish tokens) (firstBounded : first ≤ tokens.length)
    (secondBounded : second ≤ tokens.length) :
    furtherError (unexpected finish firstExpected (tokens.drop first))
        (unexpected finish secondExpected (tokens.drop second)) =
      if first < second then unexpected finish secondExpected (tokens.drop second)
      else unexpected finish firstExpected (tokens.drop first) := by
  unfold furtherError
  split
  · next isBefore =>
      rw [if_pos]
      by_contra isLater
      exact placed.not_before (Nat.not_lt.mp isLater) firstBounded isBefore
  · next notBefore =>
      rw [if_neg]
      intro isEarlier
      exact notBefore (placed.before isEarlier secondBounded)

end

/-- Two ways of which the second succeeds only where the first fails. The error that is kept is the
one that got further, and what it expects is viable on the way that it was found. -/
theorem Foretold.either {language : Language Token} {reader other : Recognizer} {finish : Position}
    {tokens : List Token} (placed : Placed finish tokens)
    (first : Foretold language reader finish tokens)
    (second : Foretold language other finish tokens)
    (apart : ∀ (place : Position) (others rest : List Token), AllWellFormed others →
      headKind others = headKind tokens → other place others = .ok rest →
        ∃ error, reader place others = .error error) :
    Foretold language (.either reader other) finish tokens := by
  rcases first with ⟨count, took⟩ | ⟨count, expected, refused⟩
  · refine .inl ⟨count, took.bounded, took.isPhrase, ?_⟩
    intro place others areWellFormed agree
    rw [Recognizer.either, took.takes place others areWellFormed agree]
  · rcases second with ⟨more, took⟩ | ⟨more, expectedMore, refusedMore⟩
    · refine .inl ⟨more, took.bounded, took.isPhrase, ?_⟩
      intro place others areWellFormed agree
      have isTaken := took.takes place others areWellFormed agree
      obtain ⟨error, failed⟩ := apart place others _ areWellFormed agree.head isTaken
      rw [Recognizer.either, failed, isTaken]
    · have fails : ∀ (place : Position) (others : List Token), AllWellFormed others →
          Agree (max count more) tokens others →
            ∃ error, Recognizer.either reader other place others = .error error := by
        intro place others areWellFormed agree
        obtain ⟨_, failed⟩ := refused.refuses place others areWellFormed (agree.mono (by omega))
        obtain ⟨_, failedMore⟩ :=
          refusedMore.refuses place others areWellFormed (agree.mono (by omega))
        exact ⟨_, by rw [Recognizer.either, failed, failedMore]⟩
      have reports : Recognizer.either reader other finish tokens = .error (furtherError
          (unexpected finish expected (tokens.drop count))
          (unexpected finish expectedMore (tokens.drop more))) := by
        rw [Recognizer.either, refused.reports, refusedMore.reports]
      rw [furtherError_eq placed refused.bounded refusedMore.bounded] at reports
      by_cases further : count < more
      · rw [if_pos further] at reports
        rw [Nat.max_eq_right further.le] at fails
        exact .inr ⟨more, expectedMore, refusedMore.bounded, reports, refusedMore.expects,
          refusedMore.viable, fails⟩
      · rw [if_neg further] at reports
        rw [Nat.max_eq_left (Nat.not_lt.mp further)] at fails
        exact .inr ⟨count, expected, refused.bounded, reports, refused.expects, refused.viable,
          fails⟩

end Parser

end StructuredShell
