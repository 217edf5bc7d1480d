import StructuredShell.Proofs.Lexing.Spelling

/-!
# Items of ordinary code and texts of environments

The functions that cut one piece off the head of a text, against what the piece spells. Each of them
is described in both directions: what it takes is a spelling that nothing prolongs, and a spelling
that nothing prolongs is what it takes.
-/

set_option autoImplicit false

namespace StructuredShell.Lexer

/-! ## Signs -/

theorem pairKind?_spells {first second : Char} {kind : Kind}
    (found : pairKind? first second = some kind) :
    isSign kind = true ∧ kind.symbol.toList = [first, second] ∧
      ∀ c, continuedBy kind c = false := by
  unfold pairKind? at found
  split at found <;> cases found <;> exact ⟨rfl, rfl, fun _ => rfl⟩

theorem singleKind?_spells {c : Char} {kind : Kind} (found : singleKind? c = some kind) :
    isSign kind = true ∧ kind.symbol.toList = [c] ∧
      ∀ d, continuedBy kind d = true →
        (pairKind? c d).isSome = true ∨ c = '/' ∧ (d = '/' ∨ d = '*') := by
  unfold singleKind? at found
  split at found <;> cases found <;> refine ⟨rfl, rfl, fun d continued => ?_⟩ <;>
    simp_all [continuedBy, pairKind?]

theorem isSign_ne_rawText {kind : Kind} (sign : isSign kind = true) : kind ≠ .rawText := by
  intro isText
  subst isText
  cases sign

/-! ## Items -/

/-- What an item stands for, given its characters and those that follow: blanks, a comment, or a
spelling that the following characters do not prolong. -/
def Item.Fits (found : Item) (taken rest : List Char) : Prop :=
  match found.token with
  | none => taken.all isSpacing = true ∨ Comment rest taken
  | some (kind, literal) =>
    Spells kind literal taken ∧ kind ≠ .rawText ∧ Stops (continuedBy kind) rest

/-- Whether an item is at the head of a text and counts its characters. -/
def Item.Heads (found : Item) (c : Char) (cs : List Char) : Prop :=
  ∃ tail rest, cs = tail ++ rest ∧ found.further = tail.length ∧ found.Fits (c :: tail) rest

theorem stringItem_heads {cs : List Char} {found : Item} (read : stringItem cs = .ok found) :
    found.Heads '"' cs := by
  obtain ⟨body, rest, rfl, inBody, stops, taken⟩ := exists_run (· != '"') cs
  simp only [stringItem, taken] at read
  split at read
  · cases read
    match rest with
    | [] => simp_all
    | c :: rest =>
        obtain rfl : c = '"' := by simpa using stops
        have absent : '"' ∉ body := by
          intro quoted
          simpa using List.all_eq_true.mp inBody '"' quoted
        exact ⟨body ++ ['"'], rest, by simp, by simp, .string absent, by simp, fun _ _ => rfl⟩
  · cases read

theorem numberItem_heads {c : Char} {cs : List Char} {found : Item}
    (isDigit : Text.isDigit c = true) (read : numberItem c cs = .ok found) : found.Heads c cs := by
  obtain ⟨body, rest, rfl, inBody, stops, taken⟩ := exists_run Text.isDigit cs
  simp only [numberItem, taken, digitsValue_eq_decimalValue] at read
  split at read
  · rename_i small
    cases read
    have digits : (c :: body).all Text.isDigit = true := by simp [isDigit, inBody]
    exact ⟨body, rest, rfl, rfl, .number (by simp) digits small, by simp, stops⟩
  · cases read

theorem ofKeyword?_eq_some {word : String} {kind : Kind}
    (found : Kind.ofKeyword? word = some kind) :
    isSign kind = true ∧ kind.symbol = word ∧ continuedBy kind = Text.continuesWord := by
  obtain ⟨before, after, listed, -⟩ := List.lookup_eq_some_iff.mp found
  have isEntry : (word, kind) ∈ Kind.keywords := by simp [listed]
  have every : ∀ entry ∈ Kind.keywords, isSign entry.2 = true ∧ entry.2.symbol = entry.1 ∧
      continuedBy entry.2 = Text.continuesWord := by
    simp [Kind.keywords, isSign, Kind.takesNumber, Kind.takesText, continuedBy, funext_iff]
  exact every _ isEntry

theorem wordItem_heads {c : Char} (cs : List Char) (starts : Text.startsWord c = true) :
    (wordItem c cs).Heads c cs := by
  obtain ⟨body, rest, rfl, inBody, stops, taken⟩ := exists_run Text.continuesWord cs
  have isWord : Text.isWordChars (c :: body) = true := by simp [Text.isWordChars, starts, inBody]
  refine ⟨body, rest, rfl, ?_⟩
  simp only [wordItem, taken]
  split
  · rename_i kind found
    obtain ⟨sign, spelled, continued⟩ := ofKeyword?_eq_some found
    refine ⟨rfl, ?_, isSign_ne_rawText sign, continued ▸ stops⟩
    have spells := Spells.sign sign
    rwa [spelled, String.toList_ofList] at spells
  · rename_i free
    exact ⟨rfl, .ident isWord free, by simp, stops⟩

theorem tokenItem_heads {c : Char} {cs : List Char} {found : Item}
    (noComment : c = '/' → Stops (continuedBy .slash) cs) (read : tokenItem c cs = .ok found) :
    found.Heads c cs := by
  unfold tokenItem at read
  split at read
  case h_1 kind paired =>
    cases read
    obtain ⟨second, isHead, paired⟩ := Option.bind_eq_some_iff.mp paired
    obtain ⟨sign, spelled, ends⟩ := pairKind?_spells paired
    obtain ⟨rest, rfl⟩ := List.head?_eq_some_iff.mp isHead
    exact ⟨[second], rest, rfl, rfl, spelled ▸ .sign sign, isSign_ne_rawText sign,
      fun d _ => ends d⟩
  case h_2 unpaired =>
    split at read
    case h_1 kind single =>
      cases read
      obtain ⟨sign, spelled, ends⟩ := singleKind?_spells single
      refine ⟨[], cs, rfl, rfl, spelled ▸ .sign sign, isSign_ne_rawText sign, fun d isHead => ?_⟩
      rw [isHead, Option.bind_some] at unpaired
      rw [Bool.eq_false_iff]
      intro continued
      rcases ends d continued with paired | ⟨rfl, slashed⟩
      · simp [unpaired] at paired
      · have stopped := noComment rfl d isHead
        rcases slashed with rfl | rfl <;> cases stopped
    case h_2 =>
      split at read
      · rename_i isDollar
        subst isDollar
        cases read
        exact ⟨[], cs, rfl, rfl, .sign rfl, by simp, fun _ _ => rfl⟩
      split at read
      · rename_i isQuote
        subst isQuote
        exact stringItem_heads read
      split at read
      · rename_i isDigit
        exact numberItem_heads isDigit read
      split at read
      · rename_i starts
        cases read
        exact wordItem_heads cs starts
      · cases read

theorem item_heads {c : Char} {cs : List Char} {found : Item} (read : item c cs = .ok found) :
    found.Heads c cs := by
  unfold item at read
  split at read
  · rename_i isBlank
    cases read
    obtain ⟨run, rest, rfl, inRun, stops, taken⟩ := exists_run isSpacing cs
    exact ⟨run, rest, rfl, congrArg List.length taken, .inl (by simp [isBlank, inRun])⟩
  split at read
  · rename_i body _
    cases read
    obtain ⟨run, rest, found, inRun, stops, taken⟩ := exists_run (· != '\n') ('/' :: body)
    match run with
    | [] =>
        rw [List.nil_append] at found
        rw [← found, stops_cons] at stops
        cases stops
    | d :: run =>
        obtain ⟨rfl, rfl⟩ := List.cons.inj found
        refine ⟨'/' :: run, rest, rfl, congrArg List.length taken, .inr (.line ?_ stops)⟩
        intro newline
        simpa using List.all_eq_true.mp inRun '\n' (List.mem_cons_of_mem _ newline)
  · rename_i body _
    split at read
    · rename_i length closed
      cases read
      obtain ⟨inside, rest, rfl, rfl, absent⟩ := commentLength?_sound closed
      exact ⟨'*' :: (inside ++ ['*', '/']), rest, by simp, by simp [Item.gap],
        .inr (.block absent)⟩
    · cases read
  · rename_i notLine notBlock
    refine tokenItem_heads ?_ read
    intro isSlash d isHead
    subst isSlash
    obtain ⟨rest, rfl⟩ := List.head?_eq_some_iff.mp isHead
    have notSlash : d ≠ '/' := fun same => notLine rest rfl (by rw [same])
    have notStar : d ≠ '*' := fun same => notBlock rest rfl (by rw [same])
    simp [continuedBy, notSlash, notStar]

/-! ## Every spelling is read -/

theorem item_blank {c : Char} (isBlank : isSpacing c = true) (cs : List Char) :
    item c cs = .ok (.gap (cs.takeWhile isSpacing).length) := by
  simp [item, isBlank]

theorem item_comment {c : Char} {tail rest : List Char} (comment : Comment rest (c :: tail)) :
    item c (tail ++ rest) = .ok (.gap tail.length) := by
  cases comment with
  | @line body absent stops =>
      have inBody : ('/' :: body).all (· != '\n') = true := by
        simp only [List.all_eq_true, List.mem_cons, bne_iff_ne]
        intro c isMember newline
        rcases isMember with rfl | inside
        · cases newline
        · exact absent (newline ▸ inside)
      have taken := takeWhile_run inBody stops
      rw [List.cons_append] at taken ⊢
      simp [item, isSpacing, taken]
  | @block body absent =>
      simp [item, isSpacing, commentLength?_complete absent, Item.gap]

/-- Letters, digits and the underscore start numbers and words and nothing else. -/
theorem item_alphanumeric {c : Char} (inWord : Text.continuesWord c = true) (cs : List Char) :
    item c cs = if Text.isDigit c then numberItem c cs else .ok (wordItem c cs) := by
  have notBlank : isSpacing c = false := by
    rw [Bool.eq_false_iff]
    intro isBlank
    simp only [isSpacing, Bool.or_eq_true, beq_iff_eq] at isBlank
    rcases isBlank with ((rfl | rfl) | rfl) | rfl <;> cases inWord
  have unpaired : cs.head?.bind (pairKind? c) = none := by
    rw [Option.bind_eq_none_iff]
    intro d _
    rw [Option.eq_none_iff_forall_ne_some]
    intro kind found
    unfold pairKind? at found
    split at found <;> cases found <;> cases inWord
  have single : singleKind? c = none := by
    rw [Option.eq_none_iff_forall_ne_some]
    intro kind found
    unfold singleKind? at found
    split at found <;> cases found <;> cases inWord
  have differs {d : Char} (outside : Text.continuesWord d = false) : c ≠ d := by
    intro same
    rw [← same, inWord] at outside
    cases outside
  have notSlash : c ≠ '/' := differs rfl
  have notDollar : c ≠ '$' := differs rfl
  have notQuote : c ≠ '"' := differs rfl
  have starts : Text.isDigit c = false → Text.startsWord c = true := by
    intro notDigit
    simpa [Text.continuesWord, notDigit] using inWord
  have isToken : item c cs = tokenItem c cs := by
    unfold item
    split
    · simp_all
    · split
      · contradiction
      · contradiction
      · rfl
  rw [isToken, tokenItem, unpaired, single]
  simp only [notDollar, notQuote, if_false]
  split
  · rfl
  · rename_i notDigit
    simp [starts (by simpa using notDigit)]

theorem startsWord_not_digit {c : Char} (starts : Text.startsWord c = true) :
    Text.isDigit c = false := by
  simp only [Text.startsWord, Bool.or_eq_true, Bool.and_eq_true, decide_eq_true_eq, beq_iff_eq,
    Char.le_def, UInt32.le_iff_toNat_le] at starts
  simp only [Text.isDigit, Bool.and_eq_false_iff, decide_eq_false_iff_not, Char.le_def,
    UInt32.le_iff_toNat_le]
  rcases starts with (lower | upper) | rfl
  · have bound : 'a'.val.toNat = 97 ∧ '9'.val.toNat = 57 := ⟨rfl, rfl⟩
    omega
  · have bound : 'A'.val.toNat = 65 ∧ '9'.val.toNat = 57 := ⟨rfl, rfl⟩
    omega
  · decide

theorem item_word {c : Char} {tail rest : List Char}
    (isWord : Text.isWordChars (c :: tail) = true) (stops : Stops Text.continuesWord rest) :
    item c (tail ++ rest) = .ok (match Kind.ofKeyword? (String.ofList (c :: tail)) with
      | some kind => .sign kind tail.length
      | none => ⟨some (.ident, some (.text (String.ofList (c :: tail)))), tail.length⟩) := by
  obtain ⟨starts, inTail⟩ : Text.startsWord c = true ∧ tail.all Text.continuesWord = true := by
    simpa [Text.isWordChars] using isWord
  rw [item_alphanumeric (by simp [Text.continuesWord, starts]), startsWord_not_digit starts,
    wordItem, takeWhile_run inTail stops]
  rfl

theorem item_token {kind : Kind} {literal : Option Literal} {c : Char} {tail rest : List Char}
    (spells : Spells kind literal (c :: tail)) (isCode : kind ≠ .rawText)
    (stops : Stops (continuedBy kind) rest) :
    item c (tail ++ rest) = .ok ⟨some (kind, literal), tail.length⟩ := by
  generalize isSpelling : c :: tail = spelling at spells
  cases spells with
  | sign sign =>
      cases kind
      case ident | number | string | rawText | finish => cases sign
      case funcWord | ifWord | elseWord | forWord | whileWord | varWord | returnWord | rawWord
        | trueWord | falseWord =>
          obtain ⟨rfl, rfl⟩ := List.cons.inj isSpelling
          exact item_word rfl stops
      case assign | less | greater | bang | slash =>
          simp only [Kind.symbol, String.reduceToList, List.cons.injEq] at isSpelling
          obtain ⟨rfl, rfl⟩ := isSpelling
          cases rest with
          | nil => rfl
          | cons d rest =>
              have stopped := stops_cons.mp stops
              simp_all [continuedBy, item, isSpacing, tokenItem, pairKind?, singleKind?, Item.sign]
      all_goals
        obtain ⟨rfl, rfl⟩ := List.cons.inj isSpelling
        cases rest <;> rfl
  | ident isWord free =>
      subst isSpelling
      rw [item_word isWord stops, free]
  | number nonempty digits small =>
      subst isSpelling
      obtain ⟨isDigit, inTail⟩ : Text.isDigit c = true ∧ tail.all Text.isDigit = true := by
        simpa using digits
      rw [item_alphanumeric (by simp [Text.continuesWord, isDigit]), isDigit, if_pos rfl,
        numberItem, takeWhile_run inTail stops, digitsValue_eq_decimalValue]
      simp [small]
  | @string text absent =>
      obtain ⟨rfl, rfl⟩ := List.cons.inj isSpelling
      have inText : text.all (· != '"') = true := by
        simp only [List.all_eq_true, bne_iff_ne]
        intro c inside quote
        exact absent (quote ▸ inside)
      have quoteEnds : Stops (· != '"') ('"' :: rest) := by simp
      have taken := takeWhile_run inText quoteEnds
      simp [item, isSpacing, tokenItem, pairKind?, singleKind?, stringItem, taken]
  | rawText => exact absurd rfl isCode

/-! ## Texts of environments -/

namespace Delimiter

/-- How many opening delimiters wait to be balanced after one more character, unless it closes more
than was open. -/
def after? (delimiter : Delimiter) (pending : Nat) (c : Char) : Option Nat :=
  if c = delimiter.opener then some (pending + 1)
  else if c = delimiter.closer then
    match pending with
    | 0 => none
    | pending + 1 => some pending
  else some pending

def level? (delimiter : Delimiter) (pending : Nat) (text : List Char) : Option Nat :=
  text.foldlM delimiter.after? pending

theorem closer_ne_opener (delimiter : Delimiter) : delimiter.closer ≠ delimiter.opener := by
  cases delimiter <;> decide

@[simp] theorem level?_nil (delimiter : Delimiter) (pending : Nat) :
    delimiter.level? pending [] = some pending := rfl

@[simp] theorem level?_cons (delimiter : Delimiter) (pending : Nat) (c : Char) (text : List Char) :
    delimiter.level? pending (c :: text) =
      (delimiter.after? pending c).bind fun left => delimiter.level? left text := by
  simp only [level?, List.foldlM_cons, Option.bind_eq_bind]

theorem level?_append (delimiter : Delimiter) (pending : Nat) (first second : List Char) :
    delimiter.level? pending (first ++ second) =
      (delimiter.level? pending first).bind fun left => delimiter.level? left second := by
  simp only [level?, List.foldlM_append, Option.bind_eq_bind]

theorem after?_eq_some_iff (delimiter : Delimiter) (pending left : Nat) (c : Char) :
    delimiter.after? pending c = some left ↔
      left + [c].count delimiter.closer = pending + [c].count delimiter.opener := by
  have differ := delimiter.closer_ne_opener
  unfold after?
  split
  · grind
  · grind

theorem level?_eq_some_iff (delimiter : Delimiter) (pending left : Nat) (text : List Char) :
    delimiter.level? pending text = some left ↔
      (∀ initial, initial <+: text →
        initial.count delimiter.closer ≤ pending + initial.count delimiter.opener) ∧
      left + text.count delimiter.closer = pending + text.count delimiter.opener := by
  induction text generalizing pending with
  | nil => simp [eq_comm]
  | cons c text ih =>
      simp only [level?_cons, Option.bind_eq_some_iff, after?_eq_some_iff, ih]
      constructor
      · intro found
        obtain ⟨next, isNext, within, total⟩ := found
        refine ⟨fun initial isInitial => ?_, ?_⟩
        · rcases List.prefix_cons_iff.mp isInitial with rfl | ⟨later, rfl, isLater⟩
          · simp
          · have bound := within later isLater
            grind
        · grind
      · intro found
        obtain ⟨within, total⟩ := found
        have first := within [c] (by simp)
        refine ⟨pending + [c].count delimiter.opener - [c].count delimiter.closer, by omega, ?_, ?_⟩
        · intro initial isInitial
          have bound := within (c :: initial) (by simpa using isInitial)
          grind
        · grind

end Delimiter

/-- Whether the text of an environment ends before some characters: before the delimiter that closes
the environment, or before a splice. -/
def Interrupts (delimiter : Delimiter) (pending : Nat) (rest : List Char) : Prop :=
  pending = 0 ∧ [delimiter.closer] <+: rest ∨ ['$', '['] <+: rest

theorem splice_infix_cons {c : Char} {text : List Char} :
    ['$', '['] <:+: c :: text ↔ (c = '$' ∧ text.head? = some '[') ∨ ['$', '['] <:+: text := by
  rw [List.infix_cons_iff]
  cases text with
  | nil => simp
  | cons d text => simp [eq_comm]

theorem rawText_sound {delimiter : Delimiter} {pending left : Nat} {source text : List Char}
    (read : rawText delimiter pending source = (text, left)) :
    ∃ rest, source = text ++ rest ∧ delimiter.level? pending text = some left ∧
      ¬['$', '['] <:+: text ∧ (rest = [] ∨ Interrupts delimiter left rest) := by
  have differ := delimiter.closer_ne_opener
  have notDollar : delimiter.opener ≠ '$' ∧ delimiter.closer ≠ '$' := by
    cases delimiter <;> decide
  fun_induction rawText delimiter pending source generalizing text left with
  | case1 pending =>
      cases read
      exact ⟨[], rfl, rfl, by simp, .inl rfl⟩
  | case2 pending cs tail =>
      rename_i ih
      cases read
      obtain ⟨rest, split, level, noSplice, interrupts⟩ := ih (show _ = (tail.1, tail.2) from rfl)
      refine ⟨rest, congrArg _ split, by simpa [Delimiter.after?] using level, ?_, interrupts⟩
      simp [splice_infix_cons, notDollar.1, noSplice]
  | case3 cs notOpen =>
      cases read
      exact ⟨delimiter.closer :: cs, rfl, rfl, by simp, .inr (.inl ⟨rfl, by simp⟩)⟩
  | case4 cs pending tail notOpen =>
      rename_i ih
      cases read
      obtain ⟨rest, split, level, noSplice, interrupts⟩ := ih (show _ = (tail.1, tail.2) from rfl)
      refine ⟨rest, congrArg _ split, by simpa [Delimiter.after?, differ] using level, ?_,
        interrupts⟩
      simp [splice_infix_cons, notDollar.2, noSplice]
  | case5 pending c cs notOpen notClose isSplice =>
      cases read
      obtain ⟨rfl, isBracket⟩ : c = '$' ∧ cs.head? = some '[' := by simpa using isSplice
      obtain ⟨rest, rfl⟩ := List.head?_eq_some_iff.mp isBracket
      exact ⟨'$' :: '[' :: rest, rfl, rfl, by simp, .inr (.inr ⟨rest, rfl⟩)⟩
  | case6 pending c cs notOpen notClose notSplice tail =>
      rename_i ih
      cases read
      obtain ⟨rest, split, level, noSplice, interrupts⟩ := ih (show _ = (tail.1, tail.2) from rfl)
      refine ⟨rest, congrArg _ split,
        by simpa [Delimiter.after?, notOpen, notClose] using level, ?_, interrupts⟩
      rw [splice_infix_cons, not_or]
      refine ⟨?_, noSplice⟩
      intro found
      obtain ⟨rfl, isBracket⟩ := found
      exact notSplice (by simp [split, isBracket])

theorem rawText_complete {delimiter : Delimiter} {pending left : Nat} {text rest : List Char}
    (level : delimiter.level? pending text = some left) (noSplice : ¬['$', '['] <:+: text)
    (interrupts : Interrupts delimiter left rest) :
    rawText delimiter pending (text ++ rest) = (text, left) := by
  have differ := delimiter.closer_ne_opener
  induction text generalizing pending with
  | nil =>
      cases level
      rcases interrupts with ⟨rfl, rest, rfl⟩ | ⟨rest, rfl⟩
      · simp [rawText, differ]
      · cases delimiter <;> simp [rawText, Delimiter.opener, Delimiter.closer]
  | cons c text ih =>
      rw [splice_infix_cons, not_or] at noSplice
      simp only [Delimiter.level?_cons, Option.bind_eq_some_iff] at level
      obtain ⟨next, isNext, level⟩ := level
      have tail := ih level noSplice.2
      have notSplice : ¬(c = '$' ∧ (text ++ rest).head? = some '[') := by
        intro found
        obtain ⟨rfl, isBracket⟩ := found
        cases text with
        | nil =>
            rcases interrupts with ⟨-, rest, rfl⟩ | ⟨rest, rfl⟩
            · cases delimiter <;> simp [Delimiter.closer] at isBracket
            · simp at isBracket
        | cons d text => exact noSplice.1 ⟨rfl, isBracket⟩
      rw [List.cons_append, rawText.eq_def]
      simp only [Bool.and_eq_true, decide_eq_true_eq, notSplice, if_false]
      unfold Delimiter.after? at isNext
      split at isNext
      · cases isNext
        simp_all
      · split at isNext
        · cases pending with
          | zero => cases isNext
          | succ pending =>
              cases isNext
              simp_all
        · cases isNext
          simp_all

theorem rawText_interrupted {delimiter : Delimiter} {pending : Nat} {rest : List Char}
    (interrupts : Interrupts delimiter pending rest) :
    rawText delimiter pending rest = ([], pending) := by
  have noSplice : ¬['$', '['] <:+: ([] : List Char) := by simp
  exact rawText_complete rfl noSplice interrupts

end StructuredShell.Lexer
