import StructuredShell.Proofs.Interchange.Layout
import StructuredShell.Proofs.WellFormed.Trees
import StructuredShell.Syntax.Printer

/-!
# The prefix form of a value has one reading

A well-formed value that is shown in prefix form can be read off the front of a text in one way
only. Its first character says what kind of value it is. A name and a number end where no further
character of theirs follows, a text ends at its quote, and an operation or a call at the parenthesis
that closes it. The text of an environment is shown as it is, and still its end is found where the
reader of source text finds it: before a splice, or before the delimiter that nothing balances.
-/

set_option autoImplicit false

namespace StructuredShell

open Lexer (Delimiter Interrupts Stops rawText rawText_complete rawText_interrupted run_cancel
  stops_cons)

/-! ## What follows a value -/

/-- Whether a text can follow a value that is shown: it is at its end, or goes on with a space, a
comma or a closing bracket. -/
def Closes (rest : List Char) : Prop :=
  ∀ c, rest.head? = some c → c ∈ [' ', ')', ',', ']']

theorem closes_nil : Closes [] := by
  simp [Closes]

theorem closes_cons {c : Char} (isCloser : c ∈ [' ', ')', ',', ']']) (rest : List Char) :
    Closes (c :: rest) := by
  intro d isHead
  cases isHead
  exact isCloser

theorem Closes.stops {rest : List Char} (closes : Closes rest) {member : Char → Bool}
    (free : [' ', ')', ',', ']'].all (!member ·) = true) : Stops member rest := by
  intro c isHead
  have isFree := List.all_eq_true.mp free c (closes c isHead)
  simpa using isFree

/-- Whether the form in which a value is shown can be mistaken for that of no other well-formed
value, whatever follows the two. -/
def Readable {α : Type} (shown : α → String) (WellFormed : α → Prop) (value : α) : Prop :=
  ∀ other rest rest', WellFormed other → Closes rest → Closes rest' →
    (shown value).toList ++ rest = (shown other).toList ++ rest' → value = other ∧ rest = rest'

/-! ## Names, numbers and operations -/

theorem IsName.inWord {name : String} (isName : IsName name) :
    name.toList.all Text.continuesWord = true := by
  have isWord := isName.1
  rw [Text.isWord] at isWord
  cases chars : name.toList with
  | nil => rfl
  | cons c cs =>
      rw [chars, Text.isWordChars, Bool.and_eq_true] at isWord
      simp [Text.continuesWord, isWord.1] at isWord ⊢
      exact isWord

theorem IsName.cancel {name other : String} (isName : IsName name) (isName' : IsName other)
    {rest rest' : List Char} (stops : Stops Text.continuesWord rest)
    (stops' : Stops Text.continuesWord rest') (same : name.toList ++ rest = other.toList ++ rest') :
    name = other ∧ rest = rest' := by
  obtain ⟨sameName, sameRest⟩ := run_cancel isName.inWord isName'.inWord stops stops' same
  exact ⟨String.toList_inj.mp sameName, sameRest⟩

/-- An operation in prefix form. -/
def operationChars (symbol left right : String) : List Char :=
  '(' :: (symbol.toList ++ ' ' :: (left.toList ++ ' ' :: (right.toList ++ [')'])))

/-- The operands of an operation are told apart when they are readable themselves. -/
theorem operation_cancel {α : Type} {shown : α → String} {WellFormed : α → Prop}
    {symbol symbol' : String} {left left' right right' : α} {rest rest' : List Char}
    (solid : symbol.toList.all (· != ' ') = true) (solid' : symbol'.toList.all (· != ' ') = true)
    (readsLeft : Readable shown WellFormed left) (readsRight : Readable shown WellFormed right)
    (isOperands : WellFormed left' ∧ WellFormed right')
    (same : operationChars symbol (shown left) (shown right) ++ rest =
      operationChars symbol' (shown left') (shown right') ++ rest') :
    symbol = symbol' ∧ left = left' ∧ right = right' ∧ rest = rest' := by
  simp only [operationChars, List.cons_append, List.append_assoc, List.cons.injEq, true_and,
    List.nil_append] at same
  obtain ⟨sameSymbol, sameLeft⟩ :=
    run_cancel solid solid' (stops_cons.mpr rfl) (stops_cons.mpr rfl) same
  obtain ⟨rfl, sameRight⟩ := readsLeft left' _ _ isOperands.1 (closes_cons (by simp) _)
    (closes_cons (by simp) _) (List.tail_eq_of_cons_eq sameLeft)
  obtain ⟨rfl, sameRest⟩ := readsRight right' _ _ isOperands.2 (closes_cons (by simp) _)
    (closes_cons (by simp) _) (List.tail_eq_of_cons_eq sameRight)
  exact ⟨String.toList_inj.mp sameSymbol, rfl, rfl, List.tail_eq_of_cons_eq sameRest⟩

theorem ArithOp.symbol_solid (operator : ArithOp) :
    operator.symbol.toList.all (· != ' ') = true := by
  cases operator <;> decide

theorem ArithOp.symbol_injective : Function.Injective ArithOp.symbol := by
  intro first second same
  cases first <;> cases second <;> simp_all [ArithOp.symbol]

theorem Expr.toList_shown_binary (operator : ArithOp) (left right : Expr) :
    (Expr.binary operator left right).shown.toList =
      operationChars operator.symbol left.shown right.shown := by
  simp [Expr.shown, operationChars]

theorem Expr.toList_shown_call (name : String) (arguments : List Expr) (rest : List Char) :
    (Expr.call name arguments).shown.toList ++ rest =
      name.toList ++ '(' :: ((Expr.shownArguments arguments).toList ++ ')' :: rest) := by
  simp [Expr.shown]

theorem Expr.toList_shownArguments_cons (value next : Expr) (values : List Expr)
    (rest : List Char) :
    (Expr.shownArguments (value :: next :: values)).toList ++ rest =
      value.shown.toList ++ ',' :: ' ' ::
        ((Expr.shownArguments (next :: values)).toList ++ rest) := by
  simp [Expr.shownArguments]

/-! ## First characters -/

/-- What the first character of a value that is shown says of it. -/
inductive Lead where
  | name
  | number
  | text
  | operation
  | environment
  | none

def Lead.ofChar (c : Char) : Lead :=
  if c = '"' then text
  else if c = '(' then operation
  else if c = '$' then environment
  else if Json.isNumeric c then number
  else if Text.startsWord c then name
  else none

def Expr.lead : Expr → Lead
  | .var _ => .name
  | .number _ => .number
  | .text _ => .text
  | .binary _ _ _ => .operation
  | .call _ _ => .name
  | .raw _ => .environment

theorem Lead.ofChar_of_isNumeric {c : Char} (numeric : Json.isNumeric c = true) :
    Lead.ofChar c = .number := by
  have ne (d : Char) (other : Json.isNumeric d = false) : c ≠ d := by
    rintro rfl
    simp [numeric] at other
  simp [Lead.ofChar, numeric, ne '"' (by decide), ne '(' (by decide), ne '$' (by decide)]

theorem Lead.ofChar_of_startsWord {c : Char} (starts : Text.startsWord c = true) :
    Lead.ofChar c = .name := by
  have ne (d : Char) (other : Text.startsWord d = false) : c ≠ d := by
    rintro rfl
    simp [starts] at other
  have notDigit : c.isDigit = false := Lexer.startsWord_not_digit starts
  have notNumeric : Json.isNumeric c = false := by
    simp [Json.isNumeric, notDigit, ne '-' (by decide)]
  simp [Lead.ofChar, starts, notNumeric, ne '"' (by decide), ne '(' (by decide),
    ne '$' (by decide)]

theorem IsName.lead {name : String} (isName : IsName name) (rest : List Char) :
    (name.toList ++ rest).head?.map Lead.ofChar = some .name := by
  have isWord := isName.1
  rw [Text.isWord] at isWord
  cases chars : name.toList with
  | nil => simp [chars, Text.isWordChars] at isWord
  | cons c cs =>
      rw [chars, Text.isWordChars, Bool.and_eq_true] at isWord
      simp [Lead.ofChar_of_startsWord isWord.1]

theorem Expr.shown_lead (value : Expr) (wellFormed : value.WellFormed) (rest : List Char) :
    (value.shown.toList ++ rest).head?.map Lead.ofChar = some value.lead := by
  cases value with
  | var name => exact IsName.lead wellFormed rest
  | number value =>
      cases chars : value.repr.toList with
      | nil => exact absurd (String.toList_eq_nil_iff.mp chars) (Json.repr_ne_empty value)
      | cons c cs =>
          have numeric := Json.repr_isNumeric value
          rw [chars, List.all_cons, Bool.and_eq_true] at numeric
          simp [Expr.shown, chars, Lead.ofChar_of_isNumeric numeric.1, Expr.lead]
  | text _ => simp [Expr.shown, Lead.ofChar, Expr.lead]
  | binary _ _ _ => simp [Expr.toList_shown_binary, operationChars, Lead.ofChar, Expr.lead]
  | call name arguments =>
      rw [Expr.toList_shown_call]
      exact IsName.lead wellFormed.1 _
  | raw _ => simp [Expr.shown, Lead.ofChar, Expr.lead]

theorem Expr.lead_eq {first second : Expr} (wellFormed : first.WellFormed)
    (wellFormed' : second.WellFormed) {rest rest' : List Char}
    (same : first.shown.toList ++ rest = second.shown.toList ++ rest') :
    first.lead = second.lead := by
  have sameLead := congrArg (fun text => text.head?.map Lead.ofChar) same
  simp only [Expr.shown_lead _ wellFormed, Expr.shown_lead _ wellFormed'] at sameLead
  exact Option.some.inj sameLead

/-! ## Texts of environments -/

namespace Fragment

variable {pending : Nat} {fragments : List Fragment}

def leadingText : List Fragment → List Char
  | .shell text :: _ => text.toList
  | _ => []

theorem Runs.interrupts (runs : Runs .parentheses pending fragments 0)
    (unshelled : startsShell fragments = false) (rest : List Char) :
    Interrupts .parentheses pending ((shownAll fragments).toList ++ ')' :: rest) := by
  cases runs with
  | nil => exact .inl ⟨rfl, ⟨rest, rfl⟩⟩
  | shell => cases unshelled
  | splice _ =>
      refine .inr ?_
      simp [shownAll]

/-- The reader of source text takes the first text of an environment for what it is, also from the
form in which it is shown. -/
theorem Runs.rawText_shownAll (runs : Runs .parentheses pending fragments 0) (rest : List Char) :
    (rawText .parentheses pending ((shownAll fragments).toList ++ ')' :: rest)).1 =
      leadingText fragments := by
  cases runs with
  | nil => rw [rawText_interrupted (Runs.interrupts .nil rfl rest), leadingText]; simp
  | splice runs => rw [rawText_interrupted (Runs.interrupts (.splice runs) rfl rest)]; rfl
  | shell nonempty noSplice level unshelled runs =>
      rw [shownAll, String.toList_append, List.append_assoc,
        rawText_complete level noSplice (runs.interrupts unshelled rest)]
      rfl

theorem leadingText_eq {others : List Fragment} (runs : Runs .parentheses pending fragments 0)
    (runs' : Runs .parentheses pending others 0) {rest rest' : List Char}
    (same : (shownAll fragments).toList ++ ')' :: rest =
      (shownAll others).toList ++ ')' :: rest') :
    leadingText fragments = leadingText others := by
  rw [← runs.rawText_shownAll rest, ← runs'.rawText_shownAll rest', same]

end Fragment

/-! ## Values -/

def Expr.AllReadable (values : List Expr) : Prop :=
  ∀ others rest rest', Expr.AllWellFormed others →
    (Expr.shownArguments values).toList ++ ')' :: rest =
      (Expr.shownArguments others).toList ++ ')' :: rest' → values = others ∧ rest = rest'

def Fragment.AllReadable (fragments : List Fragment) : Prop :=
  ∀ pending others rest rest', Fragment.Runs .parentheses pending fragments 0 →
    Fragment.Runs .parentheses pending others 0 → Fragment.AllWellFormed others →
    (Fragment.shownAll fragments).toList ++ ')' :: rest =
      (Fragment.shownAll others).toList ++ ')' :: rest' → fragments = others ∧ rest = rest'

mutual

theorem Expr.readable (value : Expr) (wellFormed : value.WellFormed) :
    Readable Expr.shown Expr.WellFormed value := by
  intro other rest rest' wellFormed' closes closes' same
  have sameLead := Expr.lead_eq wellFormed wellFormed' same
  match value, wellFormed with
  | .var name, isName =>
      cases other with
      | var name' =>
          obtain ⟨rfl, sameRest⟩ := isName.cancel wellFormed' (closes.stops (by decide))
            (closes'.stops (by decide)) same
          exact ⟨rfl, sameRest⟩
      | call name' arguments =>
          -- A parenthesis behind the name would belong to a call.
          rw [Expr.toList_shown_call] at same
          obtain ⟨-, sameRest⟩ := isName.cancel wellFormed'.1 (closes.stops (by decide))
            (stops_cons.mpr (by decide)) same
          have closer := closes '(' (by simp [sameRest])
          simp at closer
      | _ => cases sameLead
  | .number number, _ =>
      cases other with
      | number number' =>
          obtain ⟨rfl, sameRest⟩ := Json.repr_readsOff number number' rest rest'
            (closes.stops (by decide)) (closes'.stops (by decide)) same
          exact ⟨rfl, sameRest⟩
      | _ => cases sameLead
  | .text text, unquoted =>
      cases other with
      | text text' =>
          have unquoted' : '"' ∉ text'.toList := wellFormed'
          simp only [Expr.shown, String.toList_append, List.append_assoc, String.reduceToList,
            List.cons_append, List.nil_append, List.cons.injEq, true_and] at same
          have inside {text : String} (unquoted : '"' ∉ text.toList) :
              text.toList.all (· != '"') = true := by
            rw [List.all_eq_true]
            intro c isChar
            rw [bne_iff_ne]
            rintro rfl
            exact unquoted isChar
          obtain ⟨sameText, sameRest⟩ := run_cancel (inside unquoted) (inside unquoted')
            (stops_cons.mpr rfl) (stops_cons.mpr rfl) same
          exact ⟨by rw [String.toList_inj.mp sameText], List.tail_eq_of_cons_eq sameRest⟩
      | _ => cases sameLead
  | .binary operator left right, ⟨wellFormedLeft, wellFormedRight⟩ =>
      cases other with
      | binary operator' left' right' =>
          rw [Expr.toList_shown_binary, Expr.toList_shown_binary] at same
          obtain ⟨sameSymbol, rfl, rfl, sameRest⟩ := operation_cancel operator.symbol_solid
            operator'.symbol_solid (Expr.readable left wellFormedLeft)
            (Expr.readable right wellFormedRight) wellFormed' same
          obtain rfl := ArithOp.symbol_injective sameSymbol
          exact ⟨rfl, sameRest⟩
      | _ => cases sameLead
  | .call name arguments, ⟨isName, wellFormedArguments⟩ =>
      rw [Expr.toList_shown_call] at same
      cases other with
      | call name' arguments' =>
          rw [Expr.toList_shown_call] at same
          obtain ⟨rfl, sameArguments⟩ := isName.cancel wellFormed'.1 (stops_cons.mpr (by decide))
            (stops_cons.mpr (by decide)) same
          obtain ⟨rfl, sameRest⟩ := Expr.allReadable arguments wellFormedArguments arguments' rest
            rest' wellFormed'.2 (List.tail_eq_of_cons_eq sameArguments)
          exact ⟨rfl, sameRest⟩
      | var name' =>
          obtain ⟨-, sameRest⟩ := isName.cancel wellFormed' (stops_cons.mpr (by decide))
            (closes'.stops (by decide)) same
          have closer := closes' '(' (by simp [← sameRest])
          simp at closer
      | _ => cases sameLead
  | .raw fragments, ⟨fit, wellFormedFragments⟩ =>
      cases other with
      | raw fragments' =>
          simp only [Expr.shown, String.toList_append, List.append_assoc, String.reduceToList,
            List.cons_append, List.nil_append, List.cons.injEq, true_and] at same
          obtain ⟨rfl, sameRest⟩ := Fragment.allReadable fragments wellFormedFragments 0 fragments'
            rest rest' (Fragment.fit_iff_runs.mp fit).1 (Fragment.fit_iff_runs.mp wellFormed'.1).1
            wellFormed'.2 same
          exact ⟨rfl, sameRest⟩
      | _ => cases sameLead

theorem Expr.allReadable (values : List Expr) (wellFormed : Expr.AllWellFormed values) :
    Expr.AllReadable values := by
  intro others rest rest' wellFormed' same
  have closed {value : Expr} (isValue : value.WellFormed) (before after : List Char) :
      ')' :: before ≠ value.shown.toList ++ after := by
    intro same
    have lead := Expr.shown_lead value isValue after
    rw [← same] at lead
    cases value <;> cases lead
  match values, wellFormed, others, wellFormed' with
  | [], _, [], _ => simpa using same
  | [], _, [other], isOther => exact absurd same (closed isOther.1 _ _)
  | [], _, other :: _ :: _, isOther =>
      rw [Expr.toList_shownArguments_cons] at same
      exact absurd same (closed isOther.1 _ _)
  | [value], isValue, [], _ => exact absurd same.symm (closed isValue.1 _ _)
  | value :: _ :: _, isValue, [], _ =>
      rw [Expr.toList_shownArguments_cons] at same
      exact absurd same.symm (closed isValue.1 _ _)
  | [value], isValue, [other], isOther =>
      obtain ⟨rfl, sameRest⟩ := Expr.readable value isValue.1 other _ _ isOther.1
        (closes_cons (by simp) _) (closes_cons (by simp) _) same
      exact ⟨rfl, List.tail_eq_of_cons_eq sameRest⟩
  | [value], isValue, other :: _ :: _, isOther =>
      rw [Expr.toList_shownArguments_cons] at same
      obtain ⟨-, sameRest⟩ := Expr.readable value isValue.1 other _ _ isOther.1
        (closes_cons (by simp) _) (closes_cons (by simp) _) same
      cases sameRest
  | value :: _ :: _, isValue, [other], isOther =>
      rw [Expr.toList_shownArguments_cons] at same
      obtain ⟨-, sameRest⟩ := Expr.readable value isValue.1 other _ _ isOther.1
        (closes_cons (by simp) _) (closes_cons (by simp) _) same
      cases sameRest
  | value :: next :: values, isValue, other :: next' :: others, isOther =>
      rw [Expr.toList_shownArguments_cons, Expr.toList_shownArguments_cons] at same
      obtain ⟨rfl, sameTail⟩ := Expr.readable value isValue.1 other _ _ isOther.1
        (closes_cons (by simp) _) (closes_cons (by simp) _) same
      obtain ⟨sameValues, sameRest⟩ := Expr.allReadable (next :: values) isValue.2
        (next' :: others) rest rest' isOther.2
        (List.tail_eq_of_cons_eq (List.tail_eq_of_cons_eq sameTail))
      exact ⟨by rw [sameValues], sameRest⟩

theorem Fragment.allReadable (fragments : List Fragment)
    (wellFormed : Fragment.AllWellFormed fragments) : Fragment.AllReadable fragments := by
  intro pending others rest rest' runs runs' wellFormed' same
  -- Both texts end where the reader would stop, so both lists begin with the same text.
  have sameText := Fragment.leadingText_eq runs runs' same
  match fragments, wellFormed, runs, others, wellFormed', runs' with
  | [], _, _, [], _, _ => simpa using same
  | [], _, _, .shell text :: _, _, .shell nonempty _ _ _ _
  | .splice _ :: _, _, _, .shell text :: _, _, .shell nonempty _ _ _ _ =>
      exact absurd (String.toList_eq_nil_iff.mp sameText.symm) nonempty
  | .shell text :: _, _, .shell nonempty _ _ _ _, [], _, _
  | .shell text :: _, _, .shell nonempty _ _ _ _, .splice _ :: _, _, _ =>
      exact absurd (String.toList_eq_nil_iff.mp sameText) nonempty
  | [], _, _, .splice _ :: _, _, _ | .splice _ :: _, _, _, [], _, _ =>
      simp [Fragment.shownAll] at same
  | .shell text :: fragments, isFragment, .shell _ _ level _ runs, .shell text' :: others, isOther,
      .shell _ _ level' _ runs' =>
      obtain rfl := String.toList_inj.mp sameText
      rw [level, Option.some.injEq] at level'
      subst level'
      simp only [Fragment.shownAll, String.toList_append, List.append_assoc] at same
      obtain ⟨rfl, sameRest⟩ := Fragment.allReadable fragments isFragment _ others rest rest' runs
        runs' isOther (List.append_cancel_left same)
      exact ⟨rfl, sameRest⟩
  | .splice value :: fragments, isFragment, .splice runs, .splice other :: others, isOther,
      .splice runs' =>
      simp only [Fragment.shownAll, String.toList_append, List.append_assoc, String.reduceToList,
        List.cons_append, List.nil_append, List.cons.injEq, true_and] at same
      obtain ⟨rfl, sameTail⟩ := Expr.readable value isFragment.1 other _ _ isOther.1
        (closes_cons (by simp) _) (closes_cons (by simp) _) same
      obtain ⟨rfl, sameRest⟩ := Fragment.allReadable fragments isFragment.2 _ others rest rest' runs
        runs' isOther.2 (List.tail_eq_of_cons_eq sameTail)
      exact ⟨rfl, sameRest⟩

end

end StructuredShell
