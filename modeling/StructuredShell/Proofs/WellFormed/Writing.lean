import StructuredShell.Proofs.Lexing.Scan
import StructuredShell.Proofs.WellFormed.Trees

/-!
# Source texts of trees

A printer in ordinary notation, and the proof that the tokens of what it prints derive the tree
again. A blank follows every token of ordinary code, so that no spelling is prolonged by what comes
next; the text of an environment is printed as it is. Parentheses are printed where an operator
binds less tightly than its place asks for.
-/

set_option autoImplicit false

namespace StructuredShell

open Lexer (Delimiter Interrupts Scan Spells Splice Stops isSign isSpacing staysInCode)
open Grammar (Named)

/-! ## Printing -/

/-- The spelling of a kind that has only one, and a blank. -/
def signText (kind : Kind) : List Char :=
  kind.symbol.toList ++ [' ']

def grouped (needed : Bool) (text : List Char) : List Char :=
  if needed then signText .openParen ++ (text ++ signText .closeParen) else text

def ArithOp.kind : ArithOp → Kind
  | .add => .plus
  | .subtract => .minus
  | .multiply => .star
  | .divide => .slash
  | .modulo => .percent

def ArithOp.level : ArithOp → Nat
  | .add | .subtract => 0
  | .multiply | .divide | .modulo => 1

def RelOp.kind : RelOp → Kind
  | .less => .less
  | .greater => .greater
  | .lessEqual => .lessEqual
  | .greaterEqual => .greaterEqual
  | .equal => .equal
  | .notEqual => .notEqual

def Lexer.Delimiter.trigger : Delimiter → Kind
  | .braces => .rawWord
  | .parentheses => .dollar

def environmentText (delimiter : Delimiter) (body : List Char) : List Char :=
  delimiter.trigger.symbol.toList ++ delimiter.opener :: (body ++ [delimiter.closer, ' '])

mutual

/-- A value as it is written where operators must bind at a level. -/
def Expr.written : Expr → Nat → List Char
  | .var name, _ => name.toList ++ [' ']
  | .number value, _ => Nat.toDigits 10 value.toNat ++ [' ']
  | .text value, _ => '"' :: (value.toList ++ ['"']) ++ [' ']
  | .binary operator left right, level =>
    grouped (operator.level < level)
      (left.written operator.level ++
        (signText operator.kind ++ right.written (operator.level + 1)))
  | .call name arguments, _ =>
    (name.toList ++ [' ']) ++ (signText .openParen ++ Expr.writtenAll arguments)
  | .raw fragments, _ => environmentText .parentheses (Fragment.written fragments)

/-- Arguments with commas between them and the parenthesis that closes them. -/
def Expr.writtenAll : List Expr → List Char
  | [] => signText .closeParen
  | value :: rest =>
    value.written 0 ++ ((if rest.isEmpty then [] else signText .comma) ++ Expr.writtenAll rest)

def Fragment.written : List Fragment → List Char
  | [] => []
  | .shell text :: rest => text.toList ++ Fragment.written rest
  | .splice value :: rest => '$' :: '[' :: (value.written 0 ++ ']' :: Fragment.written rest)

end

/-! ## Texts and their tokens -/

/-- Whether a text is read as tokens with a property, in any ordinary code and before any text. -/
def Writes (text : List Char) (meaning : List Token → Prop) : Prop :=
  ∀ splices position, ∃ tokens, meaning tokens ∧ ∀ rest more,
    Scan ⟨.code, splices⟩ (position.after text) rest more →
      Scan ⟨.code, splices⟩ position (text ++ rest) (tokens ++ more)

/-- Whether tokens are tokens with one property followed by tokens with another. -/
def Joined (first second : List Token → Prop) (tokens : List Token) : Prop :=
  ∃ left right, tokens = left ++ right ∧ first left ∧ second right

def IsOne (kind : Kind) (tokens : List Token) : Prop :=
  ∃ token, tokens = [token] ∧ token.kind = kind

theorem Writes.imp {text : List Char} {meaning other : List Token → Prop}
    (writes : Writes text meaning) (implies : ∀ tokens, meaning tokens → other tokens) :
    Writes text other := by
  intro splices position
  obtain ⟨tokens, means, scans⟩ := writes splices position
  exact ⟨tokens, implies tokens means, scans⟩

theorem Writes.append {first second : List Char} {before after : List Token → Prop}
    (writesFirst : Writes first before) (writesSecond : Writes second after) :
    Writes (first ++ second) (Joined before after) := by
  intro splices position
  obtain ⟨left, meansLeft, scansLeft⟩ := writesFirst splices position
  obtain ⟨right, meansRight, scansRight⟩ := writesSecond splices (position.after first)
  refine ⟨left ++ right, ⟨left, right, rfl, meansLeft, meansRight⟩, fun rest more scanned => ?_⟩
  rw [Position.after_append] at scanned
  rw [List.append_assoc, List.append_assoc]
  exact scansLeft _ _ (scansRight _ _ scanned)

theorem Writes.nil : Writes [] (· = []) := by
  intro splices position
  exact ⟨[], rfl, fun _ _ scanned => scanned⟩

theorem continuedBy_blank (kind : Kind) : Lexer.continuedBy kind ' ' = false := by
  cases kind <;> rfl

/-- A spelling and a blank are read as the token that is spelled. -/
theorem Writes.spelled {kind : Kind} {literal : Option Literal} {spelling : List Char}
    (spells : Spells kind literal spelling) (isCode : kind ≠ .rawText)
    (stays : staysInCode kind = true) :
    Writes (spelling ++ [' '])
      (fun tokens => ∃ token, tokens = [token] ∧ token.kind = kind ∧ token.literal = literal) := by
  intro splices position
  refine ⟨[⟨kind, literal, position⟩], ⟨_, rfl, rfl, rfl⟩, fun rest more scanned => ?_⟩
  rw [Position.after_append] at scanned
  rw [List.append_assoc]
  refine .token spells isCode (Lexer.stops_cons.mpr (continuedBy_blank kind)) ?_
  rw [Lexer.afterToken_stays stays]
  exact .blank rfl rfl scanned

theorem Writes.sign {kind : Kind} (sign : isSign kind = true) (stays : staysInCode kind = true) :
    Writes (signText kind) (IsOne kind) := by
  refine (Writes.spelled (.sign sign) (Lexer.isSign_ne_rawText sign) stays).imp ?_
  intro used parts
  obtain ⟨token, areTokens, isKind, -⟩ := parts
  exact ⟨token, areTokens, isKind⟩

theorem Lexer.Spells.of_isName {name : String} (isName : IsName name) :
    Spells .ident (some (.text name)) name.toList := by
  have spells := Spells.ident isName.1 (by rw [String.ofList_toList]; exact isName.2)
  rwa [String.ofList_toList] at spells

theorem Lexer.Spells.of_number {value : Int} (bounds : 0 ≤ value ∧ value ≤ 2 ^ 63 - 1) :
    Spells .number (some (.number value)) (Nat.toDigits 10 value.toNat) := by
  have hasValue : Lexer.decimalValue (Nat.toDigits 10 value.toNat) = value.toNat := by
    rw [← Lexer.digitsValue_eq_decimalValue]
    exact Nat.ofDigitChars_ten_toDigits
  have digits : (Nat.toDigits 10 value.toNat).all Text.isDigit = true := by
    rw [List.all_eq_true]
    intro c inDigits
    have isDigit := Nat.isDigit_of_mem_toDigits (by decide) (by decide) inDigits
    simpa [Text.isDigit, Char.isDigit, Char.le_def] using isDigit
  have small : Lexer.decimalValue (Nat.toDigits 10 value.toNat) ≤ Lexer.largestNumber := by
    rw [hasValue, Lexer.largestNumber]
    omega
  have spells := Spells.number Nat.toDigits_ne_nil digits small
  rwa [hasValue, Int.toNat_of_nonneg bounds.1] at spells

theorem Lexer.Spells.of_unquoted {text : String} (unquoted : '"' ∉ text.toList) :
    Spells .string (some (.text text)) ('"' :: (text.toList ++ ['"'])) := by
  have spells := Spells.string unquoted
  rwa [String.ofList_toList] at spells

theorem Writes.named {name : String} (isName : IsName name) :
    Writes (name.toList ++ [' '])
      (fun tokens => ∃ token, tokens = [token] ∧ Named .ident token name) := by
  refine (Writes.spelled (.of_isName isName) (by simp) rfl).imp ?_
  intro used parts
  obtain ⟨token, areTokens, isIdent, hasText⟩ := parts
  exact ⟨token, areTokens, isIdent, hasText⟩

theorem Writes.number {value : Int} (bounds : 0 ≤ value ∧ value ≤ 2 ^ 63 - 1) :
    Writes (Nat.toDigits 10 value.toNat ++ [' '])
      (fun tokens => Grammar.Factor tokens (.number value)) := by
  refine (Writes.spelled (.of_number bounds) (by simp) rfl).imp ?_
  intro used parts
  obtain ⟨token, rfl, isNumber, hasNumber⟩ := parts
  exact .number isNumber hasNumber

theorem Writes.text {text : String} (unquoted : '"' ∉ text.toList) :
    Writes ('"' :: (text.toList ++ ['"']) ++ [' '])
      (fun tokens => Grammar.Factor tokens (.text text)) := by
  refine (Writes.spelled (.of_unquoted unquoted) (by simp) rfl).imp ?_
  intro used parts
  obtain ⟨token, rfl, isString, hasText⟩ := parts
  exact .text ⟨isString, hasText⟩

/-- Parentheses let a text that binds at one level stand where another is asked for. -/
theorem Writes.grouped {derives : Nat → List Token → Prop} {text : List Char} {low level : Nat}
    (lower : ∀ {high low : Nat} {tokens : List Token}, low ≤ high → derives high tokens →
      derives low tokens)
    (group : ∀ {opening closing : Token} {tokens : List Token}, opening.kind = .openParen →
      derives 0 tokens → closing.kind = .closeParen →
      derives level (opening :: (tokens ++ [closing])))
    (writes : Writes text (derives low)) : Writes (grouped (low < level) text) (derives level) := by
  unfold StructuredShell.grouped
  split
  · refine ((Writes.sign rfl rfl).append (writes.append (.sign rfl rfl))).imp ?_
    intro used parts
    obtain ⟨_, _, rfl, ⟨opening, rfl, isOpen⟩, _, _, rfl, derived, closing, rfl, isClose⟩ := parts
    exact group isOpen (lower (Nat.zero_le low) derived) isClose
  · rename_i tight
    exact writes.imp fun tokens derived => lower (by simpa using tight) derived

/-! ## Environments -/

/-- Whether a text is read as tokens with a property in the body of an environment, from one number
of waiting delimiters to another and before anything that ends a text of the body. -/
def WritesBody (delimiter : Delimiter) (pending left : Nat) (text : List Char)
    (meaning : List Token → Prop) : Prop :=
  ∀ start splices position, ∃ tokens, meaning tokens ∧ ∀ rest more,
    Interrupts delimiter left rest →
    Scan ⟨.body ⟨delimiter, start, left⟩, splices⟩ (position.after text) rest more →
      Scan ⟨.body ⟨delimiter, start, pending⟩, splices⟩ position (text ++ rest) (tokens ++ more)

def IsEnvironment (delimiter : Delimiter) (meaning : List Token → Prop)
    (tokens : List Token) : Prop :=
  ∃ trigger opening body closing, tokens = trigger :: opening :: (body ++ [closing]) ∧
    trigger.kind = delimiter.trigger ∧ opening.kind = delimiter.openKind ∧ meaning body ∧
    closing.kind = delimiter.closeKind

theorem Writes.environment {delimiter : Delimiter} {body : List Char}
    {meaning : List Token → Prop}
    (unblank : ∀ rest, Stops isSpacing (body ++ delimiter.closer :: rest))
    (writes : WritesBody delimiter 0 0 body meaning) :
    Writes (environmentText delimiter body) (IsEnvironment delimiter meaning) := by
  intro splices position
  have spells : Spells delimiter.trigger none delimiter.trigger.symbol.toList := by
    cases delimiter <;> exact .sign rfl
  have isCode : delimiter.trigger ≠ .rawText := by cases delimiter <;> decide
  have stops (rest : List Char) :
      Stops (Lexer.continuedBy delimiter.trigger) (delimiter.opener :: rest) := by
    cases delimiter <;> exact Lexer.stops_cons.mpr rfl
  have announces : Delimiter.ofTrigger? delimiter.trigger = some delimiter := by
    cases delimiter <;> rfl
  let opened := position.after delimiter.trigger.symbol.toList
  obtain ⟨inner, means, scans⟩ := writes opened splices (opened.advance delimiter.opener)
  let closed := (opened.advance delimiter.opener).after body
  refine ⟨⟨delimiter.trigger, none, position⟩ :: ⟨delimiter.openKind, none, opened⟩ ::
    (inner ++ [⟨delimiter.closeKind, none, closed⟩]), ⟨_, _, _, _, rfl, rfl, rfl, means, rfl⟩,
    fun rest more scanned => ?_⟩
  have scannedClose : Scan ⟨.body ⟨delimiter, opened, 0⟩, splices⟩ closed
      (delimiter.closer :: ' ' :: rest) (⟨delimiter.closeKind, none, closed⟩ :: more) := by
    refine .close rfl (.blank rfl rfl ?_)
    simpa [environmentText, Position.after_append] using scanned
  have scannedBody := scans _ _ (.inl ⟨rfl, by simp⟩) scannedClose
  have scannedOpen : Scan ⟨.opening delimiter, splices⟩ opened
      (delimiter.opener :: ([] ++ (body ++ delimiter.closer :: ' ' :: rest)))
      (⟨delimiter.openKind, none, opened⟩ ::
        (inner ++ ⟨delimiter.closeKind, none, closed⟩ :: more)) :=
    .opener rfl (unblank _) scannedBody
  rw [← Lexer.afterToken_announces announces] at scannedOpen
  have scannedTrigger := Scan.token spells isCode (stops _) scannedOpen
  simpa [environmentText] using scannedTrigger

/-! ## Values -/

/-- What derives a value at a level: sums at the lowest one, then products, then factors. -/
def Grammar.AtLevel (value : Expr) (level : Nat) (tokens : List Token) : Prop :=
  match level with
  | 0 => Grammar.Expression tokens value
  | 1 => Grammar.Term tokens value
  | _ + 2 => Grammar.Factor tokens value

theorem Grammar.AtLevel.lower {value : Expr} {high low : Nat} {tokens : List Token}
    (lower : low ≤ high) (derived : Grammar.AtLevel value high tokens) :
    Grammar.AtLevel value low tokens := by
  match low, high, derived with
  | 0, 0, derived => exact derived
  | 0, 1, derived => exact .term derived
  | 0, _ + 2, derived => exact .term (.factor derived)
  | 1, 1, derived => exact derived
  | 1, _ + 2, derived => exact .factor derived
  | _ + 2, _ + 2, derived => exact derived

theorem Grammar.AtLevel.of_factor {value : Expr} {tokens : List Token}
    (derived : Grammar.Factor tokens value) (level : Nat) : Grammar.AtLevel value level tokens :=
  have derivedHigh : Grammar.AtLevel value (level + 2) tokens := derived
  derivedHigh.lower (by omega)

theorem Grammar.AtLevel.binary {operator : ArithOp} {left right : List Token} {sign : Token}
    {first second : Expr} (derivedLeft : Grammar.AtLevel first operator.level left)
    (isSign : sign.kind = operator.kind)
    (derivedRight : Grammar.AtLevel second (operator.level + 1) right) :
    Grammar.AtLevel (.binary operator first second) operator.level (left ++ sign :: right) := by
  cases operator with
  | add => exact .sum derivedLeft (isSign ▸ .plus) derivedRight
  | subtract => exact .sum derivedLeft (isSign ▸ .minus) derivedRight
  | multiply => exact .product derivedLeft (isSign ▸ .star) derivedRight
  | divide => exact .product derivedLeft (isSign ▸ .slash) derivedRight
  | modulo => exact .product derivedLeft (isSign ▸ .percent) derivedRight

theorem ArithOp.writes (operator : ArithOp) :
    Writes (signText operator.kind) (IsOne operator.kind) := by
  cases operator <;> exact .sign rfl rfl

/-- The body of a printed environment does not begin with a blank. -/
theorem Fragment.written_unblank {delimiter : Delimiter} {fragments : List Fragment}
    (fit : Fragment.Fit delimiter fragments) (rest : List Char) :
    Stops isSpacing (Fragment.written fragments ++ delimiter.closer :: rest) := by
  match fragments, fit with
  | [], _ => cases delimiter <;> exact Lexer.stops_cons.mpr rfl
  | .splice _ :: _, _ => exact Lexer.stops_cons.mpr rfl
  | .shell text :: others, fit =>
      have unblank := fit.unblank text others rfl
      have nonempty : text.toList ≠ [] := by simpa using fit.nonempty text (.head _)
      rw [Fragment.written]
      match text.toList, nonempty, unblank with
      | c :: _, _, unblank => exact Lexer.stops_cons.mpr (Lexer.stops_cons.mp unblank)

theorem WritesBody.environment {delimiter : Delimiter} {fragments : List Fragment}
    (fit : Fragment.Fit delimiter fragments)
    (writes : WritesBody delimiter 0 0 (Fragment.written fragments)
      (fun tokens => Grammar.Environment tokens fragments)) :
    Writes (environmentText delimiter (Fragment.written fragments))
      (IsEnvironment delimiter fun tokens => Grammar.Environment tokens fragments) :=
  .environment (Fragment.written_unblank fit) writes

/-- A text, and then the rest of the body, which the text does not run into. -/
theorem WritesBody.shell {delimiter : Delimiter} {pending next left : Nat} {text : String}
    {fragments : List Fragment} (nonempty : text ≠ "") (noSplice : ¬['$', '['] <:+: text.toList)
    (level : delimiter.level? pending text.toList = some next)
    (unshelled : Fragment.startsShell fragments = false)
    (runs : Fragment.Runs delimiter next fragments left)
    (writes : WritesBody delimiter next left (Fragment.written fragments)
      (fun tokens => Grammar.Environment tokens fragments)) :
    WritesBody delimiter pending left (Fragment.written (.shell text :: fragments))
      (fun tokens => Grammar.Environment tokens (.shell text :: fragments)) := by
  intro start splices position
  obtain ⟨tokens, derived, scans⟩ := writes start splices (position.after text.toList)
  refine ⟨⟨.rawText, some (.text text), position⟩ :: tokens, .text ⟨rfl, rfl⟩ derived,
    fun rest more interrupts scanned => ?_⟩
  rw [Fragment.written, Position.after_append] at scanned
  have scannedRest := scans rest more interrupts scanned
  have ends : Interrupts delimiter next (Fragment.written fragments ++ rest) := by
    match fragments, unshelled, runs with
    | [], _, .nil => exact interrupts
    | .splice _ :: _, _, _ => exact .inr ⟨_, rfl⟩
  have chars : text.toList ≠ [] := by simpa using nonempty
  have scannedText : Scan ⟨.body ⟨delimiter, start, pending⟩, splices⟩ position
      (text.toList ++ (Fragment.written fragments ++ rest))
      (⟨.rawText, some (.text (String.ofList text.toList)), position⟩ :: (tokens ++ more)) :=
    .text chars level noSplice ends scannedRest
  rw [String.ofList_toList] at scannedText
  simpa [Fragment.written] using scannedText

theorem WritesBody.splice {delimiter : Delimiter} {pending left : Nat} {value : Expr}
    {fragments : List Fragment}
    (writesValue : Writes (value.written 0) (Grammar.AtLevel value 0))
    (writes : WritesBody delimiter pending left (Fragment.written fragments)
      (fun tokens => Grammar.Environment tokens fragments)) :
    WritesBody delimiter pending left (Fragment.written (.splice value :: fragments))
      (fun tokens => Grammar.Environment tokens (.splice value :: fragments)) := by
  intro start splices position
  let within : List Splice := ⟨⟨delimiter, start, pending⟩, position, 0⟩ :: splices
  obtain ⟨inner, derivedValue, scansValue⟩ := writesValue within (position.after ['$', '['])
  let closed := (position.after ['$', '[']).after (value.written 0)
  obtain ⟨tokens, derived, scans⟩ := writes start splices (closed.advance ']')
  refine ⟨⟨.dollar, none, position⟩ :: ⟨.openBracket, none, position.advance '$'⟩ ::
    (inner ++ ⟨.closeBracket, none, closed⟩ :: tokens), .splice rfl rfl derivedValue rfl derived,
    fun rest more interrupts scanned => ?_⟩
  simp only [Fragment.written, Position.after_cons, Position.after_append] at scanned
  have scannedRest := scans rest more interrupts scanned
  have bracket : Spells .closeBracket none [']'] := .sign rfl
  have scannedClose : Scan ⟨.code, within⟩ closed (']' :: (Fragment.written fragments ++ rest))
      (⟨.closeBracket, none, closed⟩ :: (tokens ++ more)) :=
    .token bracket (by decide) (fun _ _ => rfl) scannedRest
  have scannedSplice := Scan.splice (scansValue _ _ scannedClose)
  simpa [Fragment.written] using scannedSplice

mutual

/-- The tokens of a printed value derive it at the level it was printed for. -/
theorem Expr.writes (value : Expr) (wellFormed : value.WellFormed) (level : Nat) :
    Writes (value.written level) (Grammar.AtLevel value level) :=
  match value, wellFormed with
  | .var name, isName => by
      refine (Writes.named isName).imp ?_
      intro used parts
      obtain ⟨token, rfl, named⟩ := parts
      exact .of_factor (.var named) level
  | .number _, bounds => (Writes.number bounds).imp fun _ derived => .of_factor derived level
  | .text _, unquoted => (Writes.text unquoted).imp fun _ derived => .of_factor derived level
  | .binary operator left right, wellFormed => by
      have writesLeft := left.writes wellFormed.1 operator.level
      have writesRight := right.writes wellFormed.2 (operator.level + 1)
      rw [Expr.written]
      have lower := @Grammar.AtLevel.lower (.binary operator left right)
      refine .grouped lower ?_ ?_
      · intro opening closing tokens isOpen derived isClose
        exact .of_factor (.group isOpen derived isClose) level
      · refine (writesLeft.append (operator.writes.append writesRight)).imp ?_
        intro used parts
        obtain ⟨_, _, rfl, derivedLeft, _, _, rfl, ⟨sign, rfl, isSign⟩, derivedRight⟩ := parts
        exact .binary derivedLeft isSign derivedRight
  | .call name arguments, wellFormed => by
      have writesArguments := Expr.writesAll arguments wellFormed.2
      rw [Expr.written]
      refine ((Writes.named wellFormed.1).append
        ((Writes.sign rfl rfl).append writesArguments)).imp ?_
      intro used parts
      obtain ⟨_, _, rfl, ⟨token, rfl, named⟩, _, _, rfl, ⟨opening, rfl, isOpen⟩, derived⟩ := parts
      exact .of_factor (.call named isOpen derived) level
  | .raw fragments, wellFormed => by
      have runs := (Fragment.fit_iff_runs.mp wellFormed.1).1
      rw [Expr.written]
      refine (WritesBody.environment wellFormed.1
        (Fragment.writes fragments wellFormed.2 runs)).imp ?_
      intro used parts
      obtain ⟨dollar, opening, tokens, closing, rfl, isDollar, isOpen, derived, isClose⟩ := parts
      exact .of_factor (.raw isDollar isOpen derived isClose) level

theorem Expr.writesAll (values : List Expr) (wellFormed : Expr.AllWellFormed values) :
    Writes (Expr.writtenAll values) (fun tokens => Grammar.Arguments tokens values) :=
  match values, wellFormed with
  | [], _ => by
      refine (Writes.sign rfl rfl).imp ?_
      intro used parts
      obtain ⟨closing, rfl, isClose⟩ := parts
      exact .none isClose
  | [value], wellFormed => by
      have writesValue := value.writes wellFormed.1 0
      refine (writesValue.append (Writes.nil.append (.sign rfl rfl))).imp ?_
      intro used parts
      obtain ⟨_, _, rfl, derived, _, _, rfl, rfl, ⟨closing, rfl, isClose⟩⟩ := parts
      exact .last derived isClose
  | value :: next :: rest, wellFormed => by
      have writesValue := value.writes wellFormed.1 0
      have writesRest := Expr.writesAll (next :: rest) wellFormed.2
      refine (writesValue.append ((Writes.sign rfl rfl).append writesRest)).imp ?_
      intro used parts
      obtain ⟨_, _, rfl, derived, _, _, rfl, ⟨comma, rfl, isComma⟩, derivedRest⟩ := parts
      exact .more derived isComma derivedRest

theorem Fragment.writes {delimiter : Delimiter} {pending left : Nat} (fragments : List Fragment)
    (wellFormed : Fragment.AllWellFormed fragments)
    (runs : Fragment.Runs delimiter pending fragments left) :
    WritesBody delimiter pending left (Fragment.written fragments)
      (fun tokens => Grammar.Environment tokens fragments) :=
  match fragments, wellFormed with
  | [], _ => by
      cases runs with
      | nil => exact fun start splices position => ⟨[], .nil, fun rest more _ scanned => scanned⟩
  | .shell text :: rest, wellFormed => by
      cases runs with
      | shell nonempty noSplice level unshelled runs =>
          exact .shell nonempty noSplice level unshelled runs (Fragment.writes rest wellFormed runs)
  | .splice value :: rest, wellFormed => by
      cases runs with
      | splice runs =>
          exact .splice (value.writes wellFormed.1 0) (Fragment.writes rest wellFormed.2 runs)

end

end StructuredShell
