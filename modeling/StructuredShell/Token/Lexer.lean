import StructuredShell.Diagnostic
import StructuredShell.Text.Word

/-!
# From text to tokens

Ordinary code is a sequence of items: runs of blanks, comments and tokens, each taken as long as
possible. The word `raw` and the sign `$` open a raw environment, whose body is kept as text up to
the delimiter that balances the opening one. Inside that text `$[` opens a splice: ordinary code up
to the bracket that balances it, after which the text goes on.

Environments and splices nest without bound. The reader keeps the open ones in a list instead of
recursing into them, so the whole text is read by one loop whose every step takes at least one
character.
-/

set_option autoImplicit false

namespace StructuredShell.Lexer

/-! ## Characters of ordinary code -/

def isSpacing (c : Char) : Bool :=
  c == ' ' || c == '\t' || c == '\r' || c == '\n'

def pairKind? (first second : Char) : Option Kind :=
  match first, second with
  | '=', '=' => some .equal
  | '!', '=' => some .notEqual
  | '<', '=' => some .lessEqual
  | '>', '=' => some .greaterEqual
  | '&', '&' => some .both
  | '|', '|' => some .either
  | _, _ => none

def singleKind? (c : Char) : Option Kind :=
  match c with
  | '(' => some .openParen
  | ')' => some .closeParen
  | '{' => some .openBrace
  | '}' => some .closeBrace
  | '[' => some .openBracket
  | ']' => some .closeBracket
  | ';' => some .semicolon
  | ',' => some .comma
  | '+' => some .plus
  | '-' => some .minus
  | '*' => some .star
  | '/' => some .slash
  | '%' => some .percent
  | '=' => some .assign
  | '<' => some .less
  | '>' => some .greater
  | '!' => some .bang
  | _ => none

/-! ## Items of ordinary code -/

def digitsValue (digits : List Char) : Nat :=
  digits.foldl (fun value c => 10 * value + (c.toNat - '0'.toNat)) 0

def largestNumber : Nat := 9223372036854775807

/-- How many characters a block comment takes after its opening `/*`, the closing `*/` included. -/
def commentLength? : List Char → Option Nat
  | [] => none
  | '*' :: '/' :: _ => some 2
  | _ :: cs => (commentLength? cs).map (· + 1)

/-- An item of ordinary code: what it means, if it is a token, and how many characters it takes
after its first one. -/
structure Item where
  token : Option (Kind × Option Literal)
  further : Nat

def Item.gap (further : Nat) : Item := ⟨none, further⟩

def Item.sign (kind : Kind) (further : Nat) : Item := ⟨some (kind, none), further⟩

def stringItem (cs : List Char) : Except LexFault Item :=
  let body := cs.takeWhile (· != '"')
  if body.length < cs.length then
    .ok ⟨some (.string, some (.text (String.ofList body))), body.length + 1⟩
  else .error .unterminatedString

def numberItem (c : Char) (cs : List Char) : Except LexFault Item :=
  let digits := c :: cs.takeWhile Text.isDigit
  if digitsValue digits ≤ largestNumber then
    .ok ⟨some (.number, some (.number (digitsValue digits))), digits.length - 1⟩
  else .error (.integerOverflow (String.ofList digits))

def wordItem (c : Char) (cs : List Char) : Item :=
  let tail := cs.takeWhile Text.continuesWord
  let word := String.ofList (c :: tail)
  match Kind.ofKeyword? word with
  | some kind => .sign kind tail.length
  | none => ⟨some (.ident, some (.text word)), tail.length⟩

def tokenItem (c : Char) (cs : List Char) : Except LexFault Item :=
  match cs.head?.bind (pairKind? c) with
  | some kind => .ok (.sign kind 1)
  | none =>
    match singleKind? c with
    | some kind => .ok (.sign kind 0)
    | none =>
      if c = '$' then .ok (.sign .dollar 0)
      else if c = '"' then stringItem cs
      else if Text.isDigit c then numberItem c cs
      else if Text.startsWord c then .ok (wordItem c cs)
      else .error (.unexpectedCharacter c)

def item (c : Char) (cs : List Char) : Except LexFault Item :=
  if isSpacing c then .ok (.gap (cs.takeWhile isSpacing).length)
  else
    match c, cs with
    | '/', '/' :: _ => .ok (.gap (cs.takeWhile (· != '\n')).length)
    | '/', '*' :: body =>
      match commentLength? body with
      | some length => .ok (.gap (length + 1))
      | none => .error .unterminatedComment
    | _, _ => tokenItem c cs

/-! ## Raw environments -/

/-- The delimiters of a raw environment: braces after `raw`, parentheses after `$`. -/
inductive Delimiter where
  | braces
  | parentheses
deriving DecidableEq

namespace Delimiter

def opener : Delimiter → Char
  | braces => '{'
  | parentheses => '('

def closer : Delimiter → Char
  | braces => '}'
  | parentheses => ')'

def openKind : Delimiter → Kind
  | braces => .openBrace
  | parentheses => .openParen

def closeKind : Delimiter → Kind
  | braces => .closeBrace
  | parentheses => .closeParen

def ofTrigger? : Kind → Option Delimiter
  | .rawWord => some braces
  | .dollar => some parentheses
  | _ => none

end Delimiter

/-- A raw environment that is being read: its delimiters, where its opening delimiter stands, and
how many further opening delimiters of its text wait to be balanced. -/
structure RawBlock where
  delimiter : Delimiter
  start : Position
  pending : Nat

/-- A splice that is being read: the environment whose text it interrupts, where its `$` stands, and
how many further opening brackets of its code wait to be balanced. -/
structure Splice where
  host : RawBlock
  start : Position
  pending : Nat

/-- The text at the head of an environment's body, up to the closing delimiter that nothing balances
or to a splice, and the number of delimiters that wait to be balanced after it. -/
def rawText (delimiter : Delimiter) : Nat → List Char → List Char × Nat
  | pending, [] => ([], pending)
  | pending, c :: cs =>
    if c = delimiter.opener then
      let tail := rawText delimiter (pending + 1) cs
      (c :: tail.1, tail.2)
    else if c = delimiter.closer then
      match pending with
      | 0 => ([], 0)
      | pending + 1 =>
        let tail := rawText delimiter pending cs
        (c :: tail.1, tail.2)
    else if c = '$' && cs.head? = some '[' then ([], pending)
    else
      let tail := rawText delimiter pending cs
      (c :: tail.1, tail.2)

/-! ## The reading loop -/

inductive Phase where
  | code
  | opening (delimiter : Delimiter)
  | body (block : RawBlock)

structure State where
  phase : Phase
  splices : List Splice

def State.initial : State := ⟨.code, []⟩

/-- One step of the loop: the tokens it finds, the state it leads to, and how many characters it
takes after the first one. -/
structure Step where
  tokens : List Token
  next : State
  further : Nat

/-- The state after a token of ordinary code. Brackets count only in a splice, whose balancing
bracket leads back to the text of its environment. -/
def State.afterToken (splices : List Splice) (kind : Kind) : State :=
  match Delimiter.ofTrigger? kind with
  | some delimiter => ⟨.opening delimiter, splices⟩
  | none =>
    match kind, splices with
    | .openBracket, splice :: outer =>
      ⟨.code, { splice with pending := splice.pending + 1 } :: outer⟩
    | .closeBracket, splice :: outer =>
      match splice.pending with
      | 0 => ⟨.body splice.host, outer⟩
      | pending + 1 => ⟨.code, { splice with pending := pending } :: outer⟩
    | _, _ => ⟨.code, splices⟩

def codeStep (splices : List Splice) (position : Position) (c : Char) (cs : List Char) :
    Except LexError Step :=
  match item c cs with
  | .error fault => .error ⟨fault, position⟩
  | .ok ⟨none, further⟩ => .ok ⟨[], ⟨.code, splices⟩, further⟩
  | .ok ⟨some (kind, literal), further⟩ =>
    .ok ⟨[⟨kind, literal, position⟩], State.afterToken splices kind, further⟩

/-- A step towards the body of an announced environment. Blanks are skipped on both sides of the
opening delimiter; comments are not. -/
def openingStep (delimiter : Delimiter) (splices : List Splice) (position : Position) (c : Char)
    (cs : List Char) : Except LexError Step :=
  if isSpacing c then .ok ⟨[], ⟨.opening delimiter, splices⟩, (cs.takeWhile isSpacing).length⟩
  else if c = delimiter.opener then
    .ok ⟨[⟨delimiter.openKind, none, position⟩], ⟨.body ⟨delimiter, position, 0⟩, splices⟩,
      (cs.takeWhile isSpacing).length⟩
  else .error ⟨.unexpectedCharacter c, position⟩

/-- A step in the body of an environment: a text, the start of a splice, or the end of the body. -/
def bodyStep (block : RawBlock) (splices : List Splice) (position : Position) (c : Char)
    (cs : List Char) : Step :=
  match rawText block.delimiter block.pending (c :: cs) with
  | ([], _) =>
    if c = '$' then
      ⟨[⟨.dollar, none, position⟩, ⟨.openBracket, none, position.advance '$'⟩],
        ⟨.code, ⟨block, position, 0⟩ :: splices⟩, 1⟩
    else ⟨[⟨block.delimiter.closeKind, none, position⟩], ⟨.code, splices⟩, 0⟩
  | (_ :: tail, pending) =>
    ⟨[⟨.rawText, some (.text (String.ofList (c :: tail))), position⟩],
      ⟨.body { block with pending := pending }, splices⟩, tail.length⟩

/-- A step of the loop on a text that is not at its end. -/
def step (state : State) (position : Position) (c : Char) (cs : List Char) : Except LexError Step :=
  match state.phase with
  | .code => codeStep state.splices position c cs
  | .opening delimiter => openingStep delimiter state.splices position c cs
  | .body block => .ok (bodyStep block state.splices position c cs)

/-- The end of the text, which must lie outside every environment and splice. -/
def atEnd (state : State) (position : Position) : Except LexError (List Token) :=
  match state.phase, state.splices with
  | .code, [] => .ok [⟨.finish, none, position⟩]
  | .code, splice :: _ => .error ⟨.unterminatedSplice, splice.start⟩
  | .opening _, _ => .error ⟨.unterminatedRawBlock, position⟩
  | .body block, _ => .error ⟨.unterminatedRawBlock, block.start⟩

/-- The tokens of a text that is read from a given state and place on. -/
def tokensFrom (state : State) (position : Position) (source : List Char) :
    Except LexError (List Token) :=
  match source with
  | [] => atEnd state position
  | c :: cs =>
    match step state position c cs with
    | .error error => .error error
    | .ok taken =>
      match tokensFrom taken.next (position.after (c :: cs.take taken.further))
          (cs.drop taken.further) with
      | .error error => .error error
      | .ok tokens => .ok (taken.tokens ++ tokens)
termination_by source.length
decreasing_by
  simp only [List.length_drop, List.length_cons]
  omega

/-- The tokens of a text, of which the last one, and no other, is the end of the text. -/
def tokens (source : String) : Except LexError (List Token) :=
  tokensFrom .initial .start source.toList

end StructuredShell.Lexer
