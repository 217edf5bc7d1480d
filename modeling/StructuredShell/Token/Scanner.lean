import StructuredShell.Token.Lexer

/-!
# Reading by scanners that call each other

The same tokens, read by a scanner of items that calls one of raw environments, which calls one of
splices, which calls the scanner of items. They share the text ahead and the tokens found so far.
Levels of nesting are counted down with a check that they stay numbers, and every token is made by a
checked constructor. Nothing about the definitions says that these checks succeed, or that the
calls ever come to an end. A recursive call is written as a method of the state that it starts from:
`(· |>.item)`.
-/

set_option autoImplicit false

namespace StructuredShell

/-- What scanners share: the text ahead, where it stands, and the tokens found before it. -/
structure Scanner where
  ahead : List Char
  position : Position
  tokens : List Token

namespace Scanner

open Lexer (Delimiter isSpacing pairKind? singleKind? digitsValue largestNumber)

def start (source : String) : Scanner := ⟨source.toList, .start, []⟩

/-- Why scanners stop early: for an error of the text, for a token that its constructor refuses, or
for a count below zero. -/
inductive Halt where
  | refused (error : LexError)
  | malformed (fault : TokenFault)
  | belowZero
deriving DecidableEq

/-- A scan that goes on forever has no outcome. -/
abbrev Scan := StateT Scanner (ExceptT Halt Option)

/-! ## Single characters -/

def current : Scan (Option Char) := do
  return (← get).ahead.head?

/-- The character behind the current one. -/
def following : Scan (Option Char) := do
  return (← get).ahead[1]?

def place : Scan Position := do
  return (← get).position

/-- Take the current character, if there is one. -/
def advance : Scan (Option Char) := do
  match (← get).ahead with
  | [] => return none
  | c :: ahead =>
    modify fun scanner => { scanner with ahead := ahead, position := scanner.position.advance c }
    return some c

def skip : Scan Unit := do
  let _ ← advance

def takeWhile (member : Char → Bool) : Scan (List Char) := do
  match ← current with
  | none => return []
  | some c =>
    if member c then
      skip
      let rest ← (· |>.takeWhile member)
      return c :: rest
    else return []
partial_fixpoint

def skipBlanks : Scan Unit := do
  let _ ← takeWhile isSpacing

/-! ## Results and counts -/

def refuse {α : Type} (fault : LexFault) (position : Position) : Scan α :=
  throw (.refused ⟨fault, position⟩)

def push (token : Except TokenFault Token) : Scan Unit := do
  match token with
  | .error fault => throw (.malformed fault)
  | .ok token => modify fun scanner => { scanner with tokens := scanner.tokens ++ [token] }

def pushPlain (kind : Kind) (position : Position) : Scan Unit :=
  push (Token.plain kind position)

def pushText (kind : Kind) (text : List Char) (position : Position) : Scan Unit :=
  push (Token.ofText kind (String.ofList text) position)

def countDown : Nat → Scan Nat
  | 0 => throw .belowZero
  | count + 1 => return count

/-! ## Items without nesting -/

/-- Take the rest of a block comment, whose start is given. -/
def commentEnd (start : Position) : Scan Unit := do
  let second ← following
  match ← current with
  | none => refuse .unterminatedComment start
  | some c =>
    if c = '*' && second = some '/' then
      skip
      skip
    else
      skip
      (· |>.commentEnd start)
partial_fixpoint

/-- Take the rest of a string, whose start is given, with the closing quote. -/
def stringEnd (start : Position) : Scan (List Char) := do
  match ← advance with
  | none => refuse .unterminatedString start
  | some c =>
    if c = '"' then return []
    else
      let rest ← (· |>.stringEnd start)
      return c :: rest
partial_fixpoint

def string (start : Position) : Scan Kind := do
  skip
  let text ← stringEnd start
  pushText .string text start
  return .string

def number (start : Position) : Scan Kind := do
  let digits ← takeWhile Text.isDigit
  if digitsValue digits ≤ largestNumber then
    push (.ok (Token.ofNumber (digitsValue digits) start))
    return .number
  else refuse (.integerOverflow (String.ofList digits)) start

/-- Push the text of an environment that has been captured, if there is any. -/
def flush (text : List Char) (start : Position) : Scan Unit := do
  if text.isEmpty then return
  else pushText .rawText text start

/-! ## Items -/

mutual

/-- Scan the item at the head of the text ahead. The result is the kind of its first token; a
comment has none. -/
def item : Scan (Option Kind) := do
  let start ← place
  let second ← following
  match ← current with
  | none => return none
  | some c =>
    if c = '/' && second = some '/' then
      let _ ← takeWhile (· != '\n')
      return none
    else if c = '/' && second = some '*' then
      skip
      skip
      commentEnd start
      return none
    else
      let kind ← (· |>.token start c second)
      return some kind
partial_fixpoint

/-- Scan a token and, if it is a trigger, the environment after it. The token starts at a given
place with two given characters. -/
def token (start : Position) (c : Char) (second : Option Char) : Scan Kind := do
  match second.bind (pairKind? c) with
  | some kind =>
    skip
    skip
    pushPlain kind start
    return kind
  | none =>
    match singleKind? c with
    | some kind =>
      skip
      pushPlain kind start
      return kind
    | none =>
      if c = '$' then
        skip
        pushPlain .dollar start
        (· |>.environment .parentheses)
        return .dollar
      else if c = '"' then string start
      else if Text.isDigit c then number start
      else if Text.startsWord c then (· |>.word start)
      else refuse (.unexpectedCharacter c) start
partial_fixpoint

def word (start : Position) : Scan Kind := do
  let word ← takeWhile Text.continuesWord
  match Kind.ofKeyword? (String.ofList word) with
  | some .rawWord =>
    pushPlain .rawWord start
    (· |>.environment .braces)
    return .rawWord
  | some kind =>
    pushPlain kind start
    return kind
  | none =>
    pushText .ident word start
    return .ident
partial_fixpoint

/-- Scan a raw environment after its trigger, from before the opening delimiter to behind the
closing one. -/
def environment (delimiter : Delimiter) : Scan Unit := do
  skipBlanks
  let start ← place
  match ← current with
  | none => refuse .unterminatedRawBlock start
  | some c =>
    if c = delimiter.opener then
      skip
      pushPlain delimiter.openKind start
      skipBlanks
      let textStart ← place
      (· |>.body delimiter start 1 [] textStart)
    else refuse (.unexpectedCharacter c) start
partial_fixpoint

/-- Scan the body of an environment. The level counts the delimiters that are open, and the text
captured since the last splice has not been pushed. -/
def body (delimiter : Delimiter) (start : Position) (level : Nat) (text : List Char)
    (textStart : Position) : Scan Unit := do
  let second ← following
  match ← current with
  | none => refuse .unterminatedRawBlock start
  | some c =>
    if c = delimiter.opener then
      skip
      (· |>.body delimiter start (level + 1) (text ++ [c]) textStart)
    else if c = delimiter.closer then
      let level ← countDown level
      if level = 0 then
        flush text textStart
        let position ← place
        skip
        pushPlain delimiter.closeKind position
      else
        skip
        (· |>.body delimiter start level (text ++ [c]) textStart)
    else if c = '$' && second = some '[' then
      flush text textStart
      (· |>.splice)
      let textStart ← place
      (· |>.body delimiter start level [] textStart)
    else
      skip
      (· |>.body delimiter start level (text ++ [c]) textStart)
partial_fixpoint

def splice : Scan Unit := do
  let start ← place
  skip
  pushPlain .dollar start
  let bracket ← place
  skip
  pushPlain .openBracket ⟨start.line, bracket.column⟩
  (· |>.spliceEnd start 1)
partial_fixpoint

/-- Scan the items of a splice up to and with the bracket that balances the opening one. The depth
counts the brackets that are open. -/
def spliceEnd (start : Position) (depth : Nat) : Scan Unit := do
  if depth = 0 then return
  else
    skipBlanks
    match ← current with
    | none => refuse .unterminatedSplice start
    | some _ =>
      match ← (· |>.item) with
      | some .openBracket => (· |>.spliceEnd start (depth + 1))
      | some .closeBracket =>
        let depth ← countDown depth
        (· |>.spliceEnd start depth)
      | _ => (· |>.spliceEnd start depth)
partial_fixpoint

end

/-! ## Whole texts -/

def items : Scan Unit := do
  skipBlanks
  match ← current with
  | none => return
  | some _ =>
    let _ ← item
    (· |>.items)
partial_fixpoint

def all : Scan (List Token) := do
  items
  let position ← place
  pushPlain .finish position
  return (← get).tokens

/-- What scanning a text comes to, if it comes to an end. -/
def scan (source : String) : Option (Except Halt (List Token)) :=
  (all.run' (.start source)).run

end Scanner

end StructuredShell
