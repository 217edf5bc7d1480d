import StructuredShell.CommandLine.Run
import StructuredShell.Proofs.Dumps.Escapes
import StructuredShell.Proofs.Failures.Carets

/-!
# The token dump loses nothing

Every token is shown on one line, whatever its text holds, and its line says what the token is and
where it stands. So a dump has as many lines as tokens, and tells the tokens. This holds for any
choice of hidden characters, of which the one that is in use is a case.
-/

set_option autoImplicit false

namespace StructuredShell

open Lexer (Stops run_cancel stops_cons stops_nil)

/-! ## Lines of tokens -/

namespace Token

/-- A token on one line of a token dump, for any choice of hidden characters. -/
def shownBy (hidden : Char → Bool) (token : Token) : String :=
  let heading := token.position.shown ++ " " ++ token.kind.symbol
  match token.literal with
  | some (.number value) => heading ++ " " ++ value.repr
  | some (.text value) => heading ++ " " ++ Text.shownTextBy hidden value
  | none => heading

def dumpBy (hidden : Char → Bool) (tokens : List Token) : String :=
  String.join (tokens.map fun token => token.shownBy hidden ++ "\n")

theorem shown_eq (token : Token) : token.shown = token.shownBy Text.isHidden := rfl

/-- What stands behind the symbol of the kind. -/
def shownLiteral (hidden : Char → Bool) : Option Literal → List Char
  | none => []
  | some (.number value) => ' ' :: value.repr.toList
  | some (.text value) => ' ' :: (Text.shownTextBy hidden value).toList

theorem toList_shownBy (hidden : Char → Bool) (token : Token) :
    (token.shownBy hidden).toList =
      token.position.line.repr.toList ++ ':' :: (token.position.column.repr.toList ++
        ' ' :: (token.kind.symbol.toList ++ shownLiteral hidden token.literal)) := by
  obtain ⟨kind, literal, position⟩ := token
  match literal with
  | none | some (.number _) | some (.text _) => simp [shownBy, shownLiteral, Position.shown]

end Token

/-! ## One line for each token -/

theorem Kind.symbol_solid (kind : Kind) :
    kind.symbol.toList.all (· != ' ') = true ∧ '\n' ∉ kind.symbol.toList := by
  cases kind <;> decide

theorem newline_not_mem_shownTextBy (hidden : Char → Bool) (text : String) :
    '\n' ∉ (Text.shownTextBy hidden text).toList := by
  have inside : '\n' ∉ text.toList.flatMap (Text.escapeCharBy hidden ['"']) := by
    rw [List.mem_flatMap]
    rintro ⟨c, -, isNewline⟩
    exact Text.newline_not_mem_escapeCharBy hidden ['"'] c isNewline
  simp [Text.shownTextBy, inside]

theorem newline_not_mem_repr (value : Int) : '\n' ∉ value.repr.toList := by
  intro isNewline
  have numeric := List.all_eq_true.mp (Json.repr_isNumeric value) '\n' isNewline
  cases numeric

theorem newline_not_mem_shownLiteral (hidden : Char → Bool) (literal : Option Literal) :
    '\n' ∉ Token.shownLiteral hidden literal := by
  match literal with
  | none => simp [Token.shownLiteral]
  | some (.number value) => simp [Token.shownLiteral, newline_not_mem_repr value]
  | some (.text value) => simp [Token.shownLiteral, newline_not_mem_shownTextBy hidden value]

theorem Token.oneLine_shownBy (hidden : Char → Bool) (token : Token) :
    Text.OneLine (token.shownBy hidden) := by
  have inSymbol := token.kind.symbol_solid.2
  have inLiteral := newline_not_mem_shownLiteral hidden token.literal
  rw [Text.OneLine, toList_shownBy]
  simp only [List.mem_append, List.mem_cons, not_or]
  exact ⟨Text.oneLine_repr _, by decide, Text.oneLine_repr _, by decide, inSymbol, inLiteral⟩

/-! ## Lines tell tokens apart -/

theorem Kind.symbol_injective : Function.Injective Kind.symbol := by
  have found : ∀ kind : Kind, Kind.ofSymbol? kind.symbol = some kind := by
    intro kind
    cases kind <;> rfl
  intro first second same
  have sameFound := congrArg Kind.ofSymbol? same
  rw [found, found] at sameFound
  exact Option.some.inj sameFound

theorem repr_cancel {first second : Nat} {c : Char} {rest others : List Char}
    (other : Json.isNumeric c = false)
    (same : first.repr.toList ++ c :: rest = second.repr.toList ++ c :: others) :
    first = second ∧ rest = others := by
  have stops (rest : List Char) : Stops Json.isNumeric (c :: rest) := stops_cons.mpr other
  obtain ⟨sameNumber, sameRest⟩ :=
    Json.repr_readsOff (first : Int) (second : Int) _ _ (stops rest) (stops others) same
  exact ⟨Int.ofNat.inj sameNumber, List.tail_eq_of_cons_eq sameRest⟩

theorem Token.shownLiteral_stops (hidden : Char → Bool) (literal : Option Literal) :
    Stops (· != ' ') (shownLiteral hidden literal) := by
  match literal with
  | none => exact stops_nil _
  | some (.number _) | some (.text _) => exact stops_cons.mpr rfl

theorem repr_ne_shownTextBy (hidden : Char → Bool) (value : Int) (text : String) :
    value.repr ≠ Text.shownTextBy hidden text := by
  intro same
  have isQuote : '"' ∈ value.repr.toList := by simp [same, Text.shownTextBy]
  have numeric := List.all_eq_true.mp (Json.repr_isNumeric value) '"' isQuote
  cases numeric

theorem Token.shownLiteral_injective (hidden : Char → Bool) :
    Function.Injective (shownLiteral hidden) := by
  intro first second same
  match first, second with
  | none, none => rfl
  | none, some (.number _) | none, some (.text _) | some (.number _), none | some (.text _), none =>
      simp [shownLiteral] at same
  | some (.number value), some (.number other) =>
      simp only [shownLiteral, List.cons.injEq, true_and, String.toList_inj] at same
      rw [Int.repr_inj.mp same]
  | some (.text value), some (.text other) =>
      simp only [shownLiteral, List.cons.injEq, true_and, String.toList_inj] at same
      rw [Text.shownTextBy_injective hidden same]
  | some (.number value), some (.text text) =>
      simp only [shownLiteral, List.cons.injEq, true_and, String.toList_inj] at same
      exact absurd same (repr_ne_shownTextBy hidden value text)
  | some (.text text), some (.number value) =>
      simp only [shownLiteral, List.cons.injEq, true_and, String.toList_inj] at same
      exact absurd same.symm (repr_ne_shownTextBy hidden value text)

/-- The line of a token says all of it: its place up to the first space, its kind up to the next
one, and its literal behind that. -/
theorem Token.shownBy_injective (hidden : Char → Bool) :
    Function.Injective (shownBy hidden) := by
  intro first second same
  have sameChars := congrArg String.toList same
  rw [toList_shownBy, toList_shownBy] at sameChars
  obtain ⟨sameLine, sameChars⟩ := repr_cancel (by decide) sameChars
  obtain ⟨sameColumn, sameChars⟩ := repr_cancel (by decide) sameChars
  obtain ⟨sameSymbol, sameLiteral⟩ :=
    run_cancel first.kind.symbol_solid.1 second.kind.symbol_solid.1
      (shownLiteral_stops hidden _) (shownLiteral_stops hidden _) sameChars
  obtain ⟨kind, literal, line, column⟩ := first
  obtain ⟨kind', literal', line', column'⟩ := second
  obtain rfl : kind = kind' := Kind.symbol_injective (String.toList_inj.mp sameSymbol)
  obtain rfl : literal = literal' := shownLiteral_injective hidden sameLiteral
  obtain rfl : line = line' := sameLine
  obtain rfl : column = column' := sameColumn
  rfl

/-! ## Dumps -/

/-- Cut at its newlines, a dump is the lines of its tokens, and nothing stands behind the last
newline. -/
theorem Token.splitOn_dumpBy (hidden : Char → Bool) (tokens : List Token) :
    (dumpBy hidden tokens).toList.splitOn '\n' =
      tokens.map (fun token => (token.shownBy hidden).toList) ++ [[]] := by
  induction tokens with
  | nil => simp [dumpBy]
  | cons token tokens ih =>
      have first : (dumpBy hidden (token :: tokens)).toList =
          (token.shownBy hidden).toList ++ '\n' :: (dumpBy hidden tokens).toList := by
        simp [dumpBy]
      rw [first, List.splitOn_append_cons_self_of_not_mem (token.oneLine_shownBy hidden), ih]
      rfl

theorem Token.dumpBy_injective (hidden : Char → Bool) : Function.Injective (dumpBy hidden) := by
  intro first second same
  have sameLines := congrArg (fun dump => dump.toList.splitOn '\n') same
  simp only [splitOn_dumpBy] at sameLines
  have lines : Function.Injective fun token : Token => (token.shownBy hidden).toList := by
    intro token other sameLine
    exact shownBy_injective hidden (String.toList_inj.mp sameLine)
  exact List.map_injective_iff.mpr lines (List.append_cancel_right sameLines)

namespace CommandLine

theorem Invocation.run_tokens {invocation : Invocation} {store : FileStore} {source : String}
    {tokens : List Token} (emits : invocation.emit = .tokens)
    (read : store.read invocation.input = .ok source) (lexed : Lexer.tokens source = .ok tokens) :
    ∃ stderr, invocation.run store = (⟨0, Token.dumpBy Text.isHidden tokens, stderr⟩, store) := by
  simp only [run, read, plan, planSource, lexed, planTokens, emits, Token.shown_eq]
  exact ⟨_, rfl⟩

/-- The token dump is lossless and has one line for each token. Whichever arguments ask for the
tokens of a file with a source text that has tokens, and whoever reads them, the run succeeds and
prints their dump. For any choice of characters that are shown by their code, a dump that is cut at
its newlines has as many lines as there are tokens and nothing behind the last of them, and two
source texts with the same dump have the same tokens: kinds, literals and places. -/
theorem run_tokens_lossless {source : String} {tokens : List Token}
    (lexed : Lexer.tokens source = .ok tokens) :
    (∀ (ε : Type) (reader : ArgumentReader ε) arguments invocation store,
      reader arguments = .ok (.compile invocation) → invocation.emit = .tokens →
      store.read invocation.input = .ok source →
        ∃ report, reader.run arguments store = .ok (report, store) ∧ report.status = 0 ∧
          report.stdout = Token.dumpBy Text.isHidden tokens) ∧
    ∀ hidden : Char → Bool,
      (∃ lines : List (List Char), lines.length = tokens.length ∧
        (Token.dumpBy hidden tokens).toList.splitOn '\n' = lines ++ [[]]) ∧
      ∀ source' tokens', Lexer.tokens source' = .ok tokens' →
        Token.dumpBy hidden tokens' = Token.dumpBy hidden tokens → tokens' = tokens := by
  constructor
  · intro ε reader arguments invocation store accepted emits read
    obtain ⟨stderr, ran⟩ := Invocation.run_tokens emits read lexed
    rw [ArgumentReader.run, accepted]
    exact ⟨_, congrArg _ ran, rfl, rfl⟩
  · intro hidden
    constructor
    · exact ⟨_, by simp, Token.splitOn_dumpBy hidden tokens⟩
    · intro source' tokens' _ same
      exact Token.dumpBy_injective hidden same

/-- A file with a string that looks like a line of a dump, over two lines. -/
def lineInString : FileStore :=
  .ofFiles [(⟨.above 0, ["a.punch"]⟩, .text "\"\n1:1 END\\\"")]

theorem run_tokens_lossless_lineInString :
    ∃ report, run ["--emit", "tokens", "a.punch"] lineInString = .ok (report, lineInString) ∧
      report.status = 0 ∧
      report.stdout = "1:1 STRING \"\\n1:1 END\\\\\"\n2:10 END\n" := by
  have accepted : Request.ofArguments ["--emit", "tokens", "a.punch"] =
      .ok (.compile ⟨"a.punch", none, .tokens, none, none, false, false⟩) := rfl
  have lexed : Lexer.tokens "\"\n1:1 END\\\"" =
      .ok [⟨.string, some (.text "\n1:1 END\\"), ⟨1, 1⟩⟩, ⟨.finish, none, ⟨2, 10⟩⟩] := by cbv
  have dump : Token.dumpBy Text.isHidden
      [⟨.string, some (.text "\n1:1 END\\"), ⟨1, 1⟩⟩, ⟨.finish, none, ⟨2, 10⟩⟩] =
        "1:1 STRING \"\\n1:1 END\\\\\"\n2:10 END\n" := by decide
  obtain ⟨report, ran, status, stdout⟩ :=
    (run_tokens_lossless lexed).1 _ _ _ _ lineInString accepted rfl rfl
  exact ⟨report, ran, status, stdout.trans dump⟩

end CommandLine

end StructuredShell
