import StructuredShell.Proofs.Composition.Texts
import StructuredShell.Proofs.Places.Readers
import StructuredShell.Proofs.WellFormed.Image

/-!
# Programs one after another

No item of a program looks past its own last token, so behind the items of one program the reader
goes on as if they were not there. Since it also does not mind on which lines the tokens stand, a
text below a program is read as on its own.
-/

set_option autoImplicit false

namespace StructuredShell

/-! ## Items that follow -/

/-- The items of a program and those of another one behind it. -/
def Program.followedBy (first second : Program) : Program :=
  ⟨first.globals ++ second.globals, first.functions ++ second.functions⟩

namespace Parser

section

variable {finish : Position} {tokens rest : List Token}

theorem program_behind_function {first : FunctionDecl}
    (isFunction : ItemHead.ofKind (headKind tokens) = .function)
    (read : (function finish tokens).reads? = some (first, rest)) :
    (program finish tokens).result = (program finish rest).result.map
      fun others => { others with functions := first :: others.functions } := by
  rw [program, isFunction]
  cases isReply : function finish tokens with
  | fail error stopped => simp [isReply] at read
  | ok value after shorter =>
      rw [isReply] at read
      cases read
      simp

theorem program_behind_assignment {first : Assignment}
    (isAssignment : ItemHead.ofKind (headKind tokens) = .assignment)
    (read : (assignment finish tokens).reads? = some (first, rest)) :
    (program finish tokens).result = (program finish rest).result.map
      fun others => { others with globals := first :: others.globals } := by
  rw [program, isAssignment]
  cases isReply : assignment finish tokens with
  | fail error stopped => simp [isReply] at read
  | ok value after shorter =>
      rw [isReply] at read
      cases read
      simp

/-- Behind the items of a program the reader goes on with what follows, whatever that is. -/
theorem program_behind {value : Program} (derived : Grammar.Program tokens value)
    (nearest : value.elseNearest = true) (rest : List Token) :
    (program finish (tokens ++ rest)).result =
      (program finish rest).result.map value.followedBy := by
  induction derived with
  | nil =>
      rw [List.nil_append]
      cases (program finish rest).result <;> rfl
  | @function used later first others derivedFirst _ ih =>
      simp only [Program.elseNearest, List.all_cons, Bool.and_eq_true] at nearest
      rw [List.append_assoc, program_behind_function (itemHead_function derivedFirst _)
        (function_complete derivedFirst nearest.1 _), ih nearest.2]
      cases (program finish rest).result <;> rfl
  | @assignment used later first others derivedFirst _ ih =>
      rw [List.append_assoc, program_behind_assignment (itemHead_assignment derivedFirst _)
        (assignment_complete derivedFirst), ih nearest]
      cases (program finish rest).result <;> rfl

end

end Parser

/-! ## Programs further down -/

def SyntaxError.below (lines : Nat) (error : SyntaxError) : SyntaxError :=
  { error with position := error.position.below lines }

def Diagnostic.below (lines : Nat) : Diagnostic → Diagnostic
  | .lexical error => .lexical (error.below lines)
  | .syntactic error => .syntactic (error.below lines)

theorem Position.before_below (lines : Nat) (first second : Position) :
    (first.below lines).before (second.below lines) = first.before second := by
  rw [Bool.eq_iff_iff, before_iff, before_iff]
  simp [below]

/-- Tokens correspond to themselves further down. -/
theorem below_correspondence (lines : Nat) (finish : Position) :
    Correspondence (fun token other => other = token.below lines) finish (finish.below lines) where
  kind_eq := by
    rintro token _ rfl
    rfl
  literal_eq := by
    rintro token _ rfl
    rfl
  ordered := by
    rintro first _ second _ rfl rfl
    exact (Position.before_below lines _ _).symm
  ends := rfl

theorem Parser.program_below (lines : Nat) (finish : Position) (tokens : List Token) :
    (program (finish.below lines) (tokens.map (Token.below lines))).result =
      (program finish tokens).result.mapError (Diagnostic.below lines) := by
  have moved : List.Forall₂ (fun token other => other = Token.below lines token) tokens
      (tokens.map (Token.below lines)) := by
    rw [List.forall₂_map_right_iff, List.forall₂_same]
    intro token _
    rfl
  match program finish tokens, program (finish.below lines) (tokens.map (Token.below lines)),
    program_alike (below_correspondence lines finish) moved with
  | _, _, .ok _ => rfl
  | _, _, .fail (.reports same) =>
      subst same
      rfl

/-! ## Source texts -/

/-- Programs compose. Below a text that has a program, and a newline, another text is read as on its
own: its items follow those of the first program, or its diagnostic is the diagnostic of both, as
many lines further down as the first text and the newline take. -/
theorem Program.parse_append_newline {first : String} {program : Program}
    (read : Program.parse first = .ok program) (second : String) :
    Program.parse (first ++ "\n" ++ second) =
      match Program.parse second with
      | .ok other => .ok ⟨program.globals ++ other.globals, program.functions ++ other.functions⟩
      | .error diagnostic => .error (diagnostic.below (1 + first.toList.count '\n')) := by
  obtain ⟨tokens, place, lexed, derived, nearest⟩ := Program.parse_eq_ok_iff.mp read
  have joined := Lexer.tokens_below lexed second
  cases lexedOther : Lexer.tokens second with
  | error error =>
      rw [lexedOther] at joined
      simp only [Program.parse, readSource, lexedOther, joined]
      rfl
  | ok others =>
      obtain ⟨inner, finish, rfl, -⟩ := (Lexer.tokens_eq_ok_iff.mp lexedOther).ends
      rw [lexedOther] at joined
      have lexedBoth : Lexer.tokens (first ++ "\n" ++ second) =
          .ok (tokens ++ inner.map (Token.below (1 + first.toList.count '\n')) ++
            [Token.endAt (finish.below (1 + first.toList.count '\n'))]) := by
        rw [joined]
        simp [Lexer.outcomeBelow, Except.map, Token.endAt, Token.below]
      have readOther := Parser.readSource_eq_result Parser.program lexedOther
      have readBoth := Parser.readSource_eq_result Parser.program lexedBoth
      rw [Parser.program_behind derived nearest, Parser.program_below] at readBoth
      rw [Program.parse, Program.parse]
      unfold TokenStream.program
      rw [readOther, readBoth]
      cases (Parser.program finish inner).result <;> rfl

/-- A conditional without `else` ends the first program, and an `else` that begins the text below it
is reported there. -/
theorem Program.parse_append_newline_conditional :
    Program.parse "func f() \x7b if (true) \x7b\x7d\n\x7d // f" =
      .ok ⟨[], [⟨"f", [], [.conditional (.constant true) (.block []) .absent]⟩]⟩ ∧
    Program.parse "func f() \x7b if (true) \x7b\x7d\n\x7d // f\nvar a = 1;" =
      .ok ⟨[⟨true, "a", .number 1⟩],
        [⟨"f", [], [.conditional (.constant true) (.block []) .absent]⟩]⟩ ∧
    Program.parse "func f() \x7b if (true) \x7b\x7d\n\x7d // f\n else \x7b\x7d" =
      .error (.syntactic ⟨.elseWord, Parser.itemStart, ⟨3, 2⟩⟩) := by
  have read : Program.parse "func f() \x7b if (true) \x7b\x7d\n\x7d // f" =
      .ok ⟨[], [⟨"f", [], [.conditional (.constant true) (.block []) .absent]⟩]⟩ := by cbv
  have readOther : Program.parse "var a = 1;" = .ok ⟨[⟨true, "a", .number 1⟩], []⟩ := by cbv
  have failed : Program.parse " else \x7b\x7d" =
      .error (.syntactic ⟨.elseWord, Parser.itemStart, ⟨1, 2⟩⟩) := by cbv
  have both := Program.parse_append_newline read "var a = 1;"
  have fails := Program.parse_append_newline read " else \x7b\x7d"
  rw [readOther] at both
  rw [failed] at fails
  exact ⟨read, both, fails⟩

end StructuredShell
