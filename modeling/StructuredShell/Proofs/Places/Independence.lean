import StructuredShell.Proofs.Places.Readers
import StructuredShell.Proofs.Prefixes.Sources

/-!
# Layout does not matter

Source texts with the same tokens are read alike, however their tokens are laid out. The tokens of a
text stand one after another, so the order of their places is the order of their indices, and tokens
with the same index correspond.
-/

set_option autoImplicit false

namespace StructuredShell

/-! ## Tokens with the same index -/

/-- Whether two tokens have the same index in two lists. -/
def SameIndex (tokens others : List Token) (token other : Token) : Prop :=
  ∃ index : Nat, tokens[index]? = some token ∧ others[index]? = some other

theorem Position.before_asymm {first second : Position} (early : first.before second = true) :
    second.before first = false := by
  rw [Bool.eq_false_iff]
  intro late
  rw [before_iff] at early late
  omega

/-- Where each token stands before the next, places are in the order of indices. -/
theorem Increasing.before_eq {tokens : List Token} (increasing : Increasing tokens)
    {early late : Nat} {first second : Token} (atEarly : tokens[early]? = some first)
    (atLate : tokens[late]? = some second) :
    first.position.before second.position = decide (early < late) := by
  obtain ⟨isEarly, rfl⟩ := List.getElem?_eq_some_iff.mp atEarly
  obtain ⟨isLate, rfl⟩ := List.getElem?_eq_some_iff.mp atLate
  have inOrder := List.pairwise_iff_getElem.mp increasing
  rcases Nat.lt_trichotomy early late with isLess | rfl | isGreater
  · rw [inOrder early late isEarly isLate isLess, decide_eq_true isLess]
  · simp [Position.before]
  · rw [Position.before_asymm (inOrder late early isLate isEarly isGreater),
      decide_eq_false (by omega)]

section

variable {tokens others : List Token}

theorem SameIndex.content_eq (same : tokens.map Token.content = others.map Token.content)
    {token other : Token} (sameIndex : SameIndex tokens others token other) :
    token.content = other.content := by
  obtain ⟨index, isToken, isOther⟩ := sameIndex
  have here := congrArg (·[index]?) same
  simpa [isToken, isOther] using here

theorem sameIndex_correspondence {finish finish' : Position}
    (increasing : Increasing (tokens ++ [Token.endAt finish]))
    (increasing' : Increasing (others ++ [Token.endAt finish']))
    (same : (tokens ++ [Token.endAt finish]).map Token.content =
      (others ++ [Token.endAt finish']).map Token.content) :
    Correspondence (SameIndex (tokens ++ [Token.endAt finish]) (others ++ [Token.endAt finish']))
      finish finish' where
  kind_eq sameIndex := congrArg Prod.fst (sameIndex.content_eq same)
  literal_eq sameIndex := congrArg Prod.snd (sameIndex.content_eq same)
  ordered := by
    rintro first first' second second' ⟨early, isFirst, isFirst'⟩ ⟨late, isSecond, isSecond'⟩
    rw [increasing.before_eq isFirst isSecond, increasing'.before_eq isFirst' isSecond']
  ends := by
    have sameLength : tokens.length = others.length := by
      simpa using congrArg List.length same
    exact ⟨tokens.length, by simp, by simp [sameLength]⟩

theorem forall₂_sameIndex (sameLength : tokens.length = others.length) (more more' : List Token) :
    List.Forall₂ (SameIndex (tokens ++ more) (others ++ more')) tokens others := by
  rw [List.forall₂_iff_get]
  refine ⟨sameLength, fun index isIndex isIndex' => ⟨index, ?_, ?_⟩⟩
  · simp [List.getElem?_append_left isIndex]
  · simp [List.getElem?_append_left isIndex']

end

/-! ## Outcomes -/

/-- Whether two readings give the same value, or errors that report the tokens with the same index,
find the same kind there and expect the same kinds. -/
def SameOutcome {α : Type} (tokens others : List Token) (first second : Except Diagnostic α) :
    Prop :=
  (∃ value, first = .ok value ∧ second = .ok value) ∨
    ∃ (error error' : SyntaxError) (index : Nat),
      first = .error (.syntactic error) ∧ second = .error (.syntactic error') ∧
      error.found = error'.found ∧ error.expected = error'.expected ∧
      error.ReportsAt tokens index ∧ error'.ReportsAt others index

/-- A reader of tokens that cannot tell corresponding tokens apart reads source texts with the same
tokens alike. -/
theorem readSource_sameOutcome {α : Type} {bound : List Token → Nat}
    (reader : Position → (tokens : List Token) → Parser.Reply α (bound tokens))
    (reads_alike : ∀ {same : Token → Token → Prop} {finish finish' : Position}
      {tokens others : List Token}, Correspondence same finish finish' →
      List.Forall₂ same tokens others →
      Parser.Reply.Alike same (reader finish tokens) (reader finish' others))
    {first second : String} {tokens others : List Token} (lexed : Lexer.tokens first = .ok tokens)
    (lexed' : Lexer.tokens second = .ok others)
    (same : tokens.map Token.content = others.map Token.content) :
    SameOutcome tokens others (readSource (·.read reader) first)
      (readSource (·.read reader) second) := by
  obtain ⟨-, -, -, -, -, increasing⟩ := Lexer.tokens_inner lexed
  obtain ⟨-, -, -, -, -, increasing'⟩ := Lexer.tokens_inner lexed'
  obtain ⟨inner, finish, rfl, -⟩ := (Lexer.tokens_eq_ok_iff.mp lexed).ends
  obtain ⟨inner', finish', rfl, -⟩ := (Lexer.tokens_eq_ok_iff.mp lexed').ends
  have sameLength : inner.length = inner'.length := by simpa using congrArg List.length same
  have replies := reads_alike (sameIndex_correspondence increasing increasing' same)
    (forall₂_sameIndex sameLength _ _)
  rw [Parser.readSource_eq_result reader lexed, Parser.readSource_eq_result reader lexed']
  match reader finish inner, reader finish' inner', replies with
  | _, _, .ok _ => exact .inl ⟨_, rfl, rfl⟩
  | _, _, .fail (.reports sameIndex) =>
      have sameKind := congrArg Prod.fst (sameIndex.content_eq same)
      obtain ⟨index, isToken, isOther⟩ := sameIndex
      exact .inr ⟨_, _, index, rfl, rfl, sameKind, rfl, ⟨_, isToken, rfl, rfl⟩,
        ⟨_, isOther, rfl, rfl⟩⟩

/-- Layout does not matter. Two source texts with the same kinds and literals of tokens, in the same
order, have the same program, or errors that find the same kind, expect the same kinds and stand at
the tokens with the same index. The same holds of texts that are read as one value. -/
theorem Program.parse_sameOutcome {first second : String} {tokens others : List Token}
    (lexed : Lexer.tokens first = .ok tokens) (lexed' : Lexer.tokens second = .ok others)
    (same : tokens.map Token.content = others.map Token.content) :
    SameOutcome tokens others (Program.parse first) (Program.parse second) ∧
      SameOutcome tokens others (Expr.parse first) (Expr.parse second) :=
  ⟨readSource_sameOutcome Parser.program (fun paired alike => Parser.program_alike paired alike)
      lexed lexed' same,
    readSource_sameOutcome Parser.wholeExpression
      (fun paired alike => Parser.wholeExpression_alike paired alike) lexed lexed' same⟩

/-- The tokens of a condition that breaks off after a number in parentheses, on one line. -/
def brokenOnOneLine : List Token := [
  ⟨.funcWord, none, ⟨1, 1⟩⟩, ⟨.ident, some (.text "f"), ⟨1, 6⟩⟩, ⟨.openParen, none, ⟨1, 7⟩⟩,
  ⟨.closeParen, none, ⟨1, 8⟩⟩, ⟨.openBrace, none, ⟨1, 10⟩⟩, ⟨.ifWord, none, ⟨1, 12⟩⟩,
  ⟨.openParen, none, ⟨1, 15⟩⟩, ⟨.openParen, none, ⟨1, 16⟩⟩, ⟨.number, some (.number 10), ⟨1, 17⟩⟩,
  ⟨.closeParen, none, ⟨1, 19⟩⟩, ⟨.semicolon, none, ⟨1, 21⟩⟩, ⟨.closeBrace, none, ⟨1, 23⟩⟩,
  ⟨.finish, none, ⟨1, 24⟩⟩]

/-- The same tokens over several lines. The number is written with a leading zero, and the token
that is reported stands in an earlier column than the parenthesis before it. -/
def brokenOverLines : List Token := [
  ⟨.funcWord, none, ⟨1, 1⟩⟩, ⟨.ident, some (.text "f"), ⟨1, 6⟩⟩, ⟨.openParen, none, ⟨1, 7⟩⟩,
  ⟨.closeParen, none, ⟨1, 8⟩⟩, ⟨.openBrace, none, ⟨1, 10⟩⟩, ⟨.ifWord, none, ⟨2, 1⟩⟩,
  ⟨.openParen, none, ⟨2, 4⟩⟩, ⟨.openParen, none, ⟨2, 5⟩⟩, ⟨.number, some (.number 10), ⟨2, 6⟩⟩,
  ⟨.closeParen, none, ⟨2, 9⟩⟩, ⟨.semicolon, none, ⟨3, 1⟩⟩, ⟨.closeBrace, none, ⟨3, 2⟩⟩,
  ⟨.finish, none, ⟨3, 3⟩⟩]

theorem Program.parse_sameOutcome_broken :
    Lexer.tokens "func f() \x7b if ((10) ; \x7d" = .ok brokenOnOneLine ∧
    Lexer.tokens "func f() \x7b // open\nif ((010)\n;\x7d" = .ok brokenOverLines ∧
    brokenOnOneLine.map Token.content = brokenOverLines.map Token.content ∧
    SameOutcome brokenOnOneLine brokenOverLines (Program.parse "func f() \x7b if ((10) ; \x7d")
      (Program.parse "func f() \x7b // open\nif ((010)\n;\x7d") := by
  have lexed : Lexer.tokens "func f() \x7b if ((10) ; \x7d" = .ok brokenOnOneLine := by cbv
  have lexed' : Lexer.tokens "func f() \x7b // open\nif ((010)\n;\x7d" = .ok brokenOverLines := by
    cbv
  have same : brokenOnOneLine.map Token.content = brokenOverLines.map Token.content := rfl
  exact ⟨lexed, lexed', same, (Program.parse_sameOutcome lexed lexed' same).1⟩

end StructuredShell
