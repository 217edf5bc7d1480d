import StructuredShell.Proofs.Grammar.Programs
import StructuredShell.Proofs.WellFormed.Programs
import StructuredShell.Proofs.WellFormed.Reading

/-!
# The programs that have a source text

A program is what some source text is read as exactly when it is well-formed, and then its printed
form is such a text.
-/

set_option autoImplicit false

namespace StructuredShell

open Lexer (Follows Scan)

/-! ## The nearest `else` of well-formed trees -/

mutual

theorem Statement.WellFormed.nearest (statement : Statement) (wellFormed : statement.WellFormed) :
    statement.elseNearest = true :=
  match statement, wellFormed with
  | .assignment _, _ => rfl
  | .returnValue _, _ => rfl
  | .block statements, wellFormed => Statement.AllWellFormed.nearest statements wellFormed
  | .conditional _ body alternative, ⟨_, wellFormedBody, wellFormedEnd, belongs⟩ => by
      have nearestBody := Statement.WellFormed.nearest body wellFormedBody
      have nearestEnd := Alternative.WellFormed.nearest alternative wellFormedEnd
      simpa [Statement.elseNearest, nearestBody, nearestEnd] using belongs
  | .expression _, _ => rfl

theorem Alternative.WellFormed.nearest (alternative : Alternative)
    (wellFormed : alternative.WellFormed) : alternative.elseNearest = true :=
  match alternative, wellFormed with
  | .absent, _ => rfl
  | .otherwise body, wellFormed => Statement.WellFormed.nearest body wellFormed.1
  | .elseIf _ body alternative, ⟨_, wellFormedBody, wellFormedEnd, belongs⟩ => by
      have nearestBody := Statement.WellFormed.nearest body wellFormedBody
      have nearestEnd := Alternative.WellFormed.nearest alternative wellFormedEnd
      simpa [Alternative.elseNearest, nearestBody, nearestEnd] using belongs

theorem Statement.AllWellFormed.nearest (statements : List Statement)
    (wellFormed : Statement.AllWellFormed statements) : Statement.elsesNearest statements = true :=
  match statements, wellFormed with
  | [], _ => rfl
  | statement :: rest, wellFormed => by
      rw [Statement.elsesNearest, Statement.WellFormed.nearest statement wellFormed.1,
        Statement.AllWellFormed.nearest rest wellFormed.2]
      rfl

end

theorem Program.WellFormed.nearest {program : Program} (wellFormed : program.WellFormed) :
    program.elseNearest = true := by
  rw [Program.elseNearest, List.all_eq_true]
  intro function isFunction
  exact Statement.AllWellFormed.nearest function.body (wellFormed.2 function isFunction).2.2

/-! ## Reading a whole text -/

theorem readSource_eq_ok_iff {α : Type}
    {reader : TokenStream → Except SyntaxError α × TokenStream} {source : String} {value : α} :
    readSource reader source = .ok value ↔
      ∃ tokens, Lexer.tokens source = .ok tokens ∧ (reader (.ofTokens tokens)).1 = .ok value := by
  unfold readSource
  cases Lexer.tokens source with
  | error error => simp
  | ok tokens => cases read : (reader (.ofTokens tokens)).1 <;> simp [read]

/-- A source text has a program exactly when its tokens derive the program and every `else` of it
belongs to the nearest conditional. -/
theorem Program.parse_eq_ok_iff {source : String} {program : Program} :
    Program.parse source = .ok program ↔ ∃ tokens place,
      Lexer.tokens source = .ok (tokens ++ [⟨.finish, none, place⟩]) ∧
      Grammar.Program tokens program ∧ program.elseNearest = true := by
  rw [Program.parse, readSource_eq_ok_iff]
  constructor
  · intro found
    obtain ⟨tokens, lexed, read⟩ := found
    obtain ⟨inner, place, rfl, noEnd⟩ := (Lexer.tokens_eq_ok_iff.mp lexed).ends
    exact ⟨inner, place, lexed,
      (TokenStream.program_eq_ok_iff_nearest inner _ noEnd rfl program).mp read⟩
  · intro found
    obtain ⟨tokens, place, lexed, derived⟩ := found
    obtain ⟨inner, last, same, noEnd⟩ := (Lexer.tokens_eq_ok_iff.mp lexed).ends
    obtain rfl : tokens = inner := List.append_inj_left' same rfl
    exact ⟨_, lexed, (TokenStream.program_eq_ok_iff_nearest tokens _ noEnd rfl program).mpr derived⟩

theorem Program.parse_written {program : Program} (wellFormed : program.WellFormed) :
    Program.parse (String.ofList program.written) = .ok program := by
  obtain ⟨tokens, derived, scans⟩ := Program.writes wellFormed [] .start
  have scanned := scans [] _ .finish
  rw [List.append_nil] at scanned
  refine Program.parse_eq_ok_iff.mpr
    ⟨tokens, Position.start.after program.written, ?_, derived, wellFormed.nearest⟩
  rw [Lexer.tokens_eq_ok_iff, String.toList_ofList]
  exact scanned

theorem Program.wellFormed_of_parse {source : String} {program : Program}
    (read : Program.parse source = .ok program) : program.WellFormed := by
  obtain ⟨tokens, place, lexed, derived, nearest⟩ := Program.parse_eq_ok_iff.mp read
  have follows : Follows ⟨.code, []⟩ (tokens ++ [⟨.finish, none, place⟩]) :=
    ⟨_, _, Lexer.tokens_eq_ok_iff.mp lexed⟩
  exact program_wellFormed derived nearest follows

/-- The programs that source texts have are the well-formed ones. Every program that is read from
any text is well-formed, and every well-formed program is read from its printed form. -/
theorem Program.parse_image (program : Program) :
    ((∃ source, Program.parse source = .ok program) ↔ program.WellFormed) ∧
    (program.WellFormed ↔ Program.parse (String.ofList program.written) = .ok program) := by
  refine ⟨⟨?_, ?_⟩, Program.parse_written, Program.wellFormed_of_parse⟩
  · intro found
    obtain ⟨source, read⟩ := found
    exact Program.wellFormed_of_parse read
  · intro wellFormed
    exact ⟨_, Program.parse_written wellFormed⟩

end StructuredShell
