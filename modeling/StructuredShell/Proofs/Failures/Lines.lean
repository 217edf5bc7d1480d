import StructuredShell.Diagnostic
import StructuredShell.Proofs.Lexing.Spelling

/-!
# Lines and places

Two ways to find a line of a text have to agree. Places are counted while a text is read: newlines
give the line, and what follows the last of them gives the column. A text that is shown is cut into
lines first, where the return of a line that ends with a return and a newline is dropped, and no
line stands behind the last newline.
-/

set_option autoImplicit false

namespace StructuredShell

open Lexer (Stops exists_run isSpacing stops_cons takeWhile_run)

namespace Text

/-! ## Lines of a text -/

/-- Whether a line starts right behind a text. -/
def StartsLine (above : List Char) : Prop :=
  above = [] ∨ above.getLast? = some '\n'

/-- Whether a text has a given line behind given lines above it. A line ends before a newline, or
before a return and a newline, or with the text. -/
structure IsLine (source above line : List Char) : Prop where
  starts : StartsLine above
  noNewline : '\n' ∉ line
  ends : ∃ ending below, source = above ++ (line ++ (ending ++ below)) ∧
    (ending = ['\r', '\n'] ∨ ending = ['\n'] ∧ line.getLast? ≠ some '\r' ∨
      ending = [] ∧ below = [])

theorem StartsLine.tail {c : Char} {cs : List Char} (starts : StartsLine (c :: cs)) :
    StartsLine cs := by
  rcases starts with empty | isLast
  · cases empty
  · cases cs with
    | nil => exact .inl rfl
    | cons d cs => exact .inr (by rwa [List.getLast?_cons_cons] at isLast)

theorem StartsLine.tail_ne_nil {c : Char} {cs : List Char} (starts : StartsLine (c :: cs))
    (notNewline : c ≠ '\n') : cs ≠ [] := by
  rintro rfl
  rcases starts with empty | isLast
  · cases empty
  · exact notNewline (by simpa using isLast)

theorem lineChars_cons {c : Char} {cs : List Char} (notNewline : c ≠ '\n')
    (notReturn : c = '\r' → cs.head? ≠ some '\n') :
    lineChars (c :: cs) =
      match lineChars cs with
      | [] => [[c]]
      | line :: lines => (c :: line) :: lines := by
  refine lineChars.eq_4 c cs notNewline ?_
  rintro rest rfl rfl
  exact notReturn rfl rfl

theorem lineChars_ne_nil {cs : List Char} (nonempty : cs ≠ []) : lineChars cs ≠ [] := by
  fun_cases lineChars cs <;> simp_all

/-- Lines that are complete stand before the lines of what follows them. -/
theorem lineChars_append {above : List Char} (starts : StartsLine above) (rest : List Char) :
    lineChars (above ++ rest) = lineChars above ++ lineChars rest := by
  fun_induction lineChars above with
  | case1 => rfl
  | case2 cs ih =>
      rw [List.cons_append, lineChars, ih starts.tail]
      rfl
  | case3 cs ih =>
      rw [List.cons_append, List.cons_append, lineChars, ih starts.tail.tail]
      rfl
  | case4 c cs notNewline notReturn isEmpty ih =>
      exact absurd isEmpty (lineChars_ne_nil (starts.tail_ne_nil notNewline))
  | case5 c cs notNewline notReturn line lines areLines ih =>
      have nonempty := starts.tail_ne_nil notNewline
      have notReturn : c = '\r' → (cs ++ rest).head? ≠ some '\n' := by
        intro isReturn isNewline
        obtain ⟨d, cs, rfl⟩ := List.exists_cons_of_ne_nil nonempty
        obtain rfl : d = '\n' := by simpa using isNewline
        exact notReturn cs isReturn rfl
      rw [List.cons_append, lineChars_cons notNewline notReturn, ih starts.tail, areLines]
      rfl

theorem length_lineChars {above : List Char} (starts : StartsLine above) :
    (lineChars above).length = above.count '\n' := by
  fun_induction lineChars above with
  | case1 => rfl
  | case2 cs ih => simp [ih starts.tail]
  | case3 cs ih => simp [ih starts.tail.tail]
  | case4 c cs notNewline notReturn isEmpty ih =>
      exact absurd isEmpty (lineChars_ne_nil (starts.tail_ne_nil notNewline))
  | case5 c cs notNewline notReturn line lines areLines ih =>
      have counted := ih starts.tail
      rw [areLines] at counted
      rw [List.count_cons_of_ne notNewline]
      exact counted

/-- The first line of a text, unless nothing is left. -/
theorem lineChars_first {line ending below : List Char} (noNewline : '\n' ∉ line)
    (ends : ending = ['\r', '\n'] ∨ ending = ['\n'] ∧ line.getLast? ≠ some '\r' ∨
      ending = [] ∧ below = [])
    (nonempty : line ++ (ending ++ below) ≠ []) :
    ∃ lines, lineChars (line ++ (ending ++ below)) = line :: lines := by
  induction line with
  | nil =>
      rcases ends with rfl | ⟨rfl, -⟩ | ⟨rfl, rfl⟩
      · exact ⟨_, rfl⟩
      · exact ⟨_, rfl⟩
      · exact absurd rfl nonempty
  | cons c line ih =>
      obtain ⟨notNewline, noNewline⟩ := List.ne_and_not_mem_of_not_mem_cons noNewline
      have notReturn : c = '\r' → (line ++ (ending ++ below)).head? ≠ some '\n' := by
        intro isReturn isNewline
        match line with
        | d :: line =>
            obtain rfl : d = '\n' := by simpa using isNewline
            exact noNewline (.head _)
        | [] =>
            rcases ends with rfl | ⟨rfl, notLast⟩ | ⟨rfl, rfl⟩
            · simp at isNewline
            · exact notLast (by simp [isReturn])
            · simp at isNewline
      rw [List.cons_append, lineChars_cons notNewline.symm notReturn]
      by_cases isLast : line ++ (ending ++ below) = []
      · obtain ⟨rfl, -⟩ := List.append_eq_nil_iff.mp isLast
        rw [isLast]
        exact ⟨[], rfl⟩
      · have endsLater : ending = ['\r', '\n'] ∨ ending = ['\n'] ∧ line.getLast? ≠ some '\r' ∨
            ending = [] ∧ below = [] := by
          refine ends.imp_right (Or.imp_left (And.imp_right fun notLast isReturn => notLast ?_))
          rw [List.getLast?_cons, isReturn]
          rfl
        obtain ⟨lines, isFirst⟩ := ih noNewline endsLater isLast
        rw [isFirst]
        exact ⟨lines, rfl⟩

/-- The lines of a text are found by counting the newlines above them. -/
theorem IsLine.getElem? {source above line : List Char} (isLine : IsLine source above line)
    (behind : source ≠ above) : (lineChars source)[above.count '\n']? = some line := by
  obtain ⟨ending, below, rfl, ends⟩ := isLine.ends
  have nonempty : line ++ (ending ++ below) ≠ [] := by simpa using behind
  obtain ⟨lines, isFirst⟩ := lineChars_first isLine.noNewline ends nonempty
  rw [lineChars_append isLine.starts, ← length_lineChars isLine.starts, isFirst]
  simp

theorem StartsLine.getElem? {source : List Char} (starts : StartsLine source) :
    (lineChars source)[source.count '\n']? = none := by
  rw [← length_lineChars starts]
  exact List.getElem?_eq_none (Nat.le_refl _)

/-! ## The line of a place -/

theorem exists_lineStart (before : List Char) :
    ∃ above start, before = above ++ start ∧ StartsLine above ∧ '\n' ∉ start := by
  obtain ⟨run, rest, isReverse, inRun, stops, -⟩ := exists_run (· != '\n') before.reverse
  refine ⟨rest.reverse, run.reverse, ?_, ?_, ?_⟩
  · rw [← List.reverse_append, ← isReverse, List.reverse_reverse]
  · rw [StartsLine, List.getLast?_reverse]
    match rest, stops with
    | [], _ => exact .inl rfl
    | c :: rest, stops => exact .inr (by simpa using stops)
  · rw [List.mem_reverse]
    intro newline
    simpa using List.all_eq_true.mp inRun '\n' newline

theorem exists_lineEnd {after : List Char} (solid : Stops isSpacing after) :
    ∃ rest ending below, after = rest ++ (ending ++ below) ∧ '\n' ∉ rest ∧
      rest.head? = after.head? ∧
      (ending = ['\r', '\n'] ∨ ending = ['\n'] ∧ rest ≠ [] ∧ rest.getLast? ≠ some '\r' ∨
        ending = [] ∧ below = []) := by
  obtain ⟨run, more, rfl, inRun, stops, -⟩ := exists_run (· != '\n') after
  have noNewline : '\n' ∉ run := by
    intro newline
    simpa using List.all_eq_true.mp inRun '\n' newline
  -- The newline cannot come first, nor a return right before it: the place would be before a blank.
  match run, more, stops, solid with
  | run, [], _, _ => exact ⟨run, [], [], rfl, noNewline, by simp, .inr (.inr ⟨rfl, rfl⟩)⟩
  | [], c :: below, stops, solid =>
      obtain rfl : c = '\n' := by simpa using stops
      cases stops_cons.mp solid
  | d :: run, c :: below, stops, solid =>
      obtain rfl : c = '\n' := by simpa using stops
      by_cases isReturn : (d :: run).getLast? = some '\r'
      · obtain ⟨rest, isRun⟩ := List.getLast?_eq_some_iff.mp isReturn
        rw [isRun] at solid noNewline ⊢
        match rest with
        | [] => cases stops_cons.mp solid
        | e :: rest =>
            refine ⟨e :: rest, ['\r', '\n'], below, by simp, ?_, rfl, .inl rfl⟩
            exact fun newline => noNewline (List.mem_append_left _ newline)
      · exact ⟨d :: run, ['\n'], below, rfl, noNewline, rfl, .inr (.inl ⟨rfl, by simp, isReturn⟩)⟩

/-- The line around a place. What stands behind the place on its line begins as all that stands
behind it, because the place is not before a blank. -/
theorem exists_line (before : List Char) {after : List Char} (solid : Stops isSpacing after) :
    ∃ above start rest, before = above ++ start ∧
      IsLine (before ++ after) above (start ++ rest) ∧ rest.head? = after.head? := by
  obtain ⟨above, start, rfl, starts, inStart⟩ := exists_lineStart before
  obtain ⟨rest, ending, below, rfl, inRest, sameHead, ends⟩ := exists_lineEnd solid
  refine ⟨above, start, rest, rfl, ⟨starts, by simp [inStart, inRest], ending, below, ?_, ?_⟩,
    sameHead⟩
  · simp
  · refine ends.imp_right (Or.imp_left (And.imp_right fun found isReturn => found.2 ?_))
    rwa [List.getLast?_append, List.getLast?_eq_some_getLast found.1, Option.some_or,
      ← List.getLast?_eq_some_getLast found.1] at isReturn

end Text

theorem Position.endOf_line {above start : List Char} (starts : Text.StartsLine above)
    (noNewline : '\n' ∉ start) :
    endOf (above ++ start) = ⟨1 + above.count '\n', 1 + start.length⟩ := by
  have inStart : start.reverse.all (· != '\n') = true := by
    simp only [List.all_reverse, List.all_eq_true, bne_iff_ne]
    intro c isChar newline
    exact noNewline (newline ▸ isChar)
  have stops : Stops (· != '\n') above.reverse := by
    intro c isHead
    rw [List.head?_reverse] at isHead
    rcases starts with rfl | isLast
    · cases isHead
    · rw [isLast] at isHead
      cases isHead
      rfl
  rw [endOf, List.reverse_append, takeWhile_run inStart stops, List.count_append,
    List.count_eq_zero_of_not_mem noNewline, List.length_reverse]
  rfl

end StructuredShell
