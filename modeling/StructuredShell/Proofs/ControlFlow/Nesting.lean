import StructuredShell.Shell.Layout

/-!
# Nested lines

Which lines form a nest of conditionals and groups, said of the lines alone: every `if` has its
`fi`, every opening brace its closing one, `elif` and `else` stand between them, and no body is
empty. Lines form at most one nest, and the lines of commands with full bodies form the nest of
those commands.
-/

set_option autoImplicit false

namespace StructuredShell.Shell

/-! ## The grammar of lines -/

mutual

inductive Nested : List Line → List Command → Prop where
  | nil : Nested [] []
  | simple {command : Simple} {lines : List Line} {commands : List Command} :
      Nested lines commands → Nested (.simple command :: lines) (.simple command :: commands)
  | group {inner lines : List Line} {body commands : List Command} :
      Nested inner body → inner ≠ [] → Nested lines commands →
      Nested (.openGroup :: (inner ++ .closeGroup :: lines)) (.group body :: commands)
  | conditional {test : Test} {inner others lines : List Line} {body commands : List Command}
      {alternative : Branch} :
      Nested inner body → inner ≠ [] → NestedEnd others alternative → Nested lines commands →
      Nested (.ifThen test :: (inner ++ (others ++ lines)))
        (.conditional test body alternative :: commands)

/-- The lines after the first body of a conditional, up to and with its end. -/
inductive NestedEnd : List Line → Branch → Prop where
  | absent : NestedEnd [.endIf] .absent
  | otherwise {inner : List Line} {body : List Command} :
      Nested inner body → inner ≠ [] →
      NestedEnd (.otherwise :: (inner ++ [.endIf])) (.otherwise body)
  | elseIf {test : Test} {inner others : List Line} {body : List Command}
      {alternative : Branch} :
      Nested inner body → inner ≠ [] → NestedEnd others alternative →
      NestedEnd (.elifThen test :: (inner ++ others)) (.elseIf test body alternative)

end

/-! ## Lines form one nest

The reader goes through the lines from the last one to the first. It keeps the commands found so far
at its depth and, for every group and conditional around them, what stands after it. -/

/-- What the end of an enclosing group or conditional leaves to be read before it. -/
inductive Enclosing where
  | group
  | branch (alternative : Branch)

def Line.read : Line → List Command × List (Enclosing × List Command) →
    Option (List Command × List (Enclosing × List Command))
  | .simple command, (commands, outer) => some (.simple command :: commands, outer)
  | .closeGroup, (commands, outer) => some ([], (.group, commands) :: outer)
  | .openGroup, (body, (.group, commands) :: outer) => some (.group body :: commands, outer)
  | .endIf, (commands, outer) => some ([], (.branch .absent, commands) :: outer)
  | .otherwise, (body, (.branch .absent, commands) :: outer) =>
    some ([], (.branch (.otherwise body), commands) :: outer)
  | .elifThen test, (body, (.branch alternative, commands) :: outer) =>
    some ([], (.branch (.elseIf test body alternative), commands) :: outer)
  | .ifThen test, (body, (.branch alternative, commands) :: outer) =>
    some (.conditional test body alternative :: commands, outer)
  | _, _ => none

def Line.readAll : List Line → Option (List Command × List (Enclosing × List Command))
  | [] => some ([], [])
  | line :: rest => (Line.readAll rest).bind line.read

theorem Line.readAll_cons (line : Line) {rest : List Line}
    {found : List Command × List (Enclosing × List Command)}
    (read : Line.readAll rest = some found) :
    Line.readAll (line :: rest) = line.read found := by
  rw [Line.readAll, read, Option.bind_some]

mutual

theorem Nested.reads {lines rest : List Line} {commands later : List Command}
    {outer : List (Enclosing × List Command)} (nested : Nested lines commands)
    (read : Line.readAll rest = some (later, outer)) :
    Line.readAll (lines ++ rest) = some (commands ++ later, outer) := by
  match nested with
  | .nil => exact read
  | .simple nested => exact Line.readAll_cons _ (nested.reads read)
  | .group inner _ nested =>
      have readClose := Line.readAll_cons .closeGroup (nested.reads read)
      have readInner := inner.reads readClose
      rw [List.append_nil] at readInner
      rw [List.cons_append, List.append_assoc, List.cons_append]
      exact Line.readAll_cons _ readInner
  | .conditional inner _ others nested =>
      have readInner := inner.reads (others.reads (nested.reads read))
      rw [List.append_nil] at readInner
      rw [List.cons_append, List.append_assoc, List.append_assoc]
      exact Line.readAll_cons _ readInner

theorem NestedEnd.reads {lines rest : List Line} {alternative : Branch} {later : List Command}
    {outer : List (Enclosing × List Command)} (nested : NestedEnd lines alternative)
    (read : Line.readAll rest = some (later, outer)) :
    Line.readAll (lines ++ rest) = some ([], (.branch alternative, later) :: outer) := by
  match nested with
  | .absent => exact Line.readAll_cons _ read
  | .otherwise inner _ =>
      have readInner := inner.reads (Line.readAll_cons .endIf read)
      rw [List.append_nil] at readInner
      rw [List.cons_append, List.append_assoc]
      exact Line.readAll_cons _ readInner
  | .elseIf inner _ others =>
      have readInner := inner.reads (others.reads read)
      rw [List.append_nil] at readInner
      rw [List.cons_append, List.append_assoc]
      exact Line.readAll_cons _ readInner

end

/-- Lines form at most one nest. -/
theorem Nested.unique {lines : List Line} {first second : List Command}
    (isFirst : Nested lines first) (isSecond : Nested lines second) : first = second := by
  have readFirst : Line.readAll (lines ++ []) = some (first ++ [], []) := isFirst.reads rfl
  have readSecond : Line.readAll (lines ++ []) = some (second ++ [], []) := isSecond.reads rfl
  rw [readFirst] at readSecond
  simpa using readSecond

/-! ## The lines of commands -/

mutual

/-- Whether no body in a command is empty. -/
def Command.Full : Command → Prop
  | .simple _ => True
  | .group body => body ≠ [] ∧ Command.AllFull body
  | .conditional _ body alternative => body ≠ [] ∧ Command.AllFull body ∧ alternative.Full

def Branch.Full : Branch → Prop
  | .absent => True
  | .otherwise body => body ≠ [] ∧ Command.AllFull body
  | .elseIf _ body alternative => body ≠ [] ∧ Command.AllFull body ∧ alternative.Full

def Command.AllFull : List Command → Prop
  | [] => True
  | command :: rest => command.Full ∧ Command.AllFull rest

end

theorem Command.AllFull.append {first second : List Command} (isFirst : Command.AllFull first)
    (isSecond : Command.AllFull second) : Command.AllFull (first ++ second) := by
  induction first with
  | nil => exact isSecond
  | cons command rest ih => exact ⟨isFirst.1, ih isFirst.2⟩

theorem Command.allFull_simple (commands : List Simple) :
    Command.AllFull (commands.map Command.simple) := by
  induction commands with
  | nil => trivial
  | cons command rest ih => exact ⟨trivial, ih⟩

theorem bodyOf_ne_nil (commands : List Command) : bodyOf commands ≠ [] := by
  unfold bodyOf
  split
  · simp
  · next nonempty => simpa using nonempty

theorem bodyOf_full {commands : List Command} (full : Command.AllFull commands) :
    Command.AllFull (bodyOf commands) := by
  unfold bodyOf
  split
  · exact ⟨trivial, trivial⟩
  · exact full

theorem Nested.ne_nil {lines : List Line} {commands : List Command} (nested : Nested lines commands)
    (nonempty : commands ≠ []) : lines ≠ [] := by
  rintro rfl
  cases nested
  exact nonempty rfl

/-- The lines of commands, without the depths at which they are placed. -/
def Command.plainLines (depth : Nat) (commands : List Command) : List Line :=
  (Command.linesOf depth commands).map PlacedLine.line

mutual

theorem Command.nested_cons (depth : Nat) (command : Command) (full : command.Full)
    {lines : List Line} {commands : List Command} (nested : Nested lines commands) :
    Nested ((command.lines depth).map PlacedLine.line ++ lines) (command :: commands) := by
  match command, full with
  | .simple _, _ => exact .simple nested
  | .group body, ⟨nonempty, full⟩ =>
      have nestedBody := Command.nested_plainLines (depth + 1) body full
      have nestedGroup := Nested.group nestedBody (nestedBody.ne_nil nonempty) nested
      simpa [Command.lines, Command.plainLines] using nestedGroup
  | .conditional test body alternative, ⟨nonempty, full, fullEnd⟩ =>
      have nestedBody := Command.nested_plainLines (depth + 1) body full
      have nestedEnd := Branch.nested depth alternative fullEnd
      have nestedConditional : Nested (.ifThen test :: _) _ :=
        .conditional nestedBody (nestedBody.ne_nil nonempty) nestedEnd nested
      simpa [Command.lines, Command.plainLines] using nestedConditional

theorem Branch.nested (depth : Nat) (alternative : Branch) (full : alternative.Full) :
    NestedEnd ((alternative.lines depth).map PlacedLine.line) alternative := by
  match alternative, full with
  | .absent, _ => exact .absent
  | .otherwise body, ⟨nonempty, full⟩ =>
      have nestedBody := Command.nested_plainLines (depth + 1) body full
      have nestedEnd := NestedEnd.otherwise nestedBody (nestedBody.ne_nil nonempty)
      simpa [Branch.lines, Command.plainLines] using nestedEnd
  | .elseIf test body alternative, ⟨nonempty, full, fullEnd⟩ =>
      have nestedBody := Command.nested_plainLines (depth + 1) body full
      have nestedEnd : NestedEnd (.elifThen test :: _) _ :=
        .elseIf nestedBody (nestedBody.ne_nil nonempty) (Branch.nested depth alternative fullEnd)
      simpa [Branch.lines, Command.plainLines] using nestedEnd

theorem Command.nested_plainLines (depth : Nat) (commands : List Command)
    (full : Command.AllFull commands) : Nested (Command.plainLines depth commands) commands := by
  match commands, full with
  | [], _ => exact .nil
  | command :: rest, ⟨fullFirst, fullRest⟩ =>
      have nestedRest := Command.nested_plainLines depth rest fullRest
      have nestedAll := Command.nested_cons depth command fullFirst nestedRest
      simpa [Command.linesOf, Command.plainLines] using nestedAll

end

/-- The lines of commands with full bodies form the nest of those commands and no other. -/
theorem Command.nested_plainLines_iff (depth : Nat) {commands : List Command}
    (full : Command.AllFull commands) (nest : List Command) :
    Nested (Command.plainLines depth commands) nest ↔ nest = commands := by
  have nested := Command.nested_plainLines depth commands full
  constructor
  · intro other
    exact other.unique nested
  · rintro rfl
    exact nested

end StructuredShell.Shell
