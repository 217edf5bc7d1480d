import StructuredShell.Compile
import StructuredShell.Proofs.Literals.Lowering

/-!
# Literal texts are inert

No literal text of a program can become shell code, unless it is put into raw text as it is. The
script of a program is a template that depends on the shape of the program alone, and each literal
text fills one hole of it, between quotes.
-/

set_option autoImplicit false

namespace StructuredShell.Lowering

open Shell
open scoped List

/-! ## Emitted commands -/

/-- Commands that are one tree for all contents, with the same number of temporaries in use after
them. -/
inductive Emitted.Uniform : List Nat → (Filling → Emitted) → Prop where
  | of {holes inner : List Nat} {emitted : Filling → Emitted}
      {commands : Filling → List Command} (used : Nat)
      (isEmitted : ∀ contents, emitted contents = ⟨commands contents, used⟩)
      (uniform : Command.AllUniform inner commands) (same : inner.Perm holes) :
      Uniform holes emitted

/-- Code that is one tree for all contents, with the same number of temporaries in use after it. -/
inductive CountedUniform {α : Type} (uniform : List Nat → (Filling → α) → Prop) :
    List Nat → (Filling → α × Nat) → Prop where
  | of {holes inner : List Nat} {counted : Filling → α × Nat} {code : Filling → α} (used : Nat)
      (isCounted : ∀ contents, counted contents = (code contents, used))
      (isUniform : uniform inner code) (same : inner.Perm holes) :
      CountedUniform uniform holes counted

theorem CountedUniform.parts {α : Type} {uniform : List Nat → (Filling → α) → Prop}
    {holes : List Nat} {counted : Filling → α × Nat}
    (isUniform : CountedUniform uniform holes counted) :
    (∃ inner, inner.Perm holes ∧ uniform inner fun contents => (counted contents).1) ∧
      ∃ used, ∀ contents, (counted contents).2 = used := by
  obtain ⟨used, isCounted, isUniform, same⟩ := isUniform
  refine ⟨⟨_, same, ?_⟩, used, fun contents => by rw [isCounted]⟩
  simpa only [isCounted] using isUniform

theorem Lowered.Uniform.emit {α : Type} {uniform : List Nat → (Filling → α) → Prop}
    {holes : List Nat} {lowered : Filling → Lowered α}
    (isUniform : Lowered.Uniform uniform holes lowered) (finishing : α → List Simple)
    (finishes : ∀ {holes : List Nat} {value : Filling → α}, uniform holes value →
      ListUniform Simple.Uniform holes fun contents => finishing (value contents)) :
    Emitted.Uniform holes fun contents => (lowered contents).emit finishing := by
  obtain ⟨used, isLowered, setupUniform, valueUniform, same⟩ := isUniform
  refine .of used ?_ (Command.allUniform_simple (setupUniform.append (finishes valueUniform))) same
  intro contents
  rw [isLowered]
  rfl

namespace Emitted.Uniform

variable {holes others : List Nat} {emitted : Filling → Emitted}

theorem body (uniform : Emitted.Uniform holes emitted) :
    Emitted.Uniform holes fun contents =>
      ⟨bodyOf (emitted contents).commands, (emitted contents).used⟩ := by
  obtain ⟨used, isEmitted, uniform, same⟩ := uniform
  refine .of used ?_ uniform.bodyOf same
  intro contents
  rw [isEmitted]

theorem grouped_if (uniform : Emitted.Uniform holes emitted) (isGroup : Bool) :
    Emitted.Uniform holes fun contents =>
      ⟨if isGroup then [.group (bodyOf (emitted contents).commands)]
        else (emitted contents).commands, (emitted contents).used⟩ := by
  cases isGroup with
  | false => exact uniform
  | true =>
      obtain ⟨used, isEmitted, uniform, same⟩ := uniform
      refine .of used ?_ (.singleton (.group uniform.bodyOf)) same
      intro contents
      rw [isEmitted]
      rfl

theorem both {second : Filling → Nat → Emitted} (uniform : Emitted.Uniform holes emitted)
    (secondUniform : ∀ used, Emitted.Uniform others fun contents => second contents used) :
    Emitted.Uniform (holes ++ others) fun contents =>
      ⟨(emitted contents).commands ++ (second contents (emitted contents).used).commands,
        (second contents (emitted contents).used).used⟩ := by
  obtain ⟨used, isEmitted, uniform, same⟩ := uniform
  obtain ⟨used', isSecond, uniform', same'⟩ := secondUniform used
  refine .of used' ?_ (uniform.append uniform') (same.append same')
  intro contents
  rw [isEmitted]
  dsimp only at isSecond ⊢
  rw [isSecond]

theorem otherwise (uniform : Emitted.Uniform holes emitted) :
    CountedUniform Branch.Uniform holes fun contents =>
      (.otherwise (emitted contents).commands, (emitted contents).used) := by
  obtain ⟨used, isEmitted, uniform, same⟩ := uniform
  refine .of used ?_ (.otherwise uniform) same
  intro contents
  rw [isEmitted]

end Emitted.Uniform

/-! ## Statements without a body -/

/-- A call with its arguments, and commands after it that are the same for all contents. -/
theorem call_uniform (names : String → String) (isLocal : Bool) (name : String)
    (arguments : List Expr) (apart : Expr.noneTextSpliced arguments = true) (first used : Nat)
    (more : List Simple) :
    Emitted.Uniform (numbers first (Expr.literalsOf arguments)) fun contents =>
      (values names isLocal (Expr.refillAll contents first arguments) used).emit
        fun arguments => .call name arguments :: more := by
  have moreUniform : ListUniform Simple.Uniform [] fun _ => more := by
    induction more with
    | nil => exact .nil
    | cons command more ih => exact .cons (.fixed command) ih
  apply (values_uniform names isLocal arguments apart first used).emit
  intro holes values uniform
  have commands := ListUniform.cons (.call name uniform) moreUniform
  rwa [List.append_nil] at commands

theorem assignment_uniform (names : String → String) (isLocal : Bool) (binding : Assignment)
    (apart : binding.value.noTextSpliced = true) (first used : Nat) :
    Emitted.Uniform (numbers first binding.value.literals) fun contents =>
      assignment names isLocal (binding.refill contents first) used := by
  obtain ⟨declaration, target, source⟩ := binding
  have assigns := (value_uniform names isLocal false source apart first used).emit
    (fun lowered => [.assign (declaration && isLocal) (names target) lowered])
    (fun value => .singleton (.assign _ _ value))
  cases source with
  | call name arguments =>
      exact call_uniform names isLocal (names name) arguments apart first used
        [.assign (declaration && isLocal) (names target) resultValue]
  | _ => exact assigns

theorem returnValue_uniform (names : String → String) (source : Expr)
    (apart : source.noTextSpliced = true) (first used : Nat) :
    Emitted.Uniform (numbers first source.literals) fun contents =>
      returnValue names (source.refill contents first) used := by
  have leaves : ListUniform Simple.Uniform [] fun _ => [.leave] := .singleton (.fixed .leave)
  have handsBack := (value_uniform names true false source apart first used).emit
    (fun lowered => [.handBack lowered, .leave])
    (fun value => by simpa using ListUniform.cons (.handBack value) leaves)
  cases source with
  | call name arguments =>
      exact call_uniform names true (names name) arguments apart first used [.leave]
  | _ => exact handsBack

/-- Raw text is a command for all contents or for none: what is left of it after trimming can be
empty only when nothing is spliced into it. -/
theorem verbatim_uniform {holes : List Nat} {code : Filling → String}
    (fixedEnd : FixedEnd holes code) :
    ListUniform Simple.Uniform holes fun contents =>
      if (code contents).isEmpty then [] else [.verbatim (code contents)] := by
  match fixedEnd with
  | .fixed text =>
      cases isEmpty : text.isEmpty with
      | true =>
          simp only [isEmpty, if_true]
          exact .nil
      | false =>
          simp only [isEmpty, Bool.false_eq_true, if_false]
          exact .singleton (.verbatim (.fixed text))
  | @FixedEnd.followed _ body fits ends text =>
      have nonempty : ∀ contents, (body contents ++ text).isEmpty = false := by
        intro contents
        simp [(ends contents).ne_empty]
      simp only [nonempty, Bool.false_eq_true, if_false]
      exact .singleton (.verbatim (fits.followedBy text))

theorem expression_uniform (names : String → String) (source : Expr)
    (apart : source.noTextSpliced = true) (first used : Nat) :
    Emitted.Uniform (numbers first source.literals) fun contents =>
      expression names (source.refill contents first) used := by
  have evaluates := (value_uniform names true false source apart first used).emit
    (fun lowered => [.evaluate lowered]) (fun value => .singleton (.evaluate value))
  cases source with
  | call name arguments =>
      exact call_uniform names true (names name) arguments apart first used []
  | raw fragments =>
      have code := rawCode_fixedEnd names fragments apart first
      exact (Lowered.Uniform.ready code used).emit
        (fun code => if code.isEmpty then [] else [.verbatim code]) verbatim_uniform
  | _ => exact evaluates

/-! ## Statements with bodies -/

section

variable {headHoles bodyHoles otherHoles : List Nat} {head : Filling → Lowered Test}
  {inner : Filling → Nat → Emitted} {other : Filling → Nat → Branch × Nat}

theorem conditional_uniform (headUniform : Lowered.Uniform Test.Uniform headHoles head)
    (innerUniform : ∀ used, Emitted.Uniform bodyHoles fun contents => inner contents used)
    (otherUniform : ∀ used, CountedUniform Branch.Uniform otherHoles
      fun contents => other contents used) :
    Emitted.Uniform (headHoles ++ bodyHoles ++ otherHoles) fun contents =>
      let lowered := head contents
      let emitted := inner contents lowered.used
      let branch := other contents emitted.used
      ⟨lowered.setup.map Command.simple ++
        [.conditional lowered.value (bodyOf emitted.commands) branch.1], branch.2⟩ := by
  obtain ⟨used, isLowered, setupUniform, valueUniform, same⟩ := headUniform
  obtain ⟨used', isEmitted, bodyUniform, same'⟩ := innerUniform used
  obtain ⟨used'', isBranch, branchUniform, same''⟩ := otherUniform used'
  refine .of used'' ?_ ((Command.allUniform_simple setupUniform).append
    (.singleton (.conditional valueUniform bodyUniform.bodyOf branchUniform))) ?_
  · intro contents
    dsimp only at isEmitted isBranch ⊢
    rw [isLowered, isEmitted, isBranch]
  · rw [← List.append_assoc, List.append_assoc headHoles]
    exact same.append (same'.append same'')

/-- A test with no commands ahead of it has all holes in its value. -/
theorem elseIf_uniform (headUniform : Lowered.Uniform Test.Uniform headHoles head)
    (quiet : ∀ contents, (head contents).setup = [])
    (innerUniform : ∀ used, Emitted.Uniform bodyHoles fun contents => inner contents used)
    (otherUniform : ∀ used, CountedUniform Branch.Uniform otherHoles
      fun contents => other contents used) :
    CountedUniform Branch.Uniform (headHoles ++ bodyHoles ++ otherHoles) fun contents =>
      let lowered := head contents
      let emitted := inner contents lowered.used
      let branch := other contents emitted.used
      (.elseIf lowered.value (bodyOf emitted.commands) branch.1, branch.2) := by
  obtain ⟨used, isLowered, setupUniform, valueUniform, same⟩ := headUniform
  obtain ⟨used', isEmitted, bodyUniform, same'⟩ := innerUniform used
  obtain ⟨used'', isBranch, branchUniform, same''⟩ := otherUniform used'
  have noHoles := setupUniform.holes_eq_nil fun contents => by
    rw [← quiet contents, isLowered]
  subst noHoles
  refine .of used'' ?_ (.elseIf valueUniform bodyUniform.bodyOf branchUniform) ?_
  · intro contents
    dsimp only at isEmitted isBranch ⊢
    rw [isLowered, isEmitted, isBranch]
  · rw [List.append_assoc headHoles]
    exact same.append (same'.append same'')

end

theorem isBlock_refill (contents : Filling) (first : Nat) (statement : Statement) :
    isBlock (statement.refill contents first) = isBlock statement := by
  cases statement <;> rfl

mutual

theorem contents_uniform (names : String → String) (statement : Statement)
    (apart : Expr.noneTextSpliced statement.values = true) (first used : Nat) :
    Emitted.Uniform (numbers first statement.literals) fun contents =>
      Lowering.contents names (statement.refill contents first) used := by
  match statement with
  | .assignment binding =>
      simp only [Statement.values, Expr.noneTextSpliced, Bool.and_true] at apart
      rw [Statement.literals, Statement.values, Expr.literalsOf_singleton]
      exact assignment_uniform names true binding apart first used
  | .returnValue value =>
      simp only [Statement.values, Expr.noneTextSpliced, Bool.and_true] at apart
      rw [Statement.literals, Statement.values, Expr.literalsOf_singleton]
      exact returnValue_uniform names value apart first used
  | .expression value =>
      simp only [Statement.values, Expr.noneTextSpliced, Bool.and_true] at apart
      rw [Statement.literals, Statement.values, Expr.literalsOf_singleton]
      exact expression_uniform names value apart first used
  | .block statements => exact sequence_uniform names statements apart first used
  | .conditional condition body alternative =>
      simp only [Statement.values, Expr.noneTextSpliced_append, Bool.and_eq_true] at apart
      rw [Statement.literals_conditional, numbers_append, numbers_append, List.length_append,
        ← Nat.add_assoc]
      exact conditional_uniform (test_uniform names true false condition apart.1.1 first used)
        (contents_uniform names body apart.1.2 _) (branch_uniform names alternative apart.2 _)

theorem branch_uniform (names : String → String) (alternative : Alternative)
    (apart : Expr.noneTextSpliced alternative.values = true) (first used : Nat) :
    CountedUniform Branch.Uniform (numbers first alternative.literals) fun contents =>
      branch names (alternative.refill contents first) used := by
  match alternative with
  | .absent => exact .of used (fun _ => rfl) .absent (.refl _)
  | .otherwise body => exact (contents_uniform names body apart first used).body.otherwise
  | .elseIf condition body alternative =>
      simp only [Alternative.values, Expr.noneTextSpliced_append, Bool.and_eq_true] at apart
      have head := test_uniform names true false condition apart.1.1 first used
      have inner := contents_uniform names body apart.1.2 (first + condition.literals.length)
      have other := branch_uniform names alternative apart.2
        (first + condition.literals.length + body.literals.length)
      rw [Alternative.literals_elseIf, numbers_append, numbers_append, List.length_append,
        ← Nat.add_assoc]
      simp only [Alternative.refill, branch, Condition.hoists_refill]
      cases hoists : condition.hoists with
      | true => exact (conditional_uniform head inner other).otherwise
      | false =>
          refine elseIf_uniform head ?_ inner other
          intro contents
          rw [test_setup_eq_nil_iff, Condition.hoists_refill, hoists]

theorem sequence_uniform (names : String → String) (statements : List Statement)
    (apart : Expr.noneTextSpliced (Statement.valuesOf statements) = true) (first used : Nat) :
    Emitted.Uniform (numbers first (Statement.literalsOf statements)) fun contents =>
      sequence names (Statement.refillAll contents first statements) used := by
  match statements with
  | [] => exact .of used (fun _ => rfl) .nil (.refl _)
  | statement :: rest =>
      simp only [Statement.valuesOf, Expr.noneTextSpliced_append, Bool.and_eq_true] at apart
      have inner := contents_uniform names statement apart.1 first used
      rw [Statement.literalsOf_cons, numbers_append]
      simp only [Statement.refillAll, sequence, isBlock_refill]
      exact (inner.grouped_if (isBlock statement)).both (sequence_uniform names rest apart.2 _)

end

/-! ## Programs -/

theorem globals_uniform (names : String → String) (bindings : List Assignment)
    (apart : Expr.noneTextSpliced (bindings.map Assignment.value) = true) (first used : Nat) :
    Emitted.Uniform (numbers first (Assignment.literalsOf bindings)) fun contents =>
      globals names (Assignment.refillAll contents first bindings) used := by
  induction bindings generalizing first used with
  | nil => exact .of used (fun _ => rfl) .nil (.refl _)
  | cons binding rest ih =>
      simp only [List.map_cons, Expr.noneTextSpliced, Bool.and_eq_true] at apart
      rw [Assignment.literalsOf, List.map_cons, Expr.literalsOf, numbers_append]
      exact (assignment_uniform names false binding apart.1 first used).both (ih apart.2 _)

theorem parameters_uniform (names : String → String) (index : Nat) (declared : List String) :
    Command.AllUniform [] fun _ => parameters names index declared := by
  induction declared generalizing index with
  | nil => exact .nil
  | cons parameter rest ih => exact .cons (.simple (.fixed _)) (ih (index + 1))

theorem function_uniform (names : String → String) (source : FunctionDecl)
    (apart : Expr.noneTextSpliced source.values = true) (first used : Nat) :
    CountedUniform Function.Uniform (numbers first source.literals) fun contents =>
      function names (source.refill contents first) used := by
  obtain ⟨used', isEmitted, uniform, same⟩ := sequence_uniform names source.body apart first used
  refine .of used' ?_ (.define (names source.name)
    ((parameters_uniform names 1 source.parameters).append uniform).bodyOf) same
  intro contents
  dsimp only at isEmitted ⊢
  rw [function, FunctionDecl.refill, isEmitted]

/-- The number of temporaries in use after some functions. -/
def usedAfter (names : String → String) : List FunctionDecl → Nat → Nat
  | [], used => used
  | source :: rest, used => usedAfter names rest (function names source used).2

/-- The number of temporaries in the script of a program. -/
def temporaries (names : String → String) (program : Program) : Nat :=
  usedAfter names program.functions (globals names program.globals 0).used

theorem functions_uniform (names : String → String) (sources : List FunctionDecl)
    (apart : Expr.noneTextSpliced (sources.flatMap FunctionDecl.values) = true)
    (first used : Nat) :
    CountedUniform (ListUniform Function.Uniform) (numbers first (FunctionDecl.literalsOf sources))
      fun contents => (functions names (FunctionDecl.refillAll contents first sources) used,
        usedAfter names (FunctionDecl.refillAll contents first sources) used) := by
  induction sources generalizing first used with
  | nil => exact .of used (fun _ => rfl) .nil (.refl _)
  | cons source rest ih =>
      rw [List.flatMap_cons, Expr.noneTextSpliced_append, Bool.and_eq_true] at apart
      obtain ⟨used', isFunction, uniform, same⟩ := function_uniform names source apart.1 first used
      obtain ⟨used'', areFunctions, uniform', same'⟩ := ih apart.2 _ used'
      rw [FunctionDecl.literalsOf_cons, numbers_append]
      refine .of used'' ?_ (.cons uniform uniform') (same.append same')
      intro contents
      dsimp only [Prod.mk.injEq] at isFunction areFunctions ⊢
      rw [FunctionDecl.refillAll, functions, usedAfter, isFunction]
      simpa using areFunctions contents

/-- The script of a program is one tree for all contents, and it has the same temporaries. -/
theorem script_uniform (names : String → String) (entryPoint : String) (program : Program)
    (apart : program.noTextSpliced = true) :
    CountedUniform Script.Uniform (List.range program.literals.length) fun contents =>
      (script names entryPoint (program.refill contents),
        temporaries names (program.refill contents)) := by
  rw [Program.noTextSpliced, Program.values, Expr.noneTextSpliced_append, Bool.and_eq_true]
    at apart
  obtain ⟨used, isEmitted, uniform, same⟩ := globals_uniform names program.globals apart.1 0 0
  obtain ⟨used', areFunctions, uniform', same'⟩ :=
    functions_uniform names program.functions apart.2
      (Assignment.literalsOf program.globals).length used
  refine .of used' ?_ (.of (names entryPoint) uniform uniform') ?_
  · intro contents
    have counted := areFunctions contents
    simp only [Prod.mk.injEq] at counted
    dsimp only at isEmitted
    simp only [script, temporaries, Program.refill, isEmitted, counted]
  · have split := numbers_append 0 (Assignment.literalsOf program.globals)
      (FunctionDecl.literalsOf program.functions)
    rw [← Program.literals_eq, Nat.zero_add] at split
    rw [List.range_eq_range', show List.range' 0 _ = _ from split]
    exact same.append same'

end StructuredShell.Lowering

namespace StructuredShell

open Shell

/-! ## Compiled programs -/

/-- What decides which commands run ahead of a value and which of them save it. -/
def Expr.hoisting (value : Expr) : Bool × Bool × Bool :=
  (value.hoists, value.containsCall, value.isStable)

/-- Whether a program compiles to one template for all contents of its literal texts. -/
structure Program.Inert (program : Program) (options : Options) (template : Template) : Prop where
  /-- Each literal text has one hole. -/
  holes : template.holes.Perm (List.range program.literals.length)
  script (contents : Filling) : ((program.refill contents).compile options).script =
    template.fill fun index => singleQuote (contents index)
  names (contents : Filling) :
    ((program.refill contents).compile options).names = (program.compile options).names
  temporaries (contents : Filling) :
    Lowering.temporaries (program.compile options).names.shellName (program.refill contents) =
      Lowering.temporaries (program.compile options).names.shellName program
  hoisting (contents : Filling) :
    (program.refill contents).values.map Expr.hoisting = program.values.map Expr.hoisting
  /-- The script is one tree, so whatever is hoisted is hoisted to the same place. -/
  tree : ∃ holes, holes.Perm (List.range program.literals.length) ∧
    Script.Uniform holes fun contents =>
      Lowering.script (program.compile options).names.shellName options.entryPoint
        (program.refill contents)

theorem Program.nameTable_refill (contents : Filling) (program : Program) (entryPoint : String) :
    (program.refill contents).nameTable entryPoint = program.nameTable entryPoint := by
  rw [Program.nameTable, Program.names_refill, Program.nameTable]

/-- Literal texts are inert outside direct splices. The programs of one shape are those that arise
from one of them by other contents. If no splice in it is just literal text, they all compile to one
template, in which each literal text fills one hole, between quotes. The name table, the number of
temporaries and every decision about hoisting are the same for all of them. -/
theorem Program.compile_inert (program : Program) (options : Options)
    (apart : program.noTextSpliced = true) :
    program.refill (fun index => program.literals.getD index "") = program ∧
    (∀ contents, (program.refill contents).literals =
      (List.range program.literals.length).map contents) ∧
    ∃ template, program.Inert options template := by
  have own := program.refill_own (gives_getD program.literals)
  obtain ⟨⟨holes, same, uniform⟩, used, counted⟩ := (Lowering.script_uniform
    (program.compile options).names.shellName options.entryPoint program apart).parts
  obtain ⟨template, sameHoles, isText⟩ := uniform.fits_text options.indent options.shebang
  refine ⟨own, fun contents => program.literals_refill contents, template, sameHoles.trans same,
    ?_, ?_, ?_, ?_, holes, same, uniform⟩
  · intro contents
    rw [← isText, Program.compile, Program.nameTable_refill]
    rfl
  · intro contents
    exact Program.nameTable_refill contents program options.entryPoint
  · intro contents
    have ownCount := counted fun index => program.literals.getD index ""
    rw [own] at ownCount
    exact (counted contents).trans ownCount.symm
  · intro contents
    rw [Program.values_refill]
    apply Expr.map_refillAll
    intro first value
    simp only [Expr.hoisting, Expr.hoists_refill, Expr.containsCall_refill, Expr.isStable_refill]

/-- Literal texts in every place where one can stand. The argument of the inner call runs ahead of
the argument that is written before it. -/
def literalsEverywhere : Program :=
  ⟨[⟨true, "a", .text "$(id)"⟩],
    [⟨"main", [], [
      .expression (.call "f" [.text "later", .call "g" [.text "earlier"]]),
      .conditional (.comparison .equal (.var "a") (.text "it's")) (.block [])
        (.elseIf (.comparison .less (.binary .add (.number 1) (.text "$x")) (.number 2))
          (.block []) .absent),
      .expression (.raw [.shell "echo ", .splice (.binary .add (.var "a") (.text "2")),
        .splice (.call "f" [.text "; "]), .shell " \n"])]⟩]⟩

theorem Program.compile_inert_literalsEverywhere :
    literalsEverywhere.noTextSpliced = true ∧
    literalsEverywhere.literals = ["$(id)", "later", "earlier", "it's", "$x", "2", "; "] ∧
    ∃ template, literalsEverywhere.Inert {} template := by
  have apart : literalsEverywhere.noTextSpliced = true := by decide
  exact ⟨apart, rfl, (Program.compile_inert literalsEverywhere {} apart).2.2⟩

end StructuredShell
