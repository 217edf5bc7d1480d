import StructuredShell.Proofs.Grammar.Programs
import StructuredShell.Proofs.Prefixes.Statements

/-!
# Errors in programs

The reader of programs as a recognizer, and what it decides.
-/

set_option autoImplicit false

namespace StructuredShell.Parser

open Grammar Recognizer

/-! ## The readers as recognizers -/

section

variable {finish : Position} {tokens : List Token}

theorem parameters_outcome (wellFormed : AllWellFormed tokens) :
    (parameters finish tokens).outcome =
      onHead [.closeParen] (oneOf [.closeParen])
        ((oneOf [.ident]).followedBy (separator (of parameters))) finish tokens := by
  rw [parameters]
  cases found : expect finish .closeParen tokens with
  | ok _ rest shorter =>
      rw [onHead_oneOf_of_expect found]
      rfl
  | fail _ _ =>
      rw [onHead_of_not_expect found (by decide)]
      simp only [followedBy, ← expectIdent_outcome wellFormed, separator_eq]
      cases expectIdent finish tokens with
      | fail error stopped => rfl
      | ok name rest shorter =>
          simp only [Reply.outcome_ok]
          cases expectSeparator finish rest with
          | fail error stopped => rfl
          | ok isComma after shorter' => cases isComma <;> simp [of]

/-- What stands after the name of a function. -/
def functionEnd : Recognizer :=
  (oneOf [.openParen]).followedBy ((of parameters).followedBy (of block))

theorem functionTail_outcome (name : String) :
    (functionTail finish name tokens).outcome = functionEnd finish tokens := by
  simp only [functionEnd, followedBy, of, ← expect_outcome, functionTail]
  cases expect finish .openParen tokens with
  | fail error stopped => rfl
  | ok _ rest shorter =>
      simp only [Reply.outcome_ok]
      cases parameters finish rest <;> simp

theorem function_outcome (wellFormed : AllWellFormed tokens) :
    (function finish tokens).outcome =
      (oneOf [.funcWord]).followedBy ((oneOf [.ident]).followedBy functionEnd) finish tokens := by
  unfold function
  cases found : expect finish .funcWord tokens with
  | fail error stopped =>
      rw [followedBy, ← expect_outcome, found]
      rfl
  | ok _ rest shorter =>
      obtain ⟨word, isWord, rfl⟩ := oneOf_eq_ok_iff.mp (oneOf_of_expect found)
      rw [oneOf_followedBy isWord, followedBy,
        ← expectIdent_outcome (wellFormed.suffix (List.suffix_cons word rest))]
      cases read : expectIdent finish rest <;> simp [read, functionTail_outcome]

theorem of_program :
    of program =
      onHead [.finish] stay
        (onHead [.funcWord] ((of function).followedBy (of program))
          (onHead [.varWord, .ident] ((of assignment).followedBy (of program))
            (refuse itemStart))) := by
  funext finish tokens
  rw [of, program]
  by_cases atEnd : headKind tokens = .finish
  · rw [onHead_pos (by simp [atEnd])]
    simp [atEnd, ItemHead.ofKind, stay]
  rw [onHead_neg (by simpa using atEnd)]
  by_cases isFunction : headKind tokens = .funcWord
  · rw [onHead_pos (by simp [isFunction]), followedBy]
    simp only [isFunction, ItemHead.ofKind, of]
    cases function finish tokens <;> simp
  rw [onHead_neg (by simpa using isFunction)]
  by_cases isAssignment : headKind tokens ∈ [Kind.varWord, .ident]
  · have head : ItemHead.ofKind (headKind tokens) = .assignment := by
      rcases List.mem_pair.mp isAssignment with isVar | isIdent
      · rw [isVar]
        rfl
      · rw [isIdent]
        rfl
    rw [onHead_pos isAssignment, followedBy]
    simp only [head, of]
    cases assignment finish tokens <;> simp
  · have head : ItemHead.ofKind (headKind tokens) = .other := by
      generalize headKind tokens = kind at *
      cases kind <;> simp_all [ItemHead.ofKind]
    rw [onHead_neg isAssignment]
    simp [head, refuse]

end

/-! ## The languages of programs -/

def parameterLists : Language Token := {tokens | ∃ names, Parameters tokens names}

def functions : Language Token := {tokens | ∃ function, Grammar.Function tokens function}

def programs : Language Token := {tokens | ∃ program, Grammar.Program tokens program}

theorem closed_le_parameterLists : ofKinds [.closeParen] ≤ parameterLists := by
  rintro _ ⟨closing, _, isClose, rfl⟩
  exact ⟨_, .none (List.mem_singleton.mp isClose)⟩

theorem names_mul_separators_le :
    ofKinds [.ident] * separators parameterLists ≤ parameterLists := by
  rintro _ ⟨_, ⟨token, wellFormed, isIdent, rfl⟩, _, goesOn, rfl⟩
  obtain ⟨name, named⟩ := wellFormed.named (List.mem_singleton.mp isIdent) rfl
  rcases goesOn with ⟨_, ⟨comma, _, isComma, rfl⟩, others, ⟨names, derived⟩, rfl⟩ |
    ⟨closing, _, isClose, rfl⟩
  · exact ⟨_, .more named (List.mem_singleton.mp isComma) derived⟩
  · exact ⟨_, .last named (List.mem_singleton.mp isClose)⟩

/-- A function after its name. -/
def definitions : Language Token :=
  ofKinds [.openParen] * (parameterLists * (ofKinds [.openBrace] * blocks))

theorem definitions_le : ofKinds [.funcWord] * (ofKinds [.ident] * definitions) ≤ functions := by
  rintro _ ⟨_, ⟨word, _, isWord, rfl⟩, _, ⟨_, ⟨token, wellFormed, isIdent, rfl⟩, _,
    ⟨_, ⟨opening, _, isOpen, rfl⟩, _, ⟨head, ⟨names, derivedNames⟩, _,
      ⟨_, ⟨brace, _, isBrace, rfl⟩, body, ⟨statements, derivedBody⟩, rfl⟩, rfl⟩, rfl⟩, rfl⟩, rfl⟩
  obtain ⟨name, named⟩ := wellFormed.named (List.mem_singleton.mp isIdent) rfl
  exact ⟨_, .define (List.mem_singleton.mp isWord) named (List.mem_singleton.mp isOpen) derivedNames
    (List.mem_singleton.mp isBrace) derivedBody⟩

theorem functions_mul_le : functions * programs ≤ programs := by
  rintro _ ⟨first, ⟨function, derived⟩, rest, ⟨others, derivedOthers⟩, rfl⟩
  exact ⟨_, .function derived derivedOthers⟩

theorem assignments_mul_le : assignments * programs ≤ programs := by
  rintro _ ⟨first, ⟨binding, derived⟩, rest, ⟨others, derivedOthers⟩, rfl⟩
  exact ⟨_, .assignment derived derivedOthers⟩

theorem nil_mem_programs : [] ∈ programs := ⟨_, .nil⟩

/-! ## How programs may begin -/

theorem begins_parameterLists : Begins parameterLists [] :=
  (begins_one .closeParen (by decide)).mono closed_le_parameterLists

theorem begins_body : Begins (ofKinds [.openBrace] * blocks) [] :=
  (begins_one .openBrace (by decide)).mul_left begins_blocks

theorem begins_parameters : Begins (parameterLists * (ofKinds [.openBrace] * blocks)) [] :=
  begins_parameterLists.mul_left begins_body

theorem begins_definitions : Begins definitions [] :=
  (begins_one .openParen (by decide)).mul_left begins_parameters

theorem begins_named : Begins (ofKinds [.ident] * definitions) [] :=
  (begins_one .ident (by decide)).mul_left begins_definitions

/-- Every kind that an error names at the head of an item begins one. -/
theorem itemStart_viable {token : Token} (wellFormed : token.WellFormed)
    (starts : token.kind ∈ itemStart) : Begins programs [token] := by
  have cases_of_start : ∀ kind ∈ itemStart,
      kind ∈ [Kind.funcWord] ∨ kind ∈ [Kind.varWord] ∨ kind ∈ [Kind.ident] := by decide
  have ends : Begins programs [] := .of_mem nil_mem_programs
  rcases cases_of_start _ starts with isFunction | isVar | isIdent
  · have begins := (begins_with wellFormed isFunction begins_named).mono definitions_le
    exact (begins.mul_left ends).mono functions_mul_le
  · have begins := (begins_with wellFormed isVar begins_bindings).mono declare_le
    exact (begins.mul_left ends).mono assignments_mul_le
  · have begins := (begins_with wellFormed isIdent begins_assigned).mono rebind_le
    exact (begins.mul_left ends).mono assignments_mul_le

/-! ## Errors in programs -/

theorem parameters_foretold (finish : Position) (tokens : List Token)
    (wellFormed : AllWellFormed tokens) :
    Foretold parameterLists (of parameters) finish tokens := by
  refine Foretold.congr ?_ wellFormed fun _ _ areWellFormed _ => parameters_outcome areWellFormed
  refine .onHead wellFormed (fun _ => ?_) fun _ => ?_
  · exact (Foretold.oneOf wellFormed (by decide)).mono closed_le_parameterLists
  · refine (Foretold.oneOfThen wellFormed (by decide) (begins_separators parameterLists)
      ?_).mono names_mul_separators_le
    intro rest isRest isShorter
    have wellFormed := wellFormed.suffix isRest
    refine separator_foretold wellFormed begins_parameterLists ?_
    intro others isOthers isShorterStill
    exact parameters_foretold finish others (wellFormed.suffix isOthers)
termination_by tokens.length

theorem functionEnd_foretold (finish : Position) (tokens : List Token)
    (ready : Ready finish tokens) : Foretold definitions functionEnd finish tokens := by
  refine .oneOfThen ready.wellFormed (by decide) begins_parameters ?_
  intro afterOpen isAfterOpen _
  have ready := ready.suffix isAfterOpen
  refine (parameters_foretold finish afterOpen ready.wellFormed).followedBy ready.wellFormed
    begins_body ?_
  intro afterNames isAfterNames _
  have ready := ready.suffix isAfterNames
  rw [of_block]
  refine .oneOfThen ready.wellFormed (by decide) begins_blocks ?_
  intro body isBody _
  exact blockTail_foretold finish body (ready.suffix isBody)

theorem function_foretold (finish : Position) (tokens : List Token)
    (ready : Ready finish tokens) : Foretold functions (of function) finish tokens := by
  have wellFormed := ready.wellFormed
  refine Foretold.congr ?_ wellFormed fun _ _ areWellFormed _ => function_outcome areWellFormed
  refine (Foretold.oneOfThen wellFormed (by decide) begins_named ?_).mono definitions_le
  intro afterWord isAfterWord _
  have ready := ready.suffix isAfterWord
  refine .oneOfThen ready.wellFormed (by decide) begins_definitions ?_
  intro afterName isAfterName _
  exact functionEnd_foretold finish afterName (ready.suffix isAfterName)

theorem program_foretold (finish : Position) (tokens : List Token)
    (ready : Ready finish tokens) : Foretold programs (of program) finish tokens := by
  rw [of_program]
  have wellFormed := ready.wellFormed
  have ends : Begins programs [] := .of_mem nil_mem_programs
  refine .onHead wellFormed (fun _ => ?finish) fun _ => .onHead wellFormed (fun _ => ?function)
    fun _ => .onHead wellFormed (fun _ => ?assignment) fun _ => ?other
  case finish => exact .stay nil_mem_programs
  case function =>
    refine ((function_foretold finish tokens ready).followedBy wellFormed ends ?_).mono
      functions_mul_le
    intro rest isRest read
    have shorter := Reply.length_lt_of_outcome read
    exact program_foretold finish rest (ready.suffix isRest)
  case assignment =>
    refine ((assignment_foretold finish tokens wellFormed).followedBy wellFormed ends ?_).mono
      assignments_mul_le
    intro rest isRest read
    have shorter := Reply.length_lt_of_outcome read
    exact program_foretold finish rest (ready.suffix isRest)
  case other => exact .refuse (by decide) fun token => itemStart_viable
termination_by tokens.length

end StructuredShell.Parser
