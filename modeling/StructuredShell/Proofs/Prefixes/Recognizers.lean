import StructuredShell.Proofs.Grammar.Statements

/-!
# Readers without their values

What a reader does to its tokens, whatever value it builds: the tokens that it leaves, or its error.
Seen that way every reader is made of a few parts. It takes a token of given kinds, does one thing
after another, chooses by the kind of the token ahead, or stops; and at one place, the parenthesis
at the head of a condition, it tries two ways. Tokens that carry the literals which their kinds ask
for are told apart by their kinds alone.
-/

set_option autoImplicit false

namespace StructuredShell

/-! ## Well-formed tokens -/

/-- Whether a token carries a literal exactly as its kind asks for one. -/
def Token.WellFormed (token : Token) : Prop :=
  match token.literal with
  | some (.number _) => token.kind.takesNumber = true
  | some (.text _) => token.kind.takesText = true
  | none => token.kind.takesNumber = false ∧ token.kind.takesText = false

def AllWellFormed (tokens : List Token) : Prop :=
  ∀ token ∈ tokens, token.WellFormed

theorem AllWellFormed.suffix {tokens rest : List Token} (wellFormed : AllWellFormed tokens)
    (isRest : rest <:+ tokens) : AllWellFormed rest :=
  fun token isToken => wellFormed token (isRest.subset isToken)

theorem Token.WellFormed.number {token : Token} (wellFormed : token.WellFormed)
    (isNumber : token.kind = .number) : ∃ value, token.literal = some (.number value) := by
  unfold Token.WellFormed at wellFormed
  split at wellFormed
  · exact ⟨_, ‹_›⟩
  · simp [isNumber, Kind.takesText] at wellFormed
  · simp [isNumber, Kind.takesNumber] at wellFormed

theorem Token.WellFormed.text {token : Token} (wellFormed : token.WellFormed)
    (takesText : token.kind.takesText = true) : ∃ text, token.literal = some (.text text) := by
  unfold Token.WellFormed at wellFormed
  split at wellFormed
  · cases kind : token.kind <;> simp_all [Kind.takesText, Kind.takesNumber]
  · exact ⟨_, ‹_›⟩
  · simp [takesText] at wellFormed

theorem Token.WellFormed.named {token : Token} {kind : Kind} (wellFormed : token.WellFormed)
    (isKind : token.kind = kind) (takesText : kind.takesText = true) :
    ∃ text, Grammar.Named kind token text := by
  obtain ⟨text, carried⟩ := wellFormed.text (isKind ▸ takesText)
  exact ⟨text, isKind, carried⟩

namespace Parser

/-! ## Recognizers -/

def Reply.outcome {α : Type} {bound : Nat} : Reply α bound → Except SyntaxError (List Token)
  | ok _ rest _ => .ok rest
  | fail error _ => .error error

/-- A reader without its values, given the place where the text ends. -/
def Recognizer := Position → List Token → Except SyntaxError (List Token)

namespace Recognizer

def of {α : Type} {bound : List Token → Nat}
    (reader : Position → (tokens : List Token) → Reply α (bound tokens)) : Recognizer :=
  fun finish tokens => (reader finish tokens).outcome

def stay : Recognizer := fun _ tokens => .ok tokens

def refuse (expected : List Kind) : Recognizer :=
  fun finish tokens => .error (unexpected finish expected tokens)

def oneOf (kinds : List Kind) : Recognizer := fun finish tokens =>
  match tokens with
  | [] => .error (unexpected finish kinds [])
  | token :: rest =>
    if token.kind ∈ kinds then .ok rest else .error (unexpected finish kinds (token :: rest))

def followedBy (first second : Recognizer) : Recognizer := fun finish tokens =>
  match first finish tokens with
  | .ok rest => second finish rest
  | .error error => .error error

/-- Go on by the kind of the token ahead. -/
def onHead (kinds : List Kind) (yes no : Recognizer) : Recognizer := fun finish tokens =>
  if headKind tokens ∈ kinds then yes finish tokens else no finish tokens

/-- Try two ways from one place, and of two errors report the one that lies further on. -/
def either (first second : Recognizer) : Recognizer := fun finish tokens =>
  match first finish tokens with
  | .ok rest => .ok rest
  | .error firstError =>
    match second finish tokens with
    | .ok rest => .ok rest
    | .error secondError => .error (furtherError firstError secondError)

theorem followedBy_assoc (first second third : Recognizer) :
    (first.followedBy second).followedBy third = first.followedBy (second.followedBy third) := by
  funext finish tokens
  simp only [followedBy]
  cases first finish tokens <;> rfl

end Recognizer

open Recognizer

namespace Reply

variable {α β : Type} {bound : Nat}

@[simp] theorem outcome_ok (value : α) (rest : List Token) (shorter : rest.length < bound) :
    (ok value rest shorter : Reply α bound).outcome = .ok rest := rfl

@[simp] theorem outcome_fail (error : SyntaxError) (stopped : List Token) :
    (fail error stopped : Reply α bound).outcome = .error error := rfl

@[simp] theorem outcome_take (value : α) (token : Token) (rest : List Token) :
    (take value token rest).outcome = .ok rest := rfl

@[simp] theorem outcome_keep (value : α) (tokens : List Token) :
    (keep value tokens).outcome = .ok tokens := rfl

@[simp] theorem outcome_widen {large : Nat} (bounded : bound ≤ large) (reply : Reply α bound) :
    (reply.widen bounded).outcome = reply.outcome := by
  cases reply <;> rfl

@[simp] theorem outcome_within {large : Nat} (shorter : bound < large) (reply : Reply α bound) :
    (reply.within shorter).outcome = reply.outcome := outcome_widen _ reply

@[simp] theorem outcome_behind {rest : List Token} (token : Token) (reply : Reply α rest.length) :
    (reply.behind token).outcome = reply.outcome := outcome_widen _ reply

@[simp] theorem outcome_loosen (reply : Reply α bound) : reply.loosen.outcome = reply.outcome :=
  outcome_widen _ reply

@[simp] theorem outcome_map (f : α → β) (reply : Reply α bound) :
    (reply.map f).outcome = reply.outcome := by
  cases reply <;> rfl

theorem outcome_eq_ok_iff {reply : Reply α bound} {rest : List Token} :
    reply.outcome = .ok rest ↔ ∃ value, reply.reads? = some (value, rest) := by
  cases reply <;> simp

theorem outcome_eq_error_iff {reply : Reply α bound} :
    (∃ error, reply.outcome = .error error) ↔ reply.reads? = none := by
  cases reply <;> simp

theorem length_lt_of_outcome {reply : Reply α bound} {rest : List Token}
    (left : reply.outcome = .ok rest) : rest.length < bound := by
  obtain ⟨_, read⟩ := outcome_eq_ok_iff.mp left
  exact length_lt_of_reads? read

end Reply

/-! ## Single tokens -/

section

variable {finish : Position} {kind : Kind} {kinds : List Kind} {tokens rest : List Token}

theorem oneOf_eq_ok_iff :
    oneOf kinds finish tokens = .ok rest ↔
      ∃ token : Token, token.kind ∈ kinds ∧ tokens = token :: rest := by
  unfold oneOf
  split
  · simp
  · split
    · next token _ isKind =>
      constructor
      · intro left
        cases left
        exact ⟨token, isKind, rfl⟩
      · rintro ⟨_, _, same⟩
        cases same
        rfl
    · next token _ otherKind =>
      constructor
      · intro left
        cases left
      · rintro ⟨_, isKind, same⟩
        cases same
        exact absurd isKind otherKind

theorem oneOf_of_head (isKind : headKind tokens ∈ kinds) (noEnd : .finish ∉ kinds) :
    oneOf kinds finish tokens = .ok (tokens.drop 1) := by
  match tokens with
  | [] => exact absurd isKind noEnd
  | token :: rest => exact oneOf_eq_ok_iff.mpr ⟨token, isKind, rfl⟩

theorem oneOf_of_not_head (otherKind : headKind tokens ∉ kinds) :
    oneOf kinds finish tokens = .error (unexpected finish kinds tokens) := by
  match tokens with
  | [] => rfl
  | token :: rest => exact if_neg otherKind

theorem expect_outcome : (expect finish kind tokens).outcome = oneOf [kind] finish tokens := by
  unfold expect oneOf
  split
  · rfl
  · simp only [List.mem_singleton]
    split <;> simp

theorem expect_cons_eq {token : Token} (isKind : token.kind = kind) :
    expect finish kind (token :: rest) = .ok () rest (Nat.lt_succ_self rest.length) := by
  simp [expect, isKind, Reply.take]

theorem expectIdent_outcome (wellFormed : AllWellFormed tokens) :
    (expectIdent finish tokens).outcome = oneOf [.ident] finish tokens := by
  unfold expectIdent oneOf
  split
  · rfl
  · next token rest =>
      simp only [List.mem_singleton]
      split
      · next isIdent =>
          obtain ⟨text, carried⟩ := (wellFormed token (.head _)).text (isIdent ▸ rfl)
          have found := textValue?_eq_some_iff.mpr carried
          split <;> simp_all
      · rfl

theorem onHead_pos {yes no : Recognizer} (isKind : headKind tokens ∈ kinds) :
    onHead kinds yes no finish tokens = yes finish tokens := if_pos isKind

theorem onHead_neg {yes no : Recognizer} (otherKind : headKind tokens ∉ kinds) :
    onHead kinds yes no finish tokens = no finish tokens := if_neg otherKind

theorem oneOf_followedBy {token : Token} {next : Recognizer} (isKind : token.kind ∈ kinds) :
    (oneOf kinds).followedBy next finish (token :: rest) = next finish rest := by
  rw [followedBy, oneOf_eq_ok_iff.mpr ⟨token, isKind, rfl⟩]

theorem oneOf_of_expect {value : Unit} {shorter : rest.length < tokens.length}
    (found : expect finish kind tokens = .ok value rest shorter) :
    oneOf [kind] finish tokens = .ok rest := by
  rw [← expect_outcome, found]
  rfl

theorem onHead_oneOf_of_expect {value : Unit} {shorter : rest.length < tokens.length}
    (found : expect finish kind tokens = .ok value rest shorter) (other : Recognizer) :
    onHead [kind] (oneOf [kind]) other finish tokens = .ok rest := by
  have taken := oneOf_of_expect found
  obtain ⟨token, isKind, rfl⟩ := oneOf_eq_ok_iff.mp taken
  rw [onHead_pos isKind, taken]

/-- A reader that looks for a token first and finds it goes on behind it. -/
theorem onHead_of_expect {value : Unit} {shorter : rest.length < tokens.length}
    (found : expect finish kind tokens = .ok value rest shorter) (next other : Recognizer) :
    onHead [kind] ((oneOf [kind]).followedBy next) other finish tokens = next finish rest := by
  obtain ⟨token, isKind, rfl⟩ := oneOf_eq_ok_iff.mp (oneOf_of_expect found)
  rw [onHead_pos isKind, oneOf_followedBy isKind]

/-- A reader that looks for a token first and does not find it does something else. -/
theorem onHead_of_not_expect {error : SyntaxError} {stopped : List Token}
    (missed : expect finish kind tokens = .fail error stopped) (noEnd : kind ≠ .finish)
    (next other : Recognizer) : onHead [kind] next other finish tokens = other finish tokens := by
  have absent : (expect finish kind tokens).reads? = none := by
    rw [missed]
    rfl
  apply onHead_neg
  simpa using headKind_ne_of_expect absent noEnd

end

/-! ## Loops -/

/-- A loop over items that signs divide takes the same tokens whatever it has joined so far. -/
theorem loop_eq {α : Type} (loop : α → Recognizer) {item : Recognizer} {signs : List Kind}
    (noEnd : .finish ∉ signs)
    (shorter : ∀ {finish tokens rest}, item finish tokens = .ok rest → rest.length < tokens.length)
    (stops : ∀ {joined finish tokens}, headKind tokens ∉ signs →
      loop joined finish tokens = .ok tokens)
    (steps : ∀ {joined finish} {token : Token} {rest}, token.kind ∈ signs →
      ∃ next, loop joined finish (token :: rest) = item.followedBy (loop next) finish rest)
    (start joined : α) (finish : Position) (tokens : List Token) :
    loop joined finish tokens =
      onHead signs ((oneOf signs).followedBy (item.followedBy (loop start))) stay
        finish tokens := by
  by_cases isSign : headKind tokens ∈ signs
  · match tokens with
    | [] => exact absurd isSign noEnd
    | token :: rest =>
        obtain ⟨next, stepped⟩ := steps isSign
        rw [stepped, onHead_pos isSign, oneOf_followedBy isSign, followedBy, followedBy]
        cases read : item finish rest with
        | error error => rfl
        | ok after =>
            have isShorter := shorter read
            have fromNext := loop_eq loop noEnd shorter stops steps start next finish after
            have fromStart := loop_eq loop noEnd shorter stops steps start start finish after
            exact fromNext.trans fromStart.symm
  · rw [stops isSign, onHead_neg isSign, stay]
termination_by tokens.length

end Parser

end StructuredShell
