import Mathlib
import StructuredShell.Json
import StructuredShell.Proofs.Lexing.Spelling

/-!
# JSON texts have one reading

A value that was laid out as JSON can be read off the front of a text in one way only: no other
value is laid out with a text that starts alike. Strings end at the first quote that is not escaped,
lists and objects close at the depth at which they open, and a number ends where no digit follows.
-/

set_option autoImplicit false

namespace StructuredShell.Json

open Lexer (Stops run_cancel stops_nil stops_cons)

/-- The characters of which numbers consist. -/
def isNumeric (c : Char) : Bool :=
  c.isDigit || c == '-'

/-- Whether the text of a value can be mistaken for the text of no other value, whatever follows
either of them as long as it is no further digit. -/
def ReadsOff {α : Type} (write : α → List Char) (value : α) : Prop :=
  ∀ other rest rest', Stops isNumeric rest → Stops isNumeric rest' →
    write value ++ rest = write other ++ rest' → value = other ∧ rest = rest'

theorem ReadsOff.behind {α : Type} {write : α → List Char} {value : α}
    (readsOff : ReadsOff write value) (lead : List Char) :
    ReadsOff (fun value => lead ++ write value) value := by
  intro other rest rest' stops stops' same
  rw [List.append_assoc, List.append_assoc] at same
  exact readsOff other rest rest' stops stops' (List.append_cancel_left same)

/-! ## Strings -/

def hexValue (c : Char) : Nat :=
  if c.isDigit then c.toNat - '0'.toNat else c.toNat - 'a'.toNat + 10

/-- Read a character off the front of the inside of a string. -/
def readChar : List Char → Option (Char × List Char)
  | '\\' :: 'b' :: rest => some ('\x08', rest)
  | '\\' :: 't' :: rest => some ('\t', rest)
  | '\\' :: 'n' :: rest => some ('\n', rest)
  | '\\' :: 'f' :: rest => some ('\x0c', rest)
  | '\\' :: 'r' :: rest => some ('\r', rest)
  | '\\' :: 'u' :: '0' :: '0' :: high :: low :: rest =>
    some (Char.ofNat (16 * hexValue high + hexValue low), rest)
  | '\\' :: c :: rest => some (c, rest)
  | c :: rest => some (c, rest)
  | [] => none

theorem readChar_plain {c : Char} (plain : c ≠ '\\') (rest : List Char) :
    readChar (c :: rest) = some (c, rest) := by
  rw [readChar.eq_def]
  split <;> simp_all

theorem hexValue_digits : ∀ value < 0x20,
    16 * hexValue (Nat.digitChar (value / 16)) + hexValue (Nat.digitChar (value % 16)) = value := by
  decide

theorem readChar_escapeChar (c : Char) (rest : List Char) :
    readChar (escapeChar c ++ rest) = some (c, rest) := by
  unfold escapeChar
  split
  next isQuote => subst isQuote; rfl
  split
  next isBackslash => subst isBackslash; rfl
  split
  next isBackspace => subst isBackspace; rfl
  split
  next isTab => subst isTab; rfl
  split
  next isNewline => subst isNewline; rfl
  split
  next isFormFeed => subst isFormFeed; rfl
  split
  next isReturn => subst isReturn; rfl
  split
  next isControl =>
    have value := hexValue_digits c.toNat isControl
    simp only [List.cons_append, List.nil_append, readChar, value, Char.ofNat_toNat]
  next plain _ _ _ _ _ _ => exact readChar_plain plain rest

theorem escapeChar_unquoted (c : Char) (rest others : List Char) :
    '"' :: rest ≠ escapeChar c ++ others := by
  intro same
  have isChar := readChar_escapeChar c others
  rw [← same, readChar_plain (by decide)] at isChar
  cases isChar
  cases same

/-- Characters that are escaped one by one, up to the quote behind them, are said by the text alone
if each of them can be read off the front of a text, and none is escaped to what starts with that
quote. -/
theorem escapes_cancel {escape : Char → List Char} {read : List Char → Option (Char × List Char)}
    (reads : ∀ c rest, read (escape c ++ rest) = some (c, rest))
    (unquoted : ∀ c rest others, '"' :: rest ≠ escape c ++ others) (first second : List Char)
    {rest others : List Char}
    (same : first.flatMap escape ++ '"' :: rest = second.flatMap escape ++ '"' :: others) :
    first = second ∧ rest = others := by
  induction first generalizing second with
  | nil =>
      cases second with
      | nil => simpa using same
      | cons c second =>
          rw [List.flatMap_cons, List.append_assoc] at same
          exact absurd same (unquoted c _ _)
  | cons c first ih =>
      cases second with
      | nil =>
          rw [List.flatMap_cons, List.append_assoc] at same
          exact absurd same.symm (unquoted c _ _)
      | cons d second =>
          rw [List.flatMap_cons, List.append_assoc, List.flatMap_cons, List.append_assoc] at same
          have readBoth := congrArg read same
          rw [reads, reads, Option.some.injEq, Prod.mk.injEq] at readBoth
          obtain ⟨rfl, sameRest⟩ := readBoth
          obtain ⟨rfl, others⟩ := ih second sameRest
          exact ⟨rfl, others⟩

theorem quoted_readsOff (text : String) : ReadsOff (fun text => (quoted text).toList) text := by
  intro other rest rest' _ _ same
  simp only [quoted, String.toList_append, String.toList_ofList, String.reduceToList,
    List.append_assoc, List.cons_append, List.nil_append, List.cons.injEq, true_and] at same
  obtain ⟨sameText, sameRest⟩ := escapes_cancel readChar_escapeChar escapeChar_unquoted _ _ same
  exact ⟨String.toList_inj.mp sameText, sameRest⟩

/-! ## Numbers -/

theorem repr_isNumeric (value : Int) : value.repr.toList.all isNumeric = true := by
  have digits (number : Nat) : number.repr.toList.all isNumeric = true := by
    rw [List.all_eq_true, Nat.toList_repr]
    intro c isChar
    have isDigit := Nat.isDigit_of_mem_toDigits (by decide) (by decide) isChar
    simp [isNumeric, isDigit]
  cases value with
  | ofNat number => exact digits number
  | negSucc number =>
      rw [Int.repr, String.toList_append, List.all_append, digits]
      decide

theorem repr_ne_empty (value : Int) : value.repr ≠ "" := by
  cases value with
  | ofNat number => exact Nat.repr_ne_empty
  | negSucc number => simp [Int.repr]

theorem repr_readsOff (value : Int) : ReadsOff (fun value : Int => value.repr.toList) value := by
  intro other rest rest' stops stops' same
  obtain ⟨sameText, sameRest⟩ :=
    run_cancel (repr_isNumeric value) (repr_isNumeric other) stops stops' same
  exact ⟨Int.repr_inj.mp (String.toList_inj.mp sameText), sameRest⟩

/-! ## Lines of a list or an object -/

theorem lines_cancel {α : Type} {write : α → List Char} {first second : List α}
    (each : ∀ entry ∈ first, ReadsOff write entry) (nonempty : first ≠ [])
    (nonempty' : second ≠ []) {rest others : List Char}
    (same : [',', '\n'].intercalate (first.map write) ++ '\n' :: rest =
      [',', '\n'].intercalate (second.map write) ++ '\n' :: others) :
    first = second ∧ rest = others := by
  induction first generalizing second with
  | nil => exact absurd rfl nonempty
  | cons entry entries ih =>
      have readsOff := each entry (.head _)
      have comma (rest : List Char) : Stops isNumeric (',' :: rest) := stops_cons.mpr (by decide)
      have newline (rest : List Char) : Stops isNumeric ('\n' :: rest) :=
        stops_cons.mpr (by decide)
      match entries, second with
      | _, [] => exact absurd rfl nonempty'
      | [], [other] =>
          obtain ⟨rfl, sameRest⟩ := readsOff other _ _ (newline _) (newline _) (by simpa using same)
          simpa using sameRest
      | [], other :: next :: _ =>
          obtain ⟨-, sameRest⟩ := readsOff other _ _ (newline _) (comma _) (by simpa using same)
          cases sameRest
      | next :: _, [other] =>
          obtain ⟨-, sameRest⟩ := readsOff other _ _ (comma _) (newline _) (by simpa using same)
          cases sameRest
      | next :: entries, other :: next' :: others' =>
          obtain ⟨rfl, sameRest⟩ := readsOff other _ _ (comma _) (comma _) (by simpa using same)
          rw [List.cons.injEq, List.cons.injEq] at sameRest
          obtain ⟨isNext, rfl⟩ := ih (fun entry isEntry => each entry (.tail _ isEntry)) (by simp)
            (List.cons_ne_nil next' others') sameRest.2.2
          exact ⟨by rw [isNext], rfl⟩

def writeItem (depth : Nat) (item : Json) : List Char :=
  (margin depth).toList ++ (layout depth item).toList

def writeField (depth : Nat) (field : String × Json) : List Char :=
  (margin depth).toList ++ (quoted field.1).toList ++ [':', ' '] ++ (layout depth field.2).toList

theorem layoutItems_eq (depth : Nat) (items : List Json) :
    (layoutItems depth items).toList = [',', '\n'].intercalate (items.map (writeItem depth)) := by
  match items with
  | [] => rfl
  | [item] => simp [layoutItems, writeItem]
  | item :: next :: rest =>
      rw [layoutItems]
      · simp only [String.toList_append, layoutItems_eq depth (next :: rest), List.map_cons,
          List.intercalate_cons_cons, writeItem]
        rfl
      · simp

theorem layoutFields_eq (depth : Nat) (fields : List (String × Json)) :
    (layoutFields depth fields).toList =
      [',', '\n'].intercalate (fields.map (writeField depth)) := by
  match fields with
  | [] => rfl
  | [(key, value)] => simp [layoutFields, writeField]
  | (key, value) :: next :: rest =>
      rw [layoutFields]
      · simp only [String.toList_append, layoutFields_eq depth (next :: rest), List.map_cons,
          List.intercalate_cons_cons, writeField]
        rfl
      · simp

theorem writeItem_readsOff {depth : Nat} {item : Json}
    (readsOff : ReadsOff (fun item => (layout depth item).toList) item) :
    ReadsOff (writeItem depth) item :=
  readsOff.behind _

theorem writeField_readsOff {depth : Nat} {field : String × Json}
    (readsOff : ReadsOff (fun value => (layout depth value).toList) field.2) :
    ReadsOff (writeField depth) field := by
  intro other rest rest' stops stops' same
  simp only [writeField, List.append_assoc, List.append_cancel_left_eq] at same
  have colon (rest : List Char) : Stops isNumeric (':' :: rest) := stops_cons.mpr (by decide)
  obtain ⟨sameKey, sameRest⟩ := quoted_readsOff field.1 other.1 _ _ (colon _) (colon _) same
  obtain ⟨sameValue, sameEnd⟩ :=
    readsOff other.2 rest rest' stops stops' (by simpa using sameRest)
  exact ⟨Prod.ext sameKey sameValue, sameEnd⟩

/-! ## Values -/

/-- The kinds of JSON values, which their first characters tell apart. -/
inductive Shape where
  | boolean
  | number
  | text
  | list
  | object

def Shape.ofChar (c : Char) : Shape :=
  if c = '"' then text
  else if c = '[' then list
  else if c = '\x7b' then object
  else if c = 't' ∨ c = 'f' then boolean
  else number

def shape : Json → Shape
  | boolean _ => .boolean
  | number _ => .number
  | text _ => .text
  | list _ => .list
  | object _ => .object

theorem ofChar_of_isNumeric {c : Char} (numeric : isNumeric c = true) :
    Shape.ofChar c = .number := by
  have ne (d : Char) (other : isNumeric d = false) : c ≠ d := by
    rintro rfl
    simp [numeric] at other
  simp [Shape.ofChar, ne '"' (by decide), ne '[' (by decide), ne '\x7b' (by decide),
    ne 't' (by decide), ne 'f' (by decide)]

theorem layout_shape (depth : Nat) (json : Json) :
    (layout depth json).toList.head?.map Shape.ofChar = some json.shape := by
  match json with
  | .boolean true | .boolean false | .text _ | .list [] | .object [] | .list (_ :: _)
  | .object (_ :: _) => simp [layout, quoted, shape, Shape.ofChar]
  | .number value =>
      have numeric := repr_isNumeric value
      cases isText : value.repr.toList with
      | nil => exact absurd (String.toList_eq_nil_iff.mp isText) (repr_ne_empty value)
      | cons c cs =>
          simp only [isText, List.all_cons, Bool.and_eq_true] at numeric
          simp [layout, isText, shape, ofChar_of_isNumeric numeric.1]

theorem layout_ne_nil (depth : Nat) (json : Json) : (layout depth json).toList ≠ [] := by
  intro isNil
  have shape := layout_shape depth json
  rw [isNil] at shape
  cases shape

theorem shape_eq {depth : Nat} {first second : Json} {rest others : List Char}
    (same : (layout depth first).toList ++ rest = (layout depth second).toList ++ others) :
    first.shape = second.shape := by
  have sameHead := congrArg List.head? same
  rw [List.head?_append_of_ne_nil _ (layout_ne_nil depth first),
    List.head?_append_of_ne_nil _ (layout_ne_nil depth second)] at sameHead
  have sameShape := congrArg (Option.map Shape.ofChar) sameHead
  rw [layout_shape, layout_shape] at sameShape
  exact Option.some.inj sameShape

/-- Lines between two brackets. -/
def enclosed (depth : Nat) (opener closer : Char) : List (List Char) → List Char
  | [] => [opener, closer]
  | lines =>
    opener :: '\n' :: ([',', '\n'].intercalate lines ++
      '\n' :: ((margin depth).toList ++ [closer]))

theorem enclosed_readsOff {α : Type} {write : α → List Char} {entries : List α} {closer : Char}
    (each : ∀ entry ∈ entries, ReadsOff write entry) (onLine : closer ≠ '\n') (depth : Nat)
    (opener : Char) :
    ReadsOff (fun entries => enclosed depth opener closer (entries.map write)) entries := by
  intro others rest rest' _ _ same
  match entries, others with
  | [], [] => simpa [enclosed] using same
  | [], _ :: _ => simp [enclosed, onLine] at same
  | _ :: _, [] => simp [enclosed, onLine.symm] at same
  | entry :: entries, other :: others =>
      simp only [List.map_cons, enclosed, List.cons_append, List.append_assoc, List.cons.injEq,
        true_and] at same
      obtain ⟨sameEntries, sameRest⟩ :=
        lines_cancel each (by simp) (List.cons_ne_nil other others) same
      exact ⟨sameEntries, by simpa using sameRest⟩

theorem layout_list (depth : Nat) (items : List Json) :
    (layout depth (.list items)).toList =
      enclosed depth '[' ']' (items.map (writeItem (depth + 1))) := by
  cases items with
  | nil => simp [layout, enclosed]
  | cons item items => simp [layout, enclosed, layoutItems_eq]

theorem layout_object (depth : Nat) (fields : List (String × Json)) :
    (layout depth (.object fields)).toList =
      enclosed depth '\x7b' '\x7d' (fields.map (writeField (depth + 1))) := by
  cases fields with
  | nil => simp [layout, enclosed]
  | cons field fields => simp [layout, enclosed, layoutFields_eq]

/-- Every value can be read off the front of its text. -/
theorem layout_readsOff (depth : Nat) (json : Json) :
    ReadsOff (fun json => (layout depth json).toList) json := by
  match json with
  | .boolean first =>
      intro other rest rest' stops stops' same
      cases other with
      | boolean second => cases first <;> cases second <;> simp_all [layout]
      | _ => cases shape_eq same
  | .number value =>
      intro other rest rest' stops stops' same
      cases other with
      | number other =>
          simp only [layout] at same
          obtain ⟨rfl, sameRest⟩ := repr_readsOff value other rest rest' stops stops' same
          exact ⟨rfl, sameRest⟩
      | _ => cases shape_eq same
  | .text value =>
      intro other rest rest' stops stops' same
      cases other with
      | text other =>
          simp only [layout] at same
          obtain ⟨rfl, sameRest⟩ := quoted_readsOff value other rest rest' stops stops' same
          exact ⟨rfl, sameRest⟩
      | _ => cases shape_eq same
  | .list items =>
      intro other rest rest' stops stops' same
      cases other with
      | list others =>
          have each : ∀ item ∈ items, ReadsOff (writeItem (depth + 1)) item := by
            intro item isItem
            exact writeItem_readsOff (layout_readsOff (depth + 1) item)
          simp only [layout_list] at same
          obtain ⟨rfl, sameRest⟩ :=
            enclosed_readsOff each (by decide) depth '[' others rest rest' stops stops' same
          exact ⟨rfl, sameRest⟩
      | _ => cases shape_eq same
  | .object fields =>
      intro other rest rest' stops stops' same
      cases other with
      | object others =>
          have each : ∀ field ∈ fields, ReadsOff (writeField (depth + 1)) field := by
            intro (key, value) isField
            exact writeField_readsOff (layout_readsOff (depth + 1) value)
          simp only [layout_object] at same
          obtain ⟨rfl, sameRest⟩ :=
            enclosed_readsOff each (by decide) depth '\x7b' others rest rest' stops stops' same
          exact ⟨rfl, sameRest⟩
      | _ => cases shape_eq same
termination_by sizeOf json
decreasing_by
  · have smaller := List.sizeOf_lt_of_mem isItem
    simp only [list.sizeOf_spec]
    omega
  · have smaller := List.sizeOf_lt_of_mem isField
    simp only [object.sizeOf_spec, Prod.mk.sizeOf_spec] at smaller ⊢
    omega

theorem render_injective : Function.Injective render := by
  intro first second same
  have sameText : (layout 0 first).toList ++ [] = (layout 0 second).toList ++ [] := by
    rw [List.append_nil, List.append_nil]
    exact congrArg String.toList same
  exact (layout_readsOff 0 first second [] [] (stops_nil _) (stops_nil _) sameText).1

end StructuredShell.Json
