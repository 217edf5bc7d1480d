import StructuredShell.Proofs.Interchange.Layout
import StructuredShell.Text.Escape

/-!
# Escaped texts have one reading

Escaped text stays on one line, and it can be read back. Neither depends on which characters are
hidden: a backslash is always escaped, so that a backslash always starts an escape, and every escape
says where it ends.
-/

set_option autoImplicit false

namespace StructuredShell.Text

/-! ## Any choice of hidden characters -/

/-- A character as it is shown in escaped text, for any choice of hidden characters. -/
def escapeCharBy (hidden : Char → Bool) (quotes : List Char) (c : Char) : List Char :=
  match shortEscape? c with
  | some mark => ['\\', mark]
  | none =>
    if quotes.contains c then ['\\', c]
    else if hidden c then ['\\', 'u', '{'] ++ hexDigits c.toNat ++ ['}']
    else [c]

def shownTextBy (hidden : Char → Bool) (text : String) : String :=
  "\"" ++ String.ofList (text.toList.flatMap (escapeCharBy hidden ['"'])) ++ "\""

/-! ## One line -/

theorem not_mem_toDigits {base : Nat} (large : 1 < base) {c : Char}
    (other : ∀ digit, Nat.digitChar digit ≠ c) (n : Nat) : c ∉ Nat.toDigits base n := by
  induction n using Nat.strongRecOn with
  | ind n ih =>
      rw [Nat.toDigits_eq_if large]
      split
      · simpa using (other n).symm
      · rename_i notSmall
        have smaller : n / base < n := Nat.div_lt_self (by omega) large
        simp [ih _ smaller, (other (n % base)).symm]

theorem shortEscape?_eq_some {c mark : Char} (isShort : shortEscape? c = some mark) :
    (c, mark) ∈ [('\x00', '0'), ('\t', 't'), ('\r', 'r'), ('\n', 'n'), ('\\', '\\')] := by
  unfold shortEscape? at isShort
  split_ifs at isShort <;> cases isShort <;> simp_all

theorem newline_not_mem_escapeCharBy (hidden : Char → Bool) (quotes : List Char) (c : Char) :
    '\n' ∉ escapeCharBy hidden quotes c := by
  have inHex : '\n' ∉ hexDigits c.toNat :=
    not_mem_toDigits (by decide) (fun _ => Nat.digitChar_ne '\n' rfl) c.toNat
  unfold escapeCharBy
  split
  · rename_i mark isShort
    have listed := shortEscape?_eq_some isShort
    simp only [List.mem_cons, Prod.mk.injEq, List.not_mem_nil, or_false] at listed ⊢
    rintro (isSlash | rfl)
    · cases isSlash
    · simp at listed
  · rename_i notShort
    have notNewline : '\n' ≠ c := by
      rintro rfl
      cases notShort
    split
    · simp [notNewline]
    · split
      · simp [inHex]
      · simpa using notNewline

/-! ## Reading back -/

def hexNumber (digits : List Char) : Nat :=
  digits.foldl (fun value c => 16 * value + Json.hexValue c) 0

theorem hexNumber_hexDigits (n : Nat) : hexNumber (hexDigits n) = n := by
  have single : ∀ digit < 16, Json.hexValue (Nat.digitChar digit) = digit := by decide
  induction n using Nat.strongRecOn with
  | ind n ih =>
      rw [hexDigits, Nat.toDigits_eq_if (by decide)]
      split
      · rename_i small
        simp [hexNumber, single n small]
      · rename_i notSmall
        have smaller : n / 16 < n := by omega
        have before : hexNumber (Nat.toDigits 16 (n / 16)) = n / 16 := ih (n / 16) smaller
        rw [hexNumber, List.foldl_append]
        rw [hexNumber] at before
        rw [before, List.foldl_cons, List.foldl_nil, single (n % 16) (by omega)]
        omega

/-- Read a character off the front of escaped text. -/
def readEscaped : List Char → Option (Char × List Char)
  | '\\' :: '0' :: rest => some ('\x00', rest)
  | '\\' :: 't' :: rest => some ('\t', rest)
  | '\\' :: 'r' :: rest => some ('\r', rest)
  | '\\' :: 'n' :: rest => some ('\n', rest)
  | '\\' :: 'u' :: '{' :: rest =>
    some (Char.ofNat (hexNumber (rest.takeWhile (· != '}'))), (rest.dropWhile (· != '}')).tail)
  | '\\' :: c :: rest => some (c, rest)
  | c :: rest => some (c, rest)
  | [] => none

theorem readEscaped_plain {c : Char} (plain : c ≠ '\\') (rest : List Char) :
    readEscaped (c :: rest) = some (c, rest) := by
  rw [readEscaped.eq_def]
  split <;> simp_all

theorem readEscaped_code (c : Char) (rest : List Char) :
    readEscaped (['\\', 'u', '{'] ++ hexDigits c.toNat ++ ['}'] ++ rest) = some (c, rest) := by
  have inside : ∀ d ∈ hexDigits c.toNat, (d != '}') = true := by
    intro d isDigit
    rw [bne_iff_ne]
    rintro rfl
    exact not_mem_toDigits (by decide) (fun _ => Nat.digitChar_ne '}' rfl) c.toNat isDigit
  simp only [List.cons_append, List.nil_append, List.append_assoc, readEscaped]
  rw [List.takeWhile_append_of_pos inside, List.dropWhile_append_of_pos inside]
  simp [hexNumber_hexDigits]

theorem readEscaped_escapeCharBy (hidden : Char → Bool) (c : Char) (rest : List Char) :
    readEscaped (escapeCharBy hidden ['"'] c ++ rest) = some (c, rest) := by
  unfold escapeCharBy
  split
  · rename_i mark isShort
    have listed := shortEscape?_eq_some isShort
    simp only [List.mem_cons, Prod.mk.injEq, List.not_mem_nil, or_false] at listed
    rcases listed with ⟨rfl, rfl⟩ | ⟨rfl, rfl⟩ | ⟨rfl, rfl⟩ | ⟨rfl, rfl⟩ | ⟨rfl, rfl⟩ <;> rfl
  · rename_i notShort
    split
    · rename_i isQuote
      obtain rfl : c = '"' := by simpa using isQuote
      rfl
    · split
      · exact readEscaped_code c rest
      · refine readEscaped_plain ?_ rest
        rintro rfl
        cases notShort

theorem escapeCharBy_unquoted (hidden : Char → Bool) (c : Char) (rest others : List Char) :
    '"' :: rest ≠ escapeCharBy hidden ['"'] c ++ others := by
  intro same
  have isChar := readEscaped_escapeCharBy hidden c others
  rw [← same, readEscaped_plain (by decide)] at isChar
  cases isChar
  cases same

theorem shownTextBy_injective (hidden : Char → Bool) :
    Function.Injective (shownTextBy hidden) := by
  intro first second same
  have sameChars := congrArg String.toList same
  simp only [shownTextBy, String.toList_append, String.toList_ofList, String.reduceToList,
    List.cons_append, List.nil_append, List.cons.injEq, true_and] at sameChars
  obtain ⟨sameText, -⟩ := Json.escapes_cancel (readEscaped_escapeCharBy hidden)
    (escapeCharBy_unquoted hidden) _ _ sameChars
  exact String.toList_inj.mp sameText

end StructuredShell.Text
