import StructuredShell.Shell.Quote

/-!
# Quoted words are read back

How the shell takes a word off the front of its input, as far as single quotes and backslashes go,
and what it finds in a quoted text: nothing that it could act on, and the text itself.
-/

set_option autoImplicit false

namespace StructuredShell.Shell

/-! ## Scanning a word -/

/-- A part of a word: a segment between single quotes, a character behind a backslash, or a
character that nothing quotes. -/
inductive WordPart where
  | quoted (segment : List Char)
  | escaped (c : Char)
  | bare (c : Char)

/-- What a part contributes to the word once the quotes are removed. -/
def WordPart.contents : WordPart → List Char
  | quoted segment => segment
  | escaped c => [c]
  | bare c => [c]

mutual

/-- Take a word off the front of shell code: its parts, and the code that is left. There is no word
if a quote is never closed or a backslash stands at the very end. Which unquoted characters end a
word depends on what stands around it, and is given by `ends`. -/
def scanWord (ends : Char → Bool) : List Char → Option (List WordPart × List Char)
  | [] => some ([], [])
  | '\'' :: code =>
    (scanSegment ends code).map fun (segment, parts, rest) => (.quoted segment :: parts, rest)
  | ['\\'] => none
  | '\\' :: c :: code => (scanWord ends code).map fun (parts, rest) => (.escaped c :: parts, rest)
  | c :: code =>
    if ends c then some ([], c :: code)
    else (scanWord ends code).map fun (parts, rest) => (.bare c :: parts, rest)

/-- The same from behind a single quote on: first the rest of the segment that it opens, in which
every character up to the next single quote stands for itself. -/
def scanSegment (ends : Char → Bool) :
    List Char → Option (List Char × List WordPart × List Char)
  | [] => none
  | '\'' :: code => (scanWord ends code).map fun (parts, rest) => ([], parts, rest)
  | c :: code =>
    (scanSegment ends code).map fun (segment, parts, rest) => (c :: segment, parts, rest)

end

variable {ends : Char → Bool}

theorem scanSegment_plain {c : Char} (plain : c ≠ '\'') (code : List Char) :
    scanSegment ends (c :: code) =
      (scanSegment ends code).map fun (segment, parts, rest) => (c :: segment, parts, rest) := by
  rw [scanSegment.eq_def]
  split <;> simp_all

theorem scanWord_of_ends {c : Char} (unquoted : c ≠ '\'') (unescaped : c ≠ '\\')
    (isEnd : ends c = true) (rest : List Char) :
    scanWord ends (c :: rest) = some ([], c :: rest) := by
  rw [scanWord.eq_def]
  split <;> simp_all

/-! ## The parts of a quoted text -/

/-- The parts of a quoted text from behind its first quote on: the rest of the segment that is open
there, and the parts after it. -/
def quotedParts : List Char → List Char × List WordPart
  | [] => ([], [])
  | c :: text =>
    if c = '\'' then
      ([], [.escaped '\'', .quoted (quotedParts text).1] ++ (quotedParts text).2)
    else (c :: (quotedParts text).1, (quotedParts text).2)

theorem quotedParts_contents (text : List Char) :
    (quotedParts text).1 ++ (quotedParts text).2.flatMap WordPart.contents = text := by
  induction text with
  | nil => rfl
  | cons c text ih =>
      rw [quotedParts]
      split
      · next isQuote => simp [WordPart.contents, ih, isQuote]
      · simp [ih]

/-- Whether the shell can only take a part for the characters that it contributes. -/
def WordPart.Inert : WordPart → Prop
  | quoted _ => True
  | escaped c => c = '\''
  | bare _ => False

theorem quotedParts_inert (text : List Char) : ∀ part ∈ (quotedParts text).2, part.Inert := by
  induction text with
  | nil => simp [quotedParts]
  | cons c text ih =>
      rw [quotedParts]
      split
      · simpa [WordPart.Inert] using ih
      · exact ih

/-- From inside a segment on, a quoted text is scanned up to its last quote, and scanning goes on
outside of quotes with whatever follows. -/
theorem scanSegment_quoted (text rest : List Char) :
    scanSegment ends (text.flatMap quoteChar ++ '\'' :: rest) =
      (scanWord ends rest).map fun (parts, left) =>
        ((quotedParts text).1, (quotedParts text).2 ++ parts, left) := by
  induction text with
  | nil => rfl
  | cons c text ih =>
      rw [List.flatMap_cons, List.append_assoc, quoteChar, quotedParts]
      split
      · -- The replacement closes the segment, has one escaped quote, and opens the next segment.
        simp only [List.cons_append, List.nil_append, scanSegment, scanWord, ih, Option.map_map]
        rfl
      · next plain =>
        rw [List.singleton_append, scanSegment_plain plain, ih, Option.map_map]
        rfl

/-! ## Quoted texts -/

theorem toList_singleQuote (text : String) :
    (singleQuote text).toList = '\'' :: (text.toList.flatMap quoteChar ++ ['\'']) := by
  simp [singleQuote]

def singleQuoteParts (text : String) : List WordPart :=
  .quoted (quotedParts text.toList).1 :: (quotedParts text.toList).2

theorem scanWord_singleQuote_append (ends : Char → Bool) (text : String) (rest : List Char) :
    scanWord ends ((singleQuote text).toList ++ rest) =
      (scanWord ends rest).map fun (parts, left) => (singleQuoteParts text ++ parts, left) := by
  rw [toList_singleQuote, List.cons_append, List.append_assoc, List.singleton_append, scanWord,
    scanSegment_quoted, Option.map_map]
  rfl

/-- A quoted text is one word, and the shell reads the text back from it. Whatever ends words, the
scanner takes the whole quoted text; it meets segments between quotes and escaped quotes only, and
what they contribute is the text. Whatever code follows is scanned from outside of quotes, as if it
stood alone, and so a space, a newline or a closing bracket that ends words ends this one. -/
theorem singleQuote_read_back (ends : Char → Bool) (text : String) :
    ∃ parts : List WordPart, parts ≠ [] ∧
      scanWord ends (singleQuote text).toList = some (parts, []) ∧
      (∀ part ∈ parts, part.Inert) ∧
      parts.flatMap WordPart.contents = text.toList ∧
      (∀ rest, scanWord ends ((singleQuote text).toList ++ rest) =
        (scanWord ends rest).map fun (further, left) => (parts ++ further, left)) ∧
      ∀ c ∈ [' ', '\n', ')', ']'], ends c = true → ∀ rest,
        scanWord ends ((singleQuote text).toList ++ c :: rest) = some (parts, c :: rest) := by
  refine ⟨singleQuoteParts text, by simp [singleQuoteParts], ?_, ?_, ?_, ?_, ?_⟩
  · have scanned := scanWord_singleQuote_append ends text []
    simpa [scanWord] using scanned
  · intro part isPart
    rcases List.mem_cons.mp isPart with rfl | isLater
    · trivial
    · exact quotedParts_inert text.toList part isLater
  · exact quotedParts_contents text.toList
  · intro rest
    exact scanWord_singleQuote_append ends text rest
  · intro c isCloser isEnd rest
    have plain : c ≠ '\'' ∧ c ≠ '\\' := by
      constructor <;> rintro rfl <;> simp at isCloser
    rw [scanWord_singleQuote_append, scanWord_of_ends plain.1 plain.2 isEnd]
    simp

/-- Quotes and backslashes at both edges, before a bracket that closes around the word. -/
theorem singleQuote_read_back_edges :
    ∃ parts : List WordPart, parts.flatMap WordPart.contents = "'\\''".toList ∧
      scanWord (· == ']') ((singleQuote "'\\''").toList ++ "] '".toList) =
        some (parts, "] '".toList) := by
  obtain ⟨parts, -, -, -, contents, -, stops⟩ := singleQuote_read_back (· == ']') "'\\''"
  exact ⟨parts, contents, stops ']' (by decide) rfl [' ', '\'']⟩

end StructuredShell.Shell
