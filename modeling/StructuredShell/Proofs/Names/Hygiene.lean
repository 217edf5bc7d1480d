import Mathlib
import StructuredShell.NameTable

/-!
# Name tables keep names apart

Whatever names a table is asked for, and in whatever order, each of them gets a shell name of its
own that generated code may define, and keeps it. What a single translation preserves is stated
first; a run of translations follows by induction.
-/

set_option autoImplicit false

namespace StructuredShell.NameTable

open Shell

/-! ## Numbered names -/

theorem numbered_injective (base : String) : Function.Injective (numbered base) := by
  intro first second same
  have sameChars := congrArg String.toList same
  simp only [numbered, String.toList_append] at sameChars
  have sameDigits : first.repr.toList = second.repr.toList := List.append_cancel_left sameChars
  rw [Nat.toList_repr, Nat.toList_repr] at sameDigits
  simpa using congrArg (fun digits => Nat.ofDigitChars 10 digits 0) sameDigits

/-- The search along the numbered names ends at the first of them that is not taken. -/
theorem firstFree_spec (base : String) (start : Nat) (taken : List String) :
    ∃ number ≥ start, firstFree base start taken = numbered base number ∧
      numbered base number ∉ taken ∧
      ∀ earlier ≥ start, earlier < number → numbered base earlier ∈ taken := by
  fun_induction firstFree base start taken with
  | case1 start taken candidate isTaken ih =>
      obtain ⟨number, later, found, free, passed⟩ := ih
      -- A candidate that was erased is none of the later ones, so erasing it frees nothing else.
      have other : numbered base number ≠ candidate := by
        intro same
        have := numbered_injective base same
        omega
      refine ⟨number, by omega, found, ?_, ?_⟩
      · rwa [List.mem_erase_of_ne other] at free
      · intro earlier fromStart before
        rcases Nat.eq_or_lt_of_le fromStart with rfl | after
        · exact isTaken
        · exact List.mem_of_mem_erase (passed earlier after before)
  | case2 start taken candidate free =>
      exact ⟨start, Nat.le_refl start, rfl, free, fun earlier fromStart before => by omega⟩

/-! ## Names that generated code may define -/

theorem continuesWord_of_isDigit {c : Char} (isDigit : c.isDigit = true) :
    Text.continuesWord c = true := by
  simp only [Char.isDigit, Bool.and_eq_true, decide_eq_true_eq] at isDigit
  simp only [Text.continuesWord, Text.isDigit, Bool.or_eq_true, Bool.and_eq_true, decide_eq_true_eq]
  exact .inr isDigit

theorem repr_continuesWord (number : Nat) : number.repr.toList.all Text.continuesWord = true := by
  rw [List.all_eq_true, Nat.toList_repr]
  intro c isChar
  exact continuesWord_of_isDigit (Nat.isDigit_of_mem_toDigits (by decide) (by decide) isChar)

/-- No name with a meaning of its own begins like a renamed one. -/
theorem reserved_unmarked : ∀ name ∈ reservedNames, name.toList.take 2 ≠ ['p', '_'] := by
  decide +kernel

/-- A word after the mark of renamed names is a name that generated code may define. -/
theorem isDefinable_of_marked {name : String} {chars : List Char}
    (isMarked : name.toList = 'p' :: '_' :: chars) (isWord : chars.all Text.continuesWord = true) :
    isDefinable name = true := by
  have word : Text.isWord name = true := by
    rw [Text.isWord, isMarked, Text.isWordChars, List.all_cons, isWord]
    decide
  have unreserved : isReserved name = false := by
    rw [isReserved, List.contains_eq_mem, decide_eq_false_iff_not]
    intro isReserved
    exact reserved_unmarked name isReserved (by rw [isMarked]; rfl)
  have outer : isInternal name = false := by
    rw [isInternal, isMarked]
    rfl
  rw [isDefinable, word, unreserved, outer]
  rfl

theorem marked_toList (name : String) :
    ∃ chars, (marked name).toList = 'p' :: '_' :: chars ∧
      chars.all Text.continuesWord = true := by
  refine ⟨name.toList.map fun c => if Text.continuesWord c then c else '_', ?_, ?_⟩
  · simp [marked]
  · simp only [List.all_map, List.all_eq_true, Function.comp_apply]
    intro c _
    split
    · assumption
    · decide

theorem isDefinable_numbered_marked (name : String) (number : Nat) :
    isDefinable (numbered (marked name) number) = true := by
  obtain ⟨chars, isMarked, isWord⟩ := marked_toList name
  have isNumbered : (numbered (marked name) number).toList =
      'p' :: '_' :: (chars ++ '_' :: number.repr.toList) := by
    simp [numbered, isMarked]
  apply isDefinable_of_marked isNumbered
  have underscore : Text.continuesWord '_' = true := by decide
  rw [List.all_append, isWord, List.all_cons, underscore, repr_continuesWord]
  rfl

theorem ne_temporaryName_of_not_internal {name : String} (outer : isInternal name = false)
    (index : Nat) : name ≠ temporaryName index := by
  rintro rfl
  simp [isInternal, temporaryName] at outer

theorem ne_resultName_of_not_internal {name : String} (outer : isInternal name = false) :
    name ≠ resultName := by
  rintro rfl
  revert outer
  decide

/-! ## Choosing a name -/

theorem isFree_iff {table : NameTable} {name : String} :
    table.isFree name = true ↔ isDefinable name = true ∧ name ∉ table.taken := by
  simp [isFree]

/-- A marked name that is numbered is free unless it is taken. -/
theorem isFree_numbered_iff {table : NameTable} {name : String} {number : Nat} :
    table.isFree (numbered (marked name) number) = true ↔
      numbered (marked name) number ∉ table.taken := by
  rw [isFree_iff]
  exact and_iff_right (isDefinable_numbered_marked name number)

theorem choose_isFree (table : NameTable) (name : String) :
    table.isFree (table.choose name) = true := by
  unfold choose
  split
  · assumption
  · split
    · assumption
    · obtain ⟨number, _, found, free, _⟩ := firstFree_spec (marked name) 2 table.taken
      rw [found]
      exact isFree_numbered_iff.mpr free

/-! ## One translation -/

/-- What holds of every table that translations build: no source name has two entries, no shell name
stands for two source names, and generated code may define every shell name. -/
structure Hygienic (table : NameTable) : Prop where
  sources : (table.entries.map Prod.fst).Nodup
  shells : table.taken.Nodup
  definable : ∀ shell ∈ table.taken, isDefinable shell = true

theorem mem_of_get? {table : NameTable} {name shell : String}
    (found : table.get? name = some shell) : (name, shell) ∈ table.entries := by
  obtain ⟨earlier, later, split, _⟩ := List.lookup_eq_some_iff.mp found
  simp [split]

theorem get?_eq_none_iff {table : NameTable} {name : String} :
    table.get? name = none ↔ name ∉ table.entries.map Prod.fst := by
  rw [get?, List.lookup_eq_none_iff, List.mem_map]
  constructor
  · intro others isSource
    obtain ⟨entry, isEntry, rfl⟩ := isSource
    simpa using others entry isEntry
  · intro missing entry isEntry
    rw [bne_iff_ne]
    rintro rfl
    exact missing ⟨entry, isEntry, rfl⟩

theorem translate_of_some {table : NameTable} {name shell : String}
    (found : table.get? name = some shell) : table.translate name = (shell, table) := by
  simp [translate, found]

theorem translate_of_none {table : NameTable} {name : String} (missing : table.get? name = none) :
    table.translate name =
      (table.choose name, ⟨table.entries ++ [(name, table.choose name)]⟩) := by
  simp [translate, missing]

theorem Hygienic.translate {table : NameTable} (hygienic : table.Hygienic) (name : String) :
    (table.translate name).2.Hygienic := by
  cases found : table.get? name with
  | some shell =>
      rw [translate_of_some found]
      exact hygienic
  | none =>
      rw [translate_of_none found]
      obtain ⟨definable, free⟩ := isFree_iff.mp (table.choose_isFree name)
      have takenAfter : taken ⟨table.entries ++ [(name, table.choose name)]⟩ =
          table.taken ++ [table.choose name] := by
        simp [taken]
      constructor
      · rw [List.map_append, List.map_singleton, ← List.concat_eq_append, List.nodup_concat]
        exact ⟨get?_eq_none_iff.mp found, hygienic.sources⟩
      · rw [takenAfter, ← List.concat_eq_append, List.nodup_concat]
        exact ⟨free, hygienic.shells⟩
      · intro shell isTaken
        rw [takenAfter, List.mem_append, List.mem_singleton] at isTaken
        rcases isTaken with earlier | rfl
        · exact hygienic.definable shell earlier
        · exact definable

/-- A translation hands out the entry of its name. -/
theorem get?_translate_self (table : NameTable) (name : String) :
    (table.translate name).2.get? name = some (table.translate name).1 := by
  cases found : table.get? name with
  | some shell =>
      rw [translate_of_some found]
      exact found
  | none =>
      rw [translate_of_none found]
      rw [get?] at found
      simp [get?, List.lookup_append, found]

theorem get?_translate_of_some {table : NameTable} {name shell : String}
    (found : table.get? name = some shell) (other : String) :
    (table.translate other).2.get? name = some shell := by
  cases foundOther : table.get? other with
  | some _ =>
      rw [translate_of_some foundOther]
      exact found
  | none =>
      rw [translate_of_none foundOther]
      rw [get?] at found ⊢
      rw [List.lookup_append, found, Option.some_or]

/-- A translation enters its name after those that were entered before, unless it is one of
them. -/
theorem sources_translate (table : NameTable) (name : String) :
    (table.translate name).2.entries.map Prod.fst =
      table.entries.map Prod.fst ++
        if name ∈ table.entries.map Prod.fst then [] else [name] := by
  cases found : table.get? name with
  | some shell =>
      have isSource : name ∈ table.entries.map Prod.fst :=
        List.mem_map.mpr ⟨_, mem_of_get? found, rfl⟩
      rw [translate_of_some found, if_pos isSource, List.append_nil]
  | none =>
      rw [translate_of_none found, if_neg (get?_eq_none_iff.mp found), List.map_append]
      rfl

/-! ## Runs of translations -/

theorem translateAll_append (table : NameTable) (first second : List String) :
    table.translateAll (first ++ second) = (table.translateAll first).translateAll second :=
  List.foldl_append

theorem Hygienic.translateAll {table : NameTable} (hygienic : table.Hygienic)
    (names : List String) : (table.translateAll names).Hygienic := by
  induction names generalizing table with
  | nil => exact hygienic
  | cons name rest ih => exact ih (hygienic.translate name)

theorem empty_hygienic : NameTable.empty.Hygienic :=
  ⟨List.nodup_nil, List.nodup_nil, nofun⟩

theorem get?_translateAll_of_some {table : NameTable} {name shell : String}
    (found : table.get? name = some shell) (later : List String) :
    (table.translateAll later).get? name = some shell := by
  induction later generalizing table with
  | nil => exact found
  | cons other rest ih => exact ih (get?_translate_of_some found other)

/-- The source names of a table that was built from nothing are the names that were translated, each
at its first use. -/
theorem sources_translateAll (names : List String) :
    (NameTable.empty.translateAll names).entries.map Prod.fst = names.eraseDups := by
  induction names using List.reverseRecOn with
  | nil => rfl
  | append_singleton names name ih =>
      have step : (NameTable.empty.translateAll (names ++ [name])) =
          ((NameTable.empty.translateAll names).translate name).2 :=
        translateAll_append _ names [name]
      rw [step, sources_translate, ih, List.eraseDups_append]
      by_cases used : name ∈ names
      · simp [used, List.removeAll]
      · simp [used, List.removeAll, List.eraseDups_cons]

theorem Hygienic.get?_eq_some_iff {table : NameTable} (hygienic : table.Hygienic)
    {name shell : String} : table.get? name = some shell ↔ (name, shell) ∈ table.entries := by
  refine ⟨mem_of_get?, fun isEntry => ?_⟩
  cases found : table.get? name with
  | none => exact absurd (List.mem_map.mpr ⟨_, isEntry, rfl⟩) (get?_eq_none_iff.mp found)
  | some other =>
      have same := List.inj_on_of_nodup_map hygienic.sources isEntry (mem_of_get? found) rfl
      simpa using (congrArg Prod.snd same).symm

/-- The entries of a table are its source names, each with the shell name it stands for. -/
theorem Hygienic.entries_eq {table : NameTable} (hygienic : table.Hygienic) :
    table.entries =
      (table.entries.map Prod.fst).map fun source => (source, table.shellName source) := by
  rw [List.map_map]
  refine (List.map_id _).symm.trans (List.map_congr_left fun entry isEntry => ?_)
  have found : table.get? entry.1 = some entry.2 := hygienic.get?_eq_some_iff.mpr isEntry
  simp [shellName, found]

theorem size_translateAll (names : List String) :
    (NameTable.empty.translateAll names).size = names.toFinset.card := by
  have distinct := (empty_hygienic.translateAll names).sources
  have sameNames : names.toFinset = names.eraseDups.toFinset := by
    ext name
    simp
  rw [sources_translateAll] at distinct
  calc (NameTable.empty.translateAll names).size
    _ = ((NameTable.empty.translateAll names).entries.map Prod.fst).length := by
        rw [List.length_map, size]
    _ = names.eraseDups.length := by rw [sources_translateAll]
    _ = names.toFinset.card := by rw [sameNames, List.toFinset_card_of_nodup distinct]

/-- The names that differ from their shell names, in the order of first use. -/
theorem renamed_translateAll (names : List String) :
    let table := NameTable.empty.translateAll names
    table.renamed = (names.eraseDups.map fun name => (name, table.shellName name)).filter
      fun entry => entry.1 ≠ entry.2 := by
  intro table
  have hygienic : table.Hygienic := empty_hygienic.translateAll names
  rw [renamed, ← sources_translateAll, ← hygienic.entries_eq]
  apply List.filter_congr
  intro entry _
  exact Bool.eq_iff_iff.mpr (by simp)

/-- Two source names never share a shell name. -/
theorem Hygienic.get?_injective {table : NameTable} (hygienic : table.Hygienic)
    {first second shell : String} (isFirst : table.get? first = some shell)
    (isSecond : table.get? second = some shell) : first = second := by
  have same := List.inj_on_of_nodup_map hygienic.shells (mem_of_get? isFirst)
    (mem_of_get? isSecond) rfl
  exact congrArg Prod.fst same

theorem not_doubleUnderscore_of_not_internal {name : String} (outer : isInternal name = false) :
    ¬['_', '_'] <+: name.toList := by
  rintro ⟨rest, isInternal⟩
  simp [Shell.isInternal, ← isInternal] at outer

/-- Names stay apart over whole runs. In every table that translations from the empty one lead to,
the search for a free number ends at the first one, whatever name it is for; source names that
differ have shell names that differ; a shell name is a word without a meaning in the shell and
outside the names of generated code; a translation hands out the entry of its name, and every later
translation and look-up finds that same entry; there is one entry for each name that was translated;
and those that are renamed are listed in the order of first use. -/
theorem translateAll_keeps_names_apart (names : List String) :
    let table := NameTable.empty.translateAll names
    (∀ name, ∃ number ≥ 2, table.isFree (numbered (marked name) number) = true ∧
      firstFree (marked name) 2 table.taken = numbered (marked name) number ∧
      ∀ earlier ≥ 2, earlier < number →
        table.isFree (numbered (marked name) earlier) = false) ∧
    (∀ first second shell, table.get? first = some shell → table.get? second = some shell →
      first = second) ∧
    (∀ name shell, table.get? name = some shell →
      Text.isWord shell = true ∧ isReserved shell = false ∧ ¬['_', '_'] <+: shell.toList ∧
        shell ≠ resultName ∧ ∀ index, shell ≠ temporaryName index) ∧
    (∀ name, (table.translate name).2.get? name = some (table.translate name).1) ∧
    (∀ name shell later, table.get? name = some shell →
      (table.translateAll later).get? name = some shell ∧
        (table.translateAll later).translate name = (shell, table.translateAll later)) ∧
    table.size = names.toFinset.card ∧
    table.renamed = (names.eraseDups.map fun name => (name, table.shellName name)).filter
      fun entry => entry.1 ≠ entry.2 := by
  intro table
  have hygienic : table.Hygienic := empty_hygienic.translateAll names
  refine ⟨?_, fun first second shell => hygienic.get?_injective, ?_, table.get?_translate_self, ?_,
    size_translateAll names, renamed_translateAll names⟩
  · intro name
    obtain ⟨number, large, found, free, passed⟩ := firstFree_spec (marked name) 2 table.taken
    refine ⟨number, large, isFree_numbered_iff.mpr free, found, fun earlier fromTwo before => ?_⟩
    rw [Bool.eq_false_iff, ne_eq, isFree_numbered_iff, not_not]
    exact passed earlier fromTwo before
  · intro name shell found
    have definable := hygienic.definable shell (List.mem_map.mpr ⟨_, mem_of_get? found, rfl⟩)
    simp only [isDefinable, Bool.and_eq_true, Bool.not_eq_true'] at definable
    obtain ⟨⟨isWord, unreserved⟩, outer⟩ := definable
    exact ⟨isWord, unreserved, not_doubleUnderscore_of_not_internal outer,
      ne_resultName_of_not_internal outer, ne_temporaryName_of_not_internal outer⟩
  · intro name shell later found
    have foundLater := get?_translateAll_of_some found later
    exact ⟨foundLater, translate_of_some foundLater⟩

end StructuredShell.NameTable
