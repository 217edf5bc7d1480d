import Mathlib.Data.List.DropRight
import StructuredShell.CommandLine.FileStore

/-!
# Spellings of paths

Two spellings of one path may differ in slashes that are repeated and in dots, which lead nowhere.
Paths that differ in nothing else lead to one place, for reading as well as for writing. They are
also the same path, component by component, unless just one of them has a dot in front.
-/

set_option autoImplicit false

namespace StructuredShell

/-! ## Dots in paths -/

namespace Path

/-- The segments that are left of a path without empty ones and dots. -/
def essential (segments : List String) : List String :=
  segments.filter fun segment => segment != "" && segment != "."

/-- Whether two paths are spelled alike once repeated slashes and all dots are removed. -/
structure SameWithoutDots (first second : String) : Prop where
  base : isAbsolute first = isAbsolute second
  names : essential (segments first) = essential (segments second)

def startsWithDot (path : String) : Bool :=
  (segments path).head? = some "."

@[simp] theorem essential_nil : essential [] = [] := rfl

theorem essential_append (first second : List String) :
    essential (first ++ second) = essential first ++ essential second :=
  List.filter_append ..

theorem essential_cons_of_skipped {segment : String} (skipped : segment = "" ∨ segment = ".")
    (rest : List String) : essential (segment :: rest) = essential rest := by
  rcases skipped with rfl | rfl <;> rfl

theorem essential_cons_of_kept {segment : String} (named : segment ≠ "") (noDot : segment ≠ ".")
    (rest : List String) : essential (segment :: rest) = segment :: essential rest := by
  simp [essential, named, noDot]

/-! ## Components -/

def Component.ofSegment (segment : String) : Component :=
  if segment = ".." then .parent else .name segment

theorem Component.ofSegment_injective : Function.Injective ofSegment := by
  intro first second same
  unfold ofSegment at same
  split at same <;> split at same <;> simp_all

theorem filterMap_component? (segments : List String) :
    segments.filterMap component? = (essential segments).map Component.ofSegment := by
  induction segments with
  | nil => rfl
  | cons segment rest ih =>
      by_cases skipped : segment = "" ∨ segment = "."
      · have none : component? segment = none := by
          rcases skipped with rfl | rfl <;> rfl
        rw [List.filterMap_cons_none none, essential_cons_of_skipped skipped, ih]
      · obtain ⟨named, noDot⟩ := not_or.mp skipped
        have some : component? segment = some (Component.ofSegment segment) := by
          simp only [component?, named, noDot, decide_false, Bool.or_self, Bool.false_eq_true,
            if_false, Component.ofSegment]
          split <;> rfl
        rw [List.filterMap_cons_some some, essential_cons_of_kept named noDot, ih, List.map_cons]

/-- What stands in front of the segments of a path: the root, a dot, or nothing. -/
def lead (path : String) : List Component :=
  if isAbsolute path then [.root] else if startsWithDot path then [.current] else []

def Component.isLead : Component → Bool
  | .root | .current => true
  | .parent | .name _ => false

theorem components_eq (path : String) :
    components path = lead path ++ (essential (segments path)).map Component.ofSegment := by
  rw [← filterMap_component?, components, lead, startsWithDot]
  simp only [decide_eq_true_eq]

theorem takeWhile_components (path : String) :
    (components path).takeWhile Component.isLead = lead path ∧
      (components path).dropWhile Component.isLead =
        (essential (segments path)).map Component.ofSegment := by
  have isLead : ∀ component ∈ lead path, component.isLead = true := by
    unfold lead
    split
    · simp [Component.isLead]
    · split <;> simp [Component.isLead]
  have inner : ∀ component ∈ (essential (segments path)).map Component.ofSegment,
      component.isLead = false := by
    intro component isMember
    obtain ⟨segment, -, rfl⟩ := List.mem_map.mp isMember
    unfold Component.ofSegment
    split <;> rfl
  rw [components_eq]
  cases body : (essential (segments path)).map Component.ofSegment with
  | nil => simpa using isLead
  | cons first rest =>
      have stops : first.isLead = false := inner first (by simp [body])
      constructor
      · rw [List.takeWhile_append_of_pos isLead, List.takeWhile_cons_of_neg (by simp [stops]),
          List.append_nil]
      · rw [List.dropWhile_append_of_pos isLead, List.dropWhile_cons_of_neg (by simp [stops])]

theorem not_startsWithDot_of_isAbsolute {path : String} (absolute : isAbsolute path = true) :
    startsWithDot path = false := by
  unfold isAbsolute at absolute
  cases chars : path.toList with
  | nil => simp [chars] at absolute
  | cons c cs =>
      obtain rfl : c = '/' := by simpa [chars] using absolute
      cases tail : segmentChars cs <;> simp [startsWithDot, segments, chars, segmentChars, tail]

theorem lead_eq_iff (first second : String) :
    lead first = lead second ↔
      isAbsolute first = isAbsolute second ∧ startsWithDot first = startsWithDot second := by
  have noDot : ∀ path, isAbsolute path = true → startsWithDot path = false :=
    fun _ => not_startsWithDot_of_isAbsolute
  have firstDot := noDot first
  have secondDot := noDot second
  unfold lead
  cases absolute : isAbsolute first with
  | true => cases absolute' : isAbsolute second <;> grind
  | false => cases absolute' : isAbsolute second <;> grind

/-- Two paths are the same when they are spelled alike without dots and agree about a dot in
front. -/
theorem same_iff (first second : String) :
    same first second = true ↔
      SameWithoutDots first second ∧ startsWithDot first = startsWithDot second := by
  obtain ⟨firstLead, firstNames⟩ := takeWhile_components first
  obtain ⟨secondLead, secondNames⟩ := takeWhile_components second
  rw [same, decide_eq_true_eq]
  constructor
  · intro same
    have leads : lead first = lead second := by rw [← firstLead, ← secondLead, same]
    have names : (essential (segments first)).map Component.ofSegment =
        (essential (segments second)).map Component.ofSegment := by
      rw [← firstNames, ← secondNames, same]
    obtain ⟨base, dots⟩ := (lead_eq_iff first second).mp leads
    exact ⟨⟨base, List.map_injective_iff.mpr Component.ofSegment_injective names⟩, dots⟩
  · rintro ⟨⟨base, names⟩, dots⟩
    rw [components_eq, components_eq, (lead_eq_iff first second).mpr ⟨base, dots⟩, names]

/-! ## Extensions -/

theorem segmentChars_ne_nil (path : List Char) : segmentChars path ≠ [] := by
  induction path with
  | nil => nofun
  | cons c path ih =>
      rw [segmentChars]
      split
      · nofun
      · split <;> nofun

/-- Whether what stands before the first slash of a path is a dot. -/
def DotFirst (path : List Char) : Prop :=
  path.takeWhile (· != '/') = ['.']

theorem startsWithDot_iff (path : String) :
    startsWithDot path = true ↔ DotFirst path.toList := by
  have head : (segmentChars path.toList).head? = some (path.toList.takeWhile (· != '/')) := by
    induction path.toList with
    | nil => rfl
    | cons c path ih =>
        obtain ⟨segment, rest, parts⟩ := List.exists_cons_of_ne_nil (segmentChars_ne_nil path)
        rw [parts, List.head?_cons, Option.some.injEq] at ih
        by_cases slash : c = '/' <;> simp [segmentChars, parts, slash, ih]
  rw [startsWithDot, segments, List.head?_map, head, Option.map_some, decide_eq_true_eq,
    Option.some.injEq]
  constructor
  · intro same
    simpa [DotFirst] using congrArg String.toList same
  · intro dot
    rw [show path.toList.takeWhile (· != '/') = ['.'] from dot]

theorem takeWhile_ne_slash {name : List Char} (plain : '/' ∉ name) :
    ∀ c ∈ name, (c != '/') = true := by
  intro c isMember
  simpa using ne_of_mem_of_not_mem isMember plain

/-- What stands behind a directory does not matter to the first segment. -/
theorem dotFirst_of_slashed {directory : List Char} (slashed : '/' ∈ directory)
    (first second : List Char) :
    DotFirst (directory ++ first) ↔ DotFirst (directory ++ second) := by
  obtain ⟨before, rest, rfl, early⟩ := List.eq_append_cons_of_mem slashed
  simp [DotFirst, List.takeWhile_append_of_pos (takeWhile_ne_slash early)]

theorem not_dotFirst_of_long {name : List Char} (plain : '/' ∉ name) (long : 2 ≤ name.length)
    (rest : List Char) : ¬DotFirst (name ++ rest) := by
  intro dot
  rw [DotFirst, List.takeWhile_append_of_pos (takeWhile_ne_slash plain)] at dot
  have lengths := congrArg List.length dot
  simp only [List.length_append, List.length_singleton] at lengths
  omega

/-- A path ends in a file name, which stands behind a directory and may have slashes and dots behind
it. The directory is empty or set off by a slash, and so is what stands behind the name. -/
structure EndsIn (path directory name tail : List Char) : Prop where
  split : path = directory ++ (name ++ tail)
  trimmed : trimmed path = directory ++ name
  slashed : '/' ∈ directory ∨ directory = []
  plain : '/' ∉ name
  tail : tail = [] ∨ ∃ rest, tail = '/' :: rest
  named : name ≠ []
  noDot : name ≠ ['.']

theorem skipTail_spec (path : List Char) :
    ∃ tail, path = tail ++ skipTail path ∧ (tail = [] ∨ ∃ before, tail = before ++ ['/']) := by
  induction path using skipTail.induct with
  | case1 rest ih =>
      obtain ⟨tail, split, ends⟩ := ih
      refine ⟨'/' :: tail, by rw [skipTail, List.cons_append, ← split], .inr ?_⟩
      obtain rfl | ⟨before, rfl⟩ := ends
      · exact ⟨[], rfl⟩
      · exact ⟨'/' :: before, rfl⟩
  | case2 rest ih =>
      obtain ⟨tail, split, ends⟩ := ih
      refine ⟨'.' :: '/' :: tail, by rw [skipTail, List.cons_append, List.cons_append, ← split],
        .inr ?_⟩
      obtain rfl | ⟨before, rfl⟩ := ends
      · exact ⟨['.'], rfl⟩
      · exact ⟨'.' :: '/' :: before, rfl⟩
  | case3 path => exact ⟨[], by rw [skipTail, List.nil_append] <;> assumption, .inl rfl⟩

theorem exists_endsIn {path name : List Char} (found : fileName? path = some name) :
    ∃ directory tail, EndsIn path directory name tail := by
  obtain ⟨tail, split, ends⟩ := skipTail_spec path.reverse
  generalize rest : skipTail path.reverse = kept at split
  have cut := List.takeWhile_append_dropWhile (p := (· != '/')) (l := kept)
  rw [fileName?, rest] at found
  split at found
  · cases found
  rename_i isName
  simp only [Bool.or_eq_true, decide_eq_true_eq, not_or] at isName
  cases found
  refine ⟨(kept.dropWhile (· != '/')).reverse, tail.reverse, ?_, ?_, ?_, ?_, ?_, isName.1.1,
    isName.1.2⟩
  · rw [← List.reverse_append, ← List.reverse_append, List.append_assoc, cut, ← split,
      List.reverse_reverse]
  · rw [trimmed, rest, ← List.reverse_append, cut]
  · cases dropped : kept.dropWhile (· != '/') with
    | nil => exact .inr rfl
    | cons c others =>
        have stop := List.head?_dropWhile_not (· != '/') kept
        exact .inl (by simp [show c = '/' by simpa [dropped] using stop])
  · intro isMember
    simpa using List.mem_takeWhile_imp (List.mem_reverse.mp isMember)
  · obtain rfl | ⟨before, rfl⟩ := ends
    · exact .inl rfl
    · exact .inr ⟨before.reverse, by simp⟩

theorem stem_ne_nil {name : List Char} (nonempty : name ≠ []) : stem name ≠ [] := by
  unfold stem
  split
  · exact nonempty
  · rename_i found
    simpa using found

theorem mem_of_mem_stem {name : List Char} {c : Char} (isMember : c ∈ stem name) : c ∈ name := by
  unfold stem at isMember
  split at isMember
  · exact isMember
  · have dropped := List.mem_of_mem_drop (List.mem_reverse.mp isMember)
    exact List.mem_reverse.mp ((List.dropWhile_sublist _).subset dropped)

theorem dotFirst_setExtension (extension path : List Char) :
    DotFirst (setExtension extension path) ↔ DotFirst path := by
  unfold setExtension
  split
  · rfl
  rename_i name found
  obtain ⟨directory, tail, ends⟩ := exists_endsIn found
  have taken : (trimmed path).take ((trimmed path).length - name.length) = directory := by
    simp [ends.trimmed]
  rw [taken, ends.split, List.append_assoc]
  obtain slashed | rfl := ends.slashed
  · exact dotFirst_of_slashed slashed _ _
  · -- Neither the name nor its stem with a dot behind it is a dot.
    have plainStem : '/' ∉ stem name ++ ['.'] := by
      simpa using fun isMember => ends.plain (mem_of_mem_stem isMember)
    have long : 2 ≤ (stem name ++ ['.']).length := by
      have isLong := List.length_pos_of_ne_nil (stem_ne_nil ends.named)
      simp only [List.length_append, List.length_singleton]
      omega
    have notBefore : ¬DotFirst (name ++ tail) := by
      intro dot
      rw [DotFirst, List.takeWhile_append_of_pos (takeWhile_ne_slash ends.plain)] at dot
      obtain rfl | ⟨rest, rfl⟩ := ends.tail
      · exact ends.noDot (by simpa using dot)
      · exact ends.noDot (by simpa using dot)
    have notAfter := not_dotFirst_of_long plainStem long extension
    simp only [List.append_assoc, List.singleton_append] at notAfter
    exact iff_of_false notAfter notBefore

/-- Cutting off as much as the extension has leaves the first segment what it is, or too long to be
a dot. -/
theorem dotFirst_take (path : List Char) :
    DotFirst (path.take (path.length - extensionSize path)) ↔ DotFirst path := by
  rw [extensionSize]
  split
  · rw [Nat.sub_zero, List.take_length]
  rename_i name found
  obtain ⟨directory, tail, ends⟩ := exists_endsIn found
  have isLong := List.length_pos_of_ne_nil (stem_ne_nil ends.named)
  by_cases short : name.length ≤ (stem name).length + 1
  · rw [Nat.sub_eq_zero_of_le short, Nat.sub_zero, List.take_length]
  have lengths := congrArg List.length ends.split
  simp only [List.length_append] at lengths
  have enough : directory.length + 2 ≤ path.length - (name.length - ((stem name).length + 1)) := by
    omega
  generalize path.length - (name.length - ((stem name).length + 1)) = size at enough
  rw [ends.split, List.take_append, List.take_of_length_le (by omega)]
  obtain slashed | rfl := ends.slashed
  · exact dotFirst_of_slashed slashed _ _
  · have plainTaken : '/' ∉ name.take size := fun isMember =>
      ends.plain (List.mem_of_mem_take isMember)
    have long : 2 ≤ (name.take size).length := by
      rw [List.length_take]
      simp only [List.length_nil] at enough
      omega
    have notAfter := not_dotFirst_of_long plainTaken long (tail.take (size - name.length))
    have notBefore := not_dotFirst_of_long ends.plain (by omega) tail
    rw [List.nil_append, List.nil_append, List.length_nil, Nat.sub_zero, List.take_append]
    exact iff_of_false notAfter notBefore

/-- Replacing the extension of a path neither adds nor removes a dot in front. -/
theorem startsWithDot_withExtension (extension path : String) :
    startsWithDot (withExtension extension path) = startsWithDot path := by
  rw [Bool.eq_iff_iff, startsWithDot_iff, startsWithDot_iff, withExtension, String.toList_ofList]
  exact (dotFirst_setExtension _ _).trans (dotFirst_take _)

end Path

/-! ## Places -/

namespace FileStore

variable {store : FileStore} {location place : Location}

theorem walk_append (first second : List String) :
    store.walk location (first ++ second) =
      match store.walk location first with
      | .error fault => .error fault
      | .ok place => store.walk place second := by
  induction first generalizing location with
  | nil => rfl
  | cons segment first ih =>
      simp only [List.cons_append, walk]
      cases store.step location segment with
      | error fault => rfl
      | ok next => exact ih

/-- A step that is taken without a name to go to, or with a dot, stays where it is. -/
theorem step_of_skipped {segment : String} (skipped : segment = "" ∨ segment = ".")
    (arrives : store.step location segment = .ok place) : place = location := by
  rw [step] at arrives
  rcases skipped with rfl | rfl <;> grind

/-- A walk that arrives does so without the empty segments and the dots on its way. -/
theorem walk_essential {segments : List String}
    (arrives : store.walk location segments = .ok place) :
    store.walk location (Path.essential segments) = .ok place := by
  induction segments generalizing location with
  | nil => exact arrives
  | cons segment rest ih =>
      rw [walk] at arrives
      cases stepped : store.step location segment with
      | error fault => simp [stepped] at arrives
      | ok next =>
          simp only [stepped] at arrives
          by_cases skipped : segment = "" ∨ segment = "."
          · rw [Path.essential_cons_of_skipped skipped, ← step_of_skipped skipped stepped]
            exact ih arrives
          · obtain ⟨named, noDot⟩ := not_or.mp skipped
            rw [Path.essential_cons_of_kept named noDot, walk, stepped]
            exact ih arrives

theorem walk_of_locate {path : String} (found : store.locate path = .ok place) :
    store.walk (Location.startOf path) (Path.segments path) = .ok place := by
  rw [locate] at found
  split at found
  · cases found
  · exact found

theorem walk_to_directory {segments : List String}
    (arrives : store.walk location (segments ++ [""]) = .ok place) :
    store.isDirectory place = true ∧
      store.walk location (Path.essential segments) = .ok place := by
  rw [walk_append] at arrives
  cases walked : store.walk location segments with
  | error fault => simp [walked] at arrives
  | ok reached =>
      simp only [walked, walk, step] at arrives
      split at arrives
      · cases arrives
      · rename_i next stepped
        split_ifs at stepped with isDirectory
        cases stepped
        cases arrives
        exact ⟨isDirectory, walk_essential walked⟩

/-- A place for writing lies in its directory, which a walk enters from. -/
theorem walk_of_targetIn {last : String} {slash : Bool}
    (isDirectory : store.isDirectory location = true) (named : last ≠ "")
    (target : store.targetIn location last slash = .ok place) :
    store.walk location (Path.essential [last]) = .ok place := by
  rw [targetIn] at target
  cases locked : store.locked? location with
  | some fault => simp [locked] at target
  | none =>
      simp only [locked] at target
      split_ifs at target with stays long taken
      cases target
      obtain ⟨noDot, noParent⟩ : last ≠ "." ∧ last ≠ ".." := by simp_all
      rw [Path.essential_cons_of_kept named noDot, Path.essential_nil]
      simp [walk, step, isDirectory, locked, named, noDot, noParent, long]

/-- The place that a path names for writing is where the path leads. -/
theorem walk_of_target {path : String} (target : store.target path = .ok place) :
    store.walk (Location.startOf path) (Path.essential (Path.segments path)) = .ok place := by
  unfold FileStore.target at target
  dsimp only at target
  split at target
  · cases target
  · cases target
  · rename_i last before _ stripped
    have split : Path.segments path = before.reverse ++
        last :: ((Path.segments path).reverse.takeWhile (· == "")).reverse := by
      have parts := List.takeWhile_append_dropWhile
        (p := (· == "")) (l := (Path.segments path).reverse)
      rw [stripped] at parts
      simpa using (congrArg List.reverse parts).symm
    have trailing : Path.essential
        ((Path.segments path).reverse.takeWhile (· == "")).reverse = [] := by
      refine List.filter_eq_nil_iff.mpr fun segment isMember => ?_
      have empty := List.mem_takeWhile_imp (List.mem_reverse.mp isMember)
      simp [beq_iff_eq.mp empty]
    have named : last ≠ "" := by
      have stop := List.head?_dropWhile_not (· == "") (Path.segments path).reverse
      simpa [stripped] using stop
    cases walked : store.walk (Location.startOf path) (before.reverse ++ [""]) with
    | error fault => simp [walked] at target
    | ok directory =>
        simp only [walked] at target
        obtain ⟨isDirectory, reached⟩ := walk_to_directory walked
        rw [split, Path.essential_append, ← List.singleton_append, Path.essential_append, trailing,
          List.append_nil, walk_append, reached]
        exact walk_of_targetIn isDirectory named target

/-- Paths that are alike without dots lead to one place, whether for reading or for writing. -/
theorem locate_eq_of_target {output input source : String}
    (same : Path.SameWithoutDots output input) (read : store.read input = .ok source)
    (target : store.target output = .ok place) : store.locate input = .ok place := by
  cases located : store.locate input with
  | error fault => simp [FileStore.read, located] at read
  | ok found =>
      have start : Location.startOf output = Location.startOf input := by
        rw [Location.startOf, Location.startOf, same.base]
      have walked := walk_essential (walk_of_locate located)
      rw [← same.names, ← start, walk_of_target target] at walked
      exact walked.symm

end FileStore

end StructuredShell
