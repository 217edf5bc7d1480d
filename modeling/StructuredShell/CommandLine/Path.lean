/-!
# Paths

Paths as they are typed. Two spellings are the same path when they have the same components, which
is less than naming the same file: a leading `.` counts, and no directory is looked up.
-/

set_option autoImplicit false

namespace StructuredShell.Path

/-- The segments of a path between slashes. There is always at least one, and segments may be
empty. -/
def segmentChars : List Char → List (List Char)
  | [] => [[]]
  | c :: cs =>
    match segmentChars cs with
    | [] => [[c]]
    | segment :: rest => if c = '/' then [] :: segment :: rest else (c :: segment) :: rest

def segments (path : String) : List String :=
  (segmentChars path.toList).map String.ofList

def isAbsolute (path : String) : Bool :=
  path.toList.head? == some '/'

/-! ## Components -/

inductive Component where
  | root
  | current
  | parent
  | name (text : String)
deriving DecidableEq

def component? (segment : String) : Option Component :=
  if segment = "" || segment = "." then none
  else if segment = ".." then some .parent
  else some (.name segment)

/-- The components of a path. Empty segments and `.` are skipped, except for a `.` in front. -/
def components (path : String) : List Component :=
  let head :=
    if isAbsolute path then [.root]
    else if (segments path).head? = some "." then [.current]
    else []
  head ++ (segments path).filterMap component?

def same (first second : String) : Bool :=
  components first = components second

/-! ## Extensions -/

/-- A reversed path without the slashes and dots at its end that lead nowhere. -/
def skipTail : List Char → List Char
  | '/' :: rest => skipTail rest
  | '.' :: '/' :: rest => skipTail rest
  | path => path

/-- A path up to the end of its last segment that counts. -/
def trimmed (path : List Char) : List Char :=
  (skipTail path.reverse).reverse

/-- The file name that a path ends in, if it does not end in the root or in dots. -/
def fileName? (path : List Char) : Option (List Char) :=
  let name := ((skipTail path.reverse).takeWhile (· != '/')).reverse
  if name = [] || name = ['.'] || name = ['.', '.'] then none else some name

/-- The part of a file name before its last dot. A dot in front starts the name and no extension. -/
def stem (name : List Char) : List Char :=
  match (name.reverse.dropWhile (· != '.')).drop 1 with
  | [] => name
  | kept => kept.reverse

def extensionSize (path : List Char) : Nat :=
  match fileName? path with
  | none => 0
  | some name => name.length - ((stem name).length + 1)

/-- A path that is cut behind the stem of its file name, with an extension put there. A path without
a file name stays as it is. -/
def setExtension (extension path : List Char) : List Char :=
  match fileName? path with
  | none => path
  | some name =>
    (trimmed path).take ((trimmed path).length - name.length) ++ stem name ++ '.' :: extension

/-- A path with the extension of its file name replaced, or added if there is none. As many
characters as the old extension has are first cut off the end, even where slashes stand behind it.
What is left of a name with the stem `.` may be `..`, which is no file name and takes no
extension. -/
def withExtension (extension path : String) : String :=
  let size := path.toList.length - extensionSize path.toList
  String.ofList (setExtension extension.toList (path.toList.take size))

end StructuredShell.Path
