import StructuredShell.Shell.Name

/-!
# Name tables

A name table gives every source name a shell name of its own. A name is entered when it is first
translated and keeps its shell name from then on. A source name that can stand in shell code stays
as it is; every other one is put into the form of a word, marked and, if that form is taken,
numbered.
-/

set_option autoImplicit false

namespace StructuredShell

/-- The source names translated so far, each with its shell name, in the order of first use. -/
structure NameTable where
  entries : List (String × String)

namespace NameTable

def empty : NameTable := ⟨[]⟩

def get? (table : NameTable) (name : String) : Option String :=
  table.entries.lookup name

def size (table : NameTable) : Nat :=
  table.entries.length

def isEmpty (table : NameTable) : Bool :=
  table.entries.isEmpty

def taken (table : NameTable) : List String :=
  table.entries.map Prod.snd

/-- The entries whose shell name differs from the source name, in the order of first use. -/
def renamed (table : NameTable) : List (String × String) :=
  table.entries.filter fun (source, shell) => source != shell

/-! ## Choosing a shell name -/

/-- The form of a source name that is marked as renamed. It is always a word. -/
def marked (name : String) : String :=
  "p_" ++ String.ofList (name.toList.map fun c => if Text.continuesWord c then c else '_')

def numbered (base : String) (number : Nat) : String :=
  base ++ "_" ++ number.repr

/-- The first numbered name, from a given number on, that is not taken. A taken candidate stands for
one entry of the list and for no later candidate, so the search is over when the list is. -/
def firstFree (base : String) (number : Nat) (taken : List String) : String :=
  let candidate := numbered base number
  if candidate ∈ taken then firstFree base (number + 1) (taken.erase candidate) else candidate
termination_by taken.length
decreasing_by
  rename_i isTaken
  have positive := List.length_pos_of_mem isTaken
  rw [List.length_erase_of_mem isTaken]
  omega

def isFree (table : NameTable) (name : String) : Bool :=
  Shell.isDefinable name && !table.taken.contains name

/-- The shell name for a source name that has none: the name itself, else its marked form, else the
first free number of that form. A numbered form is always definable, so only the names in use are
in its way. -/
def choose (table : NameTable) (name : String) : String :=
  if table.isFree name then name
  else if table.isFree (marked name) then marked name
  else firstFree (marked name) 2 table.taken

/-- Translate a source name, which enters it into the table on first use. -/
def translate (table : NameTable) (name : String) : String × NameTable :=
  match table.get? name with
  | some shell => (shell, table)
  | none =>
    let shell := table.choose name
    (shell, ⟨table.entries ++ [(name, shell)]⟩)

def translateAll (table : NameTable) (names : List String) : NameTable :=
  names.foldl (fun table name => (table.translate name).2) table

/-- The shell name of a source name. A name that was never translated stands for itself. -/
def shellName (table : NameTable) (name : String) : String :=
  (table.get? name).getD name

end NameTable

end StructuredShell
