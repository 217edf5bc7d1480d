import StructuredShell.CommandLine.Path

/-!
# File stores

A file store holds the files that a run can see, by their place. A place is counted from the
working directory, from a directory above it, or from the root. Directories exist as far as files
lie in them; those on the way up, the root and a few directories of the root are always there.

On its way a path follows links. Looking up, reading and writing may each be refused by the system,
and writing may fail when it has begun. A place that is a device passes on what is written to it, to
a stream of the run or nowhere.
-/

set_option autoImplicit false

namespace StructuredShell

/-- An error of the operating system, in its words and by its number. -/
structure SystemFault where
  text : String
  number : Nat
deriving DecidableEq

namespace SystemFault

def missing : SystemFault :=
  ⟨"No such file or directory", 2⟩

def outOfMemory : SystemFault :=
  ⟨"Cannot allocate memory", 12⟩

def denied : SystemFault :=
  ⟨"Permission denied", 13⟩

def notDirectory : SystemFault :=
  ⟨"Not a directory", 20⟩

def isDirectory : SystemFault :=
  ⟨"Is a directory", 21⟩

def noSpace : SystemFault :=
  ⟨"No space left on device", 28⟩

def nameTooLong : SystemFault :=
  ⟨"File name too long", 36⟩

def message (fault : SystemFault) : String :=
  fault.text ++ " (os error " ++ fault.number.repr ++ ")"

end SystemFault

inductive FileFault where
  | system (fault : SystemFault)
  | notText
  | other (message : String)
deriving DecidableEq

def FileFault.message : FileFault → String
  | system fault => fault.message
  | notText => "stream did not contain valid UTF-8"
  | other message => message

def utf8Bytes (text : String) : List UInt8 :=
  text.toList.flatMap String.utf8EncodeChar

/-- What a file holds: a text, or bytes that are no text. -/
inductive Contents where
  | text (value : String)
  | binary (bytes : List UInt8)
deriving DecidableEq

def Contents.ofBytes (bytes : List UInt8) : Contents :=
  match String.fromUTF8? ⟨bytes.toArray⟩ with
  | some value => .text value
  | none => .binary bytes

def Contents.asText : Contents → Except FileFault String
  | text value => .ok value
  | binary _ => .error .notText

/-! ## Places -/

inductive Base where
  | above (steps : Nat)
  | root
deriving DecidableEq

/-- A place: the names on the way down from its base. -/
structure Location where
  base : Base
  names : List String
deriving DecidableEq

namespace Location

def working : Location :=
  ⟨.above 0, []⟩

def root : Location :=
  ⟨.root, []⟩

def ofPath (path : String) : Location :=
  ⟨.above 0, (Path.segments path).filter fun segment => segment != "" && segment != "."⟩

def startOf (path : String) : Location :=
  if Path.isAbsolute path then root else working

def child (location : Location) (name : String) : Location :=
  ⟨location.base, location.names ++ [name]⟩

/-- The place one step up. The root is its own parent. -/
def parent (location : Location) : Location :=
  match location.base, location.names with
  | .above steps, [] => ⟨.above (steps + 1), []⟩
  | base, names => ⟨base, names.dropLast⟩

/-- Whether a place is a directory whatever files there are: the working directory and those above
it, the root, and its directories for devices and for temporary files. -/
def isStanding (location : Location) : Bool :=
  location.names.isEmpty ||
    location.base = .root && [["dev"], ["tmp"]].contains location.names

def isBelow (location directory : Location) : Bool :=
  location.base = directory.base && directory.names.isPrefixOf location.names &&
    directory.names.length < location.names.length

def isInside (location : Location) : Bool :=
  location.isBelow working

def shown (location : Location) : String :=
  String.intercalate "/" location.names

end Location

/-! ## Stores -/

def maxNameSize : Nat := 255

def maxPathSize : Nat := 4095

/-- What writing to a place comes to, where the place is no file that takes everything. -/
inductive Sink where
  /-- The place cannot be opened. -/
  | closed (fault : SystemFault)
  /-- A file that takes so many bytes and no more, as on a disk that is nearly full. -/
  | limited (size : Nat) (fault : SystemFault)
  /-- A device that takes everything and keeps nothing. -/
  | nowhere
  /-- A device that takes nothing. -/
  | failing (fault : SystemFault)
  | stdout
  | stderr
deriving DecidableEq

def Sink.isDevice : Sink → Bool
  | closed _ | limited .. => false
  | nowhere | failing _ | stdout | stderr => true

/-- Files by their place, with what the system does about places besides: which other place a link
leads to, where text that is written goes, which places cannot be read, and which directories
nothing can be looked up in. -/
structure FileStore where
  files : List (Location × Contents)
  follow : Location → Location := fun location => location
  sink? : Location → Option Sink := fun _ => none
  unreadable? : Location → Option SystemFault := fun _ => none
  locked? : Location → Option SystemFault := fun _ => none

namespace FileStore

def devices : List (Location × Sink) :=
  [(⟨.root, ["dev", "null"]⟩, .nowhere),
    (⟨.root, ["dev", "full"]⟩, .failing .noSpace),
    (⟨.root, ["dev", "stdout"]⟩, .stdout),
    (⟨.root, ["dev", "stderr"]⟩, .stderr)]

/-- The store of a machine with some files and no links. Everything can be read and written, and the
devices are empty but for the full one, which has no end. -/
def ofFiles (files : List (Location × Contents)) : FileStore where
  files := files ++ devices.map fun (device, _) => (device, .text "")
  sink? location := devices.lookup location
  unreadable? location := if location = ⟨.root, ["dev", "full"]⟩ then some .outOfMemory else none

def file? (store : FileStore) (location : Location) : Option Contents :=
  store.files.lookup location

def isDirectory (store : FileStore) (location : Location) : Bool :=
  location.isStanding || store.files.any fun (file, _) => file.isBelow location

/-! ### Places of paths -/

/-- One step of a walk. An empty segment, as between two slashes, only asks for a directory. -/
def step (store : FileStore) (location : Location) (segment : String) :
    Except SystemFault Location :=
  if store.isDirectory location then
    if segment = "" then .ok location
    else
      match store.locked? location with
      | some fault => .error fault
      | none =>
        if segment = "." then .ok location
        else if segment = ".." then .ok location.parent
        else if maxNameSize < segment.utf8ByteSize then .error .nameTooLong
        else .ok (store.follow (location.child segment))
  else if (store.file? location).isSome then .error .notDirectory
  else .error .missing

def walk (store : FileStore) : Location → List String → Except SystemFault Location
  | location, [] => .ok location
  | location, segment :: rest =>
    match store.step location segment with
    | .error fault => .error fault
    | .ok next => store.walk next rest

def pathFault? (path : String) : Option SystemFault :=
  if path = "" then some .missing
  else if maxPathSize < path.utf8ByteSize then some .nameTooLong
  else none

def locate (store : FileStore) (path : String) : Except SystemFault Location :=
  match pathFault? path with
  | some fault => .error fault
  | none => store.walk (Location.startOf path) (Path.segments path)

/-- The place of a file to be written, by the directory that the path leads to and the last segment
that is not empty. A slash after that segment asks for a directory. -/
def targetIn (store : FileStore) (directory : Location) (last : String) (slash : Bool) :
    Except SystemFault Location :=
  match store.locked? directory with
  | some fault => .error fault
  | none =>
    if slash || last = "." || last = ".." then .error .isDirectory
    else if maxNameSize < last.utf8ByteSize then .error .nameTooLong
    else
      let place := store.follow (directory.child last)
      if store.isDirectory place then .error .isDirectory else .ok place

/-- The place that a path names for writing. Its directory must be there, and it must not be a
directory itself. -/
def target (store : FileStore) (path : String) : Except SystemFault Location :=
  let segments := Path.segments path
  match pathFault? path, segments.reverse.dropWhile (· == "") with
  | some fault, _ => .error fault
  | none, [] => .error .isDirectory
  | none, last :: before =>
    -- The empty segment makes the walk end in a directory.
    match store.walk (Location.startOf path) (before.reverse ++ [""]) with
    | .error fault => .error fault
    | .ok directory => store.targetIn directory last (segments.getLast? = some "")

/-! ### Reading -/

def readAt (store : FileStore) (location : Location) : Except FileFault String :=
  match store.unreadable? location with
  | some fault => .error (.system fault)
  | none =>
    if store.isDirectory location then .error (.system .isDirectory)
    else
      match store.file? location with
      | none => .error (.system .missing)
      | some contents => contents.asText

def read (store : FileStore) (path : String) : Except FileFault String :=
  match store.locate path with
  | .error fault => .error (.system fault)
  | .ok location => store.readAt location

/-! ### Writing -/

/-- The store with a file replaced, or added if it was not there. -/
def put (store : FileStore) (location : Location) (contents : Contents) : FileStore :=
  { store with
    files := (location, contents) :: store.files.filter fun (file, _) => file != location }

/-- What comes of writing: whether everything was taken, the store that is left, and what went to
the streams of the run. -/
structure Written where
  result : Except SystemFault Unit
  store : FileStore
  stdout : String := ""
  stderr : String := ""

/-- Write to a place. Opening a file empties it, so a file that does not take everything is left
with a beginning of the text, whatever it held before. -/
def writeAt (store : FileStore) (location : Location) (text : String) : Written :=
  match store.sink? location with
  | none => { result := .ok (), store := store.put location (.text text) }
  | some (.closed fault) => { result := .error fault, store := store }
  | some (.limited size fault) =>
    if (utf8Bytes text).length ≤ size then
      { result := .ok (), store := store.put location (.text text) }
    else
      let kept := Contents.ofBytes ((utf8Bytes text).take size)
      { result := .error fault, store := store.put location kept }
  | some .nowhere => { result := .ok (), store := store }
  | some (.failing fault) =>
    if text = "" then { result := .ok (), store := store }
    else { result := .error fault, store := store }
  | some .stdout => { result := .ok (), store := store, stdout := text }
  | some .stderr => { result := .ok (), store := store, stderr := text }

def write (store : FileStore) (path text : String) : Written :=
  match store.target path with
  | .error fault => { result := .error fault, store := store }
  | .ok location => store.writeAt location text

/-- The files in the working directory whose contents are not those they had before. -/
def changes (store before : FileStore) : List (Location × Contents) :=
  store.files.filter fun (location, contents) =>
    location.isInside && before.file? location != some contents

end FileStore

end StructuredShell
