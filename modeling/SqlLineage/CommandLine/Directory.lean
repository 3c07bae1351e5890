/-!
# Directories

The files, directories and links that a run can see.  A path stands for a place, the names on the
way from the root: two paths may lead to one place, from the working directory or from the root,
through `..` or through a link, and what is written along one of them is read along the other.  A
place may let itself be read but not written, or written but not read.
-/

namespace SqlLineage.CommandLine

/-- What a file holds. -/
inductive Content where
  | text (text : String)
  /-- Bytes that are no text. -/
  | bytes
  deriving DecidableEq, Repr

/-- Why something cannot be read or written. -/
inductive FileFault where
  | missing
  /-- A file stands where a directory is needed. -/
  | notDirectory
  /-- A directory stands where a file is needed. -/
  | isDirectory
  | notText
  | denied
  /-- Links lead on to links without end. -/
  | tooManyLinks
  /-- Anything else, in the words of the system. -/
  | other (words : String)
  deriving DecidableEq, Repr

/-- The words for a fault. -/
def FileFault.message : FileFault → String
  | .missing => "No such file or directory (os error 2)"
  | .notDirectory => "Not a directory (os error 20)"
  | .isDirectory => "Is a directory (os error 21)"
  | .notText => "stream did not contain valid UTF-8"
  | .denied => "Permission denied (os error 13)"
  | .tooManyLinks => "Too many levels of symbolic links (os error 40)"
  | .other words => words

/-- What can be wanted of a place: to read it, to write it, or to pass through it. -/
inductive Access where
  | read
  | write
  | search
  deriving DecidableEq, Repr

/-! ## Paths -/

/-- The names on the way from the root to a file or a directory. -/
abbrev Place := List String

/-- Where a name leads to from a place, if it is no link. -/
def Place.enter (place : Place) (name : String) : Place :=
  if name = "." then place else if name = ".." then place.dropLast else place ++ [name]

/-- The names between the slashes of a path. -/
def pathNames (path : String) : List String :=
  ((path.toList.splitOn '/').map String.ofList).filter (· ≠ "")

/-- Whether a path starts at the root. -/
def isAbsolute (path : String) : Bool :=
  path.toList.head? = some '/'

/-- Whether a path says that it leads to a directory. -/
def endsInSlash (path : String) : Bool :=
  path.toList.getLast? = some '/'

/-- The names to walk along for a path.  What a slash comes after has to be a directory. -/
def walkedNames (path : String) : List String :=
  if endsInSlash path then pathNames path ++ ["."] else pathNames path

/-- The names to walk along before the last name of a path. -/
def parentNames (path : String) : List String :=
  (pathNames path).dropLast ++ ["."]

/-! ## Directories -/

/-- A place that refuses a kind of access. -/
structure Refusal where
  access : Access
  path : String
  fault : FileFault
  deriving DecidableEq, Repr

/-- What a run can see.  Paths are listed without a link in them and may start at the home of the
run, which is its working directory.  What lies above anything listed is a directory. -/
structure Directory where
  files : List (String × Content) := []
  /-- Directories that need no file in them. -/
  folders : List String := []
  /-- Second names, with the paths that they stand for. -/
  links : List (String × String) := []
  refusals : List Refusal := []
  home : String := "/"
  /-- The files that have been written since, the last one first. -/
  written : List (Place × String) := []
  deriving DecidableEq, Repr

namespace Directory

variable (directory : Directory)

/-- The place of the working directory. -/
def homePlace : Place :=
  (pathNames directory.home).foldl Place.enter []

/-- The place where a path starts that is found at a place. -/
def startFrom (place : Place) (path : String) : Place :=
  if isAbsolute path then [] else place

/-- The place of a path without a link in it. -/
def placeOf (path : String) : Place :=
  (pathNames path).foldl Place.enter (startFrom directory.homePlace path)

/-- What is listed for a place. -/
def listed? {α : Type} (entries : List (String × α)) (place : Place) : Option α :=
  (entries.find? (fun entry => directory.placeOf entry.1 == place)).map (·.2)

/-- What the file at a place holds. -/
def content? (place : Place) : Option Content :=
  match directory.written.lookup place with
  | some text => some (.text text)
  | none => directory.listed? directory.files place

/-- The path that a link at a place stands for. -/
def link? (place : Place) : Option String :=
  directory.listed? directory.links place

/-- Why a place refuses an access. -/
def refusal? (access : Access) (place : Place) : Option FileFault :=
  (directory.refusals.find? (fun refusal =>
    refusal.access = access && directory.placeOf refusal.path == place)).map Refusal.fault

/-- Whether there is a directory at a place. -/
def isDirectory (place : Place) : Bool :=
  place.isPrefixOf directory.homePlace
    || directory.folders.any (fun path => place.isPrefixOf (directory.placeOf path))
    || directory.files.any (fun entry => place.isPrefixOf (directory.placeOf entry.1).dropLast)
    || directory.links.any (fun entry => place.isPrefixOf (directory.placeOf entry.1).dropLast)

/-- Why a place cannot be passed through. -/
def obstacle? (place : Place) : Option FileFault :=
  if directory.isDirectory place then directory.refusal? .search place
  else if (directory.content? place).isSome then some .notDirectory
  else some .missing

/-- Walks along names, as far as a link. -/
def walkNames (follow : Place → List String → Except FileFault Place) :
    Place → List String → Except FileFault Place
  | place, [] => .ok place
  | place, name :: rest =>
    match directory.obstacle? place with
    | some fault => .error fault
    | none =>
      match directory.link? (place.enter name) with
      | some target => follow (startFrom place target) (walkedNames target ++ rest)
      | none => walkNames follow (place.enter name) rest

/-- Walks along names, and along so many links. -/
def walk : Nat → Place → List String → Except FileFault Place
  | 0 => directory.walkNames (fun _ _ => .error .tooManyLinks)
  | links + 1 => directory.walkNames (walk links)

/-- The links that a walk may follow. -/
def maxLinks : Nat := 40

/-- Walks along names from where a path starts. -/
def walkFor (path : String) (names : List String) : Except FileFault Place :=
  directory.walk maxLinks (startFrom directory.homePlace path) names

/-- The place that a path leads to.  There need not be anything yet. -/
def locate (path : String) : Except FileFault Place :=
  if path = "" then .error .missing else directory.walkFor path (walkedNames path)

/-- Whether anything stands at a place. -/
def stands (place : Place) : Bool :=
  directory.isDirectory place || (directory.content? place).isSome

/-- Whether a path leads to anything. -/
def has (path : String) : Bool :=
  match directory.locate path with
  | .ok place => directory.stands place
  | .error _ => false

/-- The text at a place. -/
def readAt (place : Place) : Except FileFault String :=
  if !directory.stands place then .error .missing
  else match directory.refusal? .read place with
    | some fault => .error fault
    | none =>
      if directory.isDirectory place then .error .isDirectory
      else match directory.content? place with
        | some (.text text) => .ok text
        | _ => .error .notText

/-- The text of the file that a path leads to. -/
def read (path : String) : Except FileFault String := do
  directory.readAt (← directory.locate path)

/-- Why a place cannot be written: what is there may refuse it, and so may the directory that a new
file is to be in. -/
def writeRefusal? (place : Place) : Option FileFault :=
  match directory.content? place with
  | some _ => directory.refusal? .write place
  | none => (directory.refusal? .write place.dropLast).or (directory.refusal? .write place)

/-- Gives the file at a place a text. -/
def writeAt (place : Place) (text : String) : Except FileFault Directory :=
  if directory.isDirectory place then .error .isDirectory
  else match directory.writeRefusal? place with
    | some fault => .error fault
    | none => .ok { directory with written := (place, text) :: directory.written }

/-- Gives the file that a path leads to a text.  A file that is not there yet is created if there is
a directory for it; a path that ends in a slash leads to no file. -/
def write (path text : String) : Except FileFault Directory := do
  if endsInSlash path then
    let _ ← directory.walkFor path (parentNames path)
    throw .isDirectory
  else directory.writeAt (← directory.locate path) text

end Directory

end SqlLineage.CommandLine
