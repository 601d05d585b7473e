import TypedTag.Files.Path
import TypedTag.Text.Quoted
import TypedTag.Text.Utf8

/-! # File trees

A tree of files, directories, symbolic links and devices. Everything in it has a location, the names
on the way from the root, and many paths may lead there. A file may have several locations. Paths
are followed from the working directory, and at most 40 links are followed on the way.
-/

namespace TypedTag.Files

open Text

abbrev Location := List String

/-- What is at a location. All locations with the same number hold the same file. Pipes and sockets
count as devices: they take what is written to them and keep no text. -/
inductive Node
  | file (number : Nat)
  | directory
  | link (target : String)
  | device
  deriving DecidableEq

inductive Fault
  | notFound
  | inputOutput
  | denied
  | alreadyExists
  | notDirectory
  | isDirectory
  | noSpace
  | nameTooLong
  | tooManyLinks
  | nulCharacter
  deriving DecidableEq, Repr

def Fault.message : Fault → String
  | .notFound => "No such file or directory (os error 2)"
  | .inputOutput => "Input/output error (os error 5)"
  | .denied => "Permission denied (os error 13)"
  | .alreadyExists => "File exists (os error 17)"
  | .notDirectory => "Not a directory (os error 20)"
  | .isDirectory => "Is a directory (os error 21)"
  | .noSpace => "No space left on device (os error 28)"
  | .nameTooLong => "File name too long (os error 36)"
  | .tooManyLinks => "Too many levels of symbolic links (os error 40)"
  | .nulCharacter => "file name contained an unexpected NUL byte"

def Location.path (place : Location) : String :=
  "/" ++ "/".intercalate place

/-- The length that a path must not reach, in octets. -/
def maxPath : Nat := 4096

/-- The largest length of a name, in octets. -/
def maxName : Nat := 255

def maxLinks : Nat := 40

/-- Refuses the texts that lead nowhere in any tree. -/
def checkText (path : String) : Except Fault Unit :=
  if path.toList.contains '\x00' then .error .nulCharacter
  else if path.isEmpty then .error .notFound
  else .ok ()

/-- Refuses the texts that are no path. -/
def checkPath (path : String) : Except Fault Unit := do
  checkText path
  if maxPath ≤ path.utf8ByteSize then throw .nameTooLong

/-- What a path is wanted for. It may mean a link as such, or what the link leads to, or a file that
is made if it is missing. Such a file cannot be asked for with a slash at the end. Or the location
itself is wanted, and then every location on the way must have a path that is short enough. -/
inductive Aim
  | entry
  | target
  | newFile
  | location
  deriving DecidableEq, Repr

/-- Tells whether a name is too long, or the path of its location where the location is wanted. -/
def Aim.exceeded (aim : Aim) (here : Location) (name : String) : Bool :=
  maxName < name.utf8ByteSize ||
    aim = .location && maxPath ≤ (Location.path (here ++ [name])).utf8ByteSize

/-- What may be wanted of something. A directory is entered to look names up in it. -/
inductive Access
  | enter
  | list
  | make
  | read
  | write
  deriving DecidableEq, Repr

/-- What there is to know of files besides the files themselves: where paths start, what is refused,
and at which locations there is no room for more than so many octets. -/
structure Conditions where
  workingDirectory : Location := []
  refusal : Access → Location → Option Fault := fun _ _ => none
  room : Location → Option (Nat × Fault) := fun _ => none

/-- The root is a directory without being listed. A location is listed at most once. What devices
were sent is kept in the order of sending. -/
structure Tree extends Conditions where
  nodes : List (Location × Node) := []
  contents : Nat → ByteArray := fun _ => .empty
  sent : List (Location × ByteArray) := []

namespace Tree

def node? (t : Tree) (place : Location) : Option Node :=
  if place.isEmpty then some .directory else t.nodes.lookup place

def permit (t : Tree) (access : Access) (place : Location) : Except Fault Unit :=
  match t.refusal access place with
  | some fault => .error fault
  | none => .ok ()

/-- Why a name cannot be looked up in a directory. An empty name only asks for the directory. -/
def lookupFault? (t : Tree) (here : Location) (name : String) : Option Fault :=
  if name = "" then none else t.refusal .enter here

def children (t : Tree) (place : Location) : List String :=
  t.nodes.filterMap fun (p, _) => if p.dropLast = place then p.getLast? else none

/-- The location that names lead to from a directory, by way of at most the given number of links.
The last name may be missing there. -/
def follow (t : Tree) (links : Nat) (aim : Aim) (here : Location) :
    List String → Except Fault Location
  | [] => .ok here
  | name :: names =>
    match t.node? here with
    | some .directory =>
      match t.lookupFault? here name with
      | some fault => .error fault
      | none =>
        if name = "" ∨ name = "." then follow t links aim here names
        else if name = ".." then follow t links aim here.dropLast names
        else if aim = .newFile ∧ names = [""] then .error .isDirectory
        else if aim.exceeded here name then .error .nameTooLong
        else match t.node? (here ++ [name]) with
          | none => if names.isEmpty then .ok (here ++ [name]) else .error .notFound
          | some (.link target) =>
            if names.isEmpty ∧ aim = .entry then .ok (here ++ [name])
            else match links with
              | 0 => .error .tooManyLinks
              | links + 1 =>
                let start := if Path.isAbsolute target then [] else here
                follow t links aim start (Path.steps target ++ names)
          | some _ => follow t links aim (here ++ [name]) names
    | _ => .error .notDirectory
termination_by names => (links, names.length)

def start (t : Tree) (path : String) : Location :=
  if Path.isAbsolute path then [] else t.workingDirectory

/-- The location of a path, where nothing may be yet. -/
def locate (t : Tree) (aim : Aim) (path : String) : Except Fault Location := do
  checkPath path
  t.follow maxLinks aim (t.start path) (Path.steps path)

/-- What is at a location, which may be nothing. -/
def present (t : Tree) (place : Location) : Except Fault (Location × Node) :=
  match t.node? place with
  | some node => .ok (place, node)
  | none => .error .notFound

def find (t : Tree) (aim : Aim) (path : String) : Except Fault (Location × Node) := do
  t.present (← t.locate aim path)

/-- The location of something that exists, with all links followed. The path is taken name by name
and may be of any length, but all locations on the way must have a path themselves. -/
def canonical (t : Tree) (path : String) : Except Fault Location := do
  checkText path
  let place ← t.follow maxLinks .location (t.start path) (Path.steps path)
  checkPath place.path
  return (← t.present place).1

def file? (t : Tree) (path : String) : Option (Location × Nat) :=
  match t.find .target path with
  | .ok (place, .file number) => some (place, number)
  | _ => none

def content? (t : Tree) (path : String) : Option ByteArray :=
  (t.file? path).map (t.contents ·.2)

def isFile (t : Tree) (path : String) : Bool :=
  (t.file? path).isSome

def isDirectory (t : Tree) (path : String) : Bool :=
  match t.find .target path with
  | .ok (_, .directory) => true
  | _ => false

end Tree

inductive ReadError
  | notFile (path : String)
  | unreadable (path : String) (fault : Fault)
  | notText (path : String) (fault : Utf8Fault)
  deriving DecidableEq, Repr

def ReadError.message : ReadError → String
  | .notFile path => quoted path ++ " is not a file"
  | .unreadable path fault => "Failed to read " ++ quoted path ++ ": " ++ fault.message
  | .notText path fault => "Failed to decode " ++ quoted path ++ " as UTF-8: " ++ fault.message

def Tree.read (t : Tree) (path : String) : Except ReadError String :=
  match t.file? path with
  | none => .error (.notFile path)
  | some (place, number) => do
    (t.permit .read place).mapError (.unreadable path)
    (decodeUtf8 (t.contents number)).mapError (.notText path)

end TypedTag.Files
