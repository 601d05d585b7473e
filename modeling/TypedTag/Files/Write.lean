import TypedTag.Files.Tree

/-! # Making and writing

What is made has a location of its own at first. What is written to a file is then read at all of
its locations, and what is written to a device is sent there. A file is made or emptied before
anything is written to it, so a text that does not fit leaves only its front part.
-/

namespace TypedTag.Files

def Node.number : Node → Nat
  | .file number => number
  | _ => 0

namespace Tree

def put (t : Tree) (place : Location) (node : Node) : Tree :=
  { t with nodes := t.nodes.filter (·.1 ≠ place) ++ [(place, node)] }

def setContent (t : Tree) (number : Nat) (content : ByteArray) : Tree :=
  { t with contents := fun n => if n = number then content else t.contents n }

def freshNumber (t : Tree) : Nat :=
  (t.nodes.map (·.2.number)).foldr max 0 + 1

/-- The place of something new: an existing directory, and the last name of the path in it. -/
def newPlace (t : Tree) (path : String) : Except Fault Location := do
  checkPath path
  match (Path.names path).getLast? with
  | none => throw .alreadyExists
  | some name =>
    let above ← t.follow maxLinks .target (t.start path) ((Path.names path).dropLast ++ [""])
    t.permit .enter above
    if name = "." ∨ name = ".." then throw .alreadyExists
    if maxName < name.utf8ByteSize then throw .nameTooLong
    if (t.node? (above ++ [name])).isSome then throw .alreadyExists
    t.permit .make above
    return above ++ [name]

def makeDirectory (t : Tree) (path : String) : Except Fault Tree :=
  (t.newPlace path).map (t.put · .directory)

def makeLink (t : Tree) (target path : String) : Except Fault Tree :=
  (t.newPlace path).map (t.put · (.link target))

/-- Makes the first of the directories after those that follow it in the list. What was made stays
when a later one fails. -/
def makeAll (t : Tree) : List String → Tree × Option Fault
  | [] => (t, none)
  | path :: above =>
    match t.makeDirectory path with
    | .ok t => (t, none)
    | .error .notFound =>
      match t.makeAll above with
      | (t, some fault) => (t, some fault)
      | (t, none) =>
        match t.makeDirectory path with
        | .ok t => (t, none)
        | .error fault => (t, if t.isDirectory path then none else some fault)
    | .error fault => (t, if t.isDirectory path then none else some fault)

def makeDirectories (t : Tree) (path : String) : Tree × Option Fault :=
  t.makeAll (Path.ancestors path)

/-- Opens what a path leads to so that it can be written. There is then an empty file or a device. A
link is followed and never written itself. -/
def create (t : Tree) (path : String) : Except Fault (Tree × Location) := do
  let place ← t.locate .newFile path
  match t.node? place with
  | none =>
    t.permit .make place.dropLast
    return ((t.put place (.file t.freshNumber)).setContent t.freshNumber .empty, place)
  | some (.file number) =>
    t.permit .write place
    return (t.setContent number .empty, place)
  | some .device =>
    t.permit .write place
    return (t, place)
  | some .directory => throw .isDirectory
  | some (.link _) => throw .tooManyLinks

def append (t : Tree) (place : Location) (octets : ByteArray) : Tree :=
  match t.node? place with
  | some (.file number) => t.setContent number (t.contents number ++ octets)
  | some .device => { t with sent := t.sent ++ [(place, octets)] }
  | _ => t

/-- The front part of some octets that there is room for at a location. -/
def fitting (t : Tree) (place : Location) (octets : ByteArray) : ByteArray × Option Fault :=
  match t.room place with
  | some (room, fault) =>
    if room < octets.size then (octets.extract 0 room, some fault) else (octets, none)
  | none => (octets, none)

/-- Writes a file, which is made if nothing is there and emptied if it exists, or sends to a device.
What was written stays when there is no room for the rest. -/
def write (t : Tree) (path : String) (content : ByteArray) : Tree × Option Fault :=
  match t.create path with
  | .error fault => (t, some fault)
  | .ok (t, place) =>
    let (octets, fault) := t.fitting place content
    (t.append place octets, fault)

end Tree

/-- What has to be done to files to get from a tree to a later one. -/
inductive Change
  | makeDirectory (place : Location)
  | write (place : Location) (octets : ByteArray)

/-- What was made, written and sent since an earlier tree. -/
def Tree.changes (t later : Tree) : List Change :=
  later.nodes.filterMap (fun (place, node) =>
    match node with
    | .directory =>
      if t.nodes.lookup place = some .directory then none else some (.makeDirectory place)
    | .file number =>
      let content := later.contents number
      if t.nodes.lookup place = some node && t.contents number == content then none
      else some (.write place content)
    | .link _ | .device => none) ++
  (later.sent.drop t.sent.length).map fun (place, octets) => .write place octets

end TypedTag.Files
