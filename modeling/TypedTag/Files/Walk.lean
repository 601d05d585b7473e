import TypedTag.Files.Tree

/-! # Walking through directories

A walk lists what is at a path and below it. Links are followed. One that leads to a directory above
itself is a loop, one that leads nowhere is a fault, and either way the walk goes on after it.
-/

namespace TypedTag.Files

/-- Something met on a walk, by the path that leads to it from the start of the walk. -/
structure Entry where
  path : String
  isFile : Bool
  deriving DecidableEq, Repr

inductive WalkError
  | unreachable (path : String) (fault : Fault)
  | loop (path ancestor : String)
  deriving DecidableEq, Repr

def WalkError.message : WalkError → String
  | .unreachable path fault => s!"IO error for operation on {path}: {fault.message}"
  | .loop path ancestor => s!"File system loop found: {path} points to an ancestor {ancestor}"

abbrev WalkStep := Except WalkError Entry

namespace Tree

/-- Looks a directory up again by its path, to list what is in it. -/
def openDirectory (t : Tree) (path : String) : Except Fault Unit := do
  t.permit .list (← t.locate .target path)

/-- The steps of a walk from a location on. The directories above are given by path and location,
the nearest first. Directories and links need their path from the start of the walk, and a file is
met without it. -/
def walkFrom (t : Tree) : Nat → List (String × Location) → String → Location → List WalkStep
  | 0, _, _, _ => []
  | depth + 1, above, path, place =>
    let enter (place : Location) : List WalkStep :=
      .ok ⟨path, false⟩ :: match t.openDirectory path with
        | .error fault => [.error (.unreachable path fault)]
        | .ok () => (t.children place).flatMap fun name =>
          walkFrom t depth ((path, place) :: above) (Path.join path name) (place ++ [name])
    match t.node? place with
    | none => [.error (.unreachable path .notFound)]
    | some (.file _) => [.ok ⟨path, true⟩]
    | some .device => [.ok ⟨path, false⟩]
    | some .directory => enter place
    | some (.link _) =>
      match t.find .target path with
      | .error fault => [.error (.unreachable path fault)]
      | .ok (_, .file _) => [.ok ⟨path, true⟩]
      | .ok (_, .device) => [.ok ⟨path, false⟩]
      | .ok (target, _) =>
        match above.find? (·.2 = target) with
        | some (ancestor, _) => [.error (.loop path ancestor)]
        | none => enter target

/-- The steps of a walk from a path on. It is never inside of `maxPath` directories at once, since
each has a longer path than the one above it. -/
def walk (t : Tree) (path : String) : List WalkStep :=
  match t.find .entry path with
  | .error fault => [.error (.unreachable path fault)]
  | .ok (place, _) => t.walkFrom maxPath [] path place

end Tree

end TypedTag.Files
