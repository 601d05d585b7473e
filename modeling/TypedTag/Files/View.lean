import TypedTag.Files.Walk

/-! # Views of files

What the search for documents wants to know about files: what a walk meets, where a path leads in
the end, and what a file says.
-/

namespace TypedTag.Files

structure FileView where
  walk : String → List WalkStep
  canonical : String → Except Fault Location
  isFile : String → Bool
  read : String → Except ReadError String

def Tree.view (t : Tree) : FileView :=
  ⟨t.walk, t.canonical, t.isFile, t.read⟩

end TypedTag.Files
