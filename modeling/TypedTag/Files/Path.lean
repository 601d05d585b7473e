import TypedTag.Text.Split

/-! # Paths

A path is a text with slashes between names. Only its parts matter when a file is looked up, but the
text is kept for messages, and the parent of a path is the front part of its text. All names are
taken as UTF-8 text: a path or a name of other octets has no form here.
-/

namespace TypedTag.Files

open Text

namespace Path

def names (path : String) : List String :=
  ((path.toList.splitOn '/').filter (!·.isEmpty)).map String.ofList

def isAbsolute (path : String) : Bool :=
  path.toList.head? = some '/'

def endsWithSlash (path : String) : Bool :=
  path.toList.getLast? = some '/'

/-- The names to follow. A slash at the end counts as an empty name, which asks for a directory as
the name of the current one does. -/
def steps (path : String) : List String :=
  names path ++ if endsWithSlash path then [""] else []

/-- Drops slashes and names of the current directory from the end, given the reversed text. The
first name of a path is not dropped. -/
def trimmed : List Char → List Char
  | '/' :: cs => if cs.isEmpty then ['/'] else trimmed cs
  | '.' :: '/' :: cs => trimmed ('/' :: cs)
  | cs => cs

/-- The reversed text of the parent. The root and the empty path have none. -/
def parentReversed? (reversed : List Char) : Option (List Char) :=
  match trimmed reversed with
  | [] | ['/'] => none
  | cs => some (trimmed (cs.dropWhile (· ≠ '/')))

theorem length_trimmed_le (cs : List Char) : (trimmed cs).length ≤ cs.length := by
  fun_induction trimmed cs with
  | case1 => simp_all
  | case2 cs h ih => simp only [List.length_cons]; omega
  | case3 cs ih => simp only [List.length_cons] at ih ⊢; omega
  | case4 => exact Nat.le_refl _

theorem trimmed_head_ne {cs ds : List Char} (h : trimmed cs = '/' :: ds) : ds = [] := by
  fun_induction trimmed cs with
  | case1 => simp_all
  | case2 cs hc ih => exact ih h
  | case3 cs ih => exact ih h
  | case4 cs h1 h2 => exact (h1 ds h).elim

theorem length_parentReversed_lt {cs ds : List Char} (h : parentReversed? cs = some ds) :
    ds.length < cs.length := by
  unfold parentReversed? at h
  split at h
  · simp at h
  · simp at h
  · rename_i h1 h2
    simp only [Option.some.injEq] at h
    subst h
    refine Nat.lt_of_le_of_lt (length_trimmed_le _) (Nat.lt_of_lt_of_le ?_ (length_trimmed_le cs))
    match hc : trimmed cs with
    | [] => exact (h1 hc).elim
    | c :: es =>
      have hne : c ≠ '/' := by
        rintro rfl
        exact h2 (by rw [hc, trimmed_head_ne hc])
      rw [List.dropWhile_cons_of_pos (by simpa using hne)]
      exact Nat.lt_succ_of_le (List.dropWhile_suffix _).length_le

/-- The reversed texts of a path and of all directories above it that its text names. -/
def ancestorsReversed (reversed : List Char) : List (List Char) :=
  match _h : parentReversed? reversed with
  | some parent => if parent.isEmpty then [reversed] else reversed :: ancestorsReversed parent
  | none => [reversed]
termination_by reversed.length
decreasing_by exact length_parentReversed_lt _h

def parent? (path : String) : Option String :=
  (parentReversed? path.toList.reverse).map fun cs => String.ofList cs.reverse

/-- The path and the directories above it, from the longest text to the shortest. -/
def ancestors (path : String) : List String :=
  (ancestorsReversed path.toList.reverse).map fun cs => String.ofList cs.reverse

def join (directory name : String) : String :=
  if directory.isEmpty || endsWithSlash directory then directory ++ name
  else directory ++ "/" ++ name

def lastName (cs : List Char) : List Char :=
  match splitLast? (· = '/') cs with
  | some (_, name) => name
  | none => cs

/-- What follows the last dot of the last name, unless the name starts with that dot. -/
def extension? (path : String) : Option String :=
  match splitLast? (· = '.') (lastName path.toList) with
  | some (stem, extension) => if stem.isEmpty then none else some (String.ofList extension)
  | none => none

end Path

end TypedTag.Files
