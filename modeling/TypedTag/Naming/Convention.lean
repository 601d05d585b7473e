import TypedTag.Naming.Words
import TypedTag.Text.CaseMap

/-! # Naming conventions

A definition's name is kept as it is or written in Pascal case. In Pascal case the underscores of
the name either stay, with the pieces between them converted one by one, or separate words like any
other sign.
-/

namespace TypedTag.Naming

open Text

inductive Convention
  | pascalCase
  | keep
  deriving DecidableEq, Repr

def capitalize : List Char → List Char
  | [] => []
  | c :: cs => upperCase c ++ cs.flatMap lowerCase

/-- A word inside a name. One that starts with a digit is set off by an underscore. -/
def innerWord : List Char → List Char
  | [] => []
  | c :: cs => if c.isDigit then '_' :: c :: cs.flatMap lowerCase else capitalize (c :: cs)

def inPascalCase (name : List Char) : List Char :=
  match words name with
  | [] => []
  | w :: ws => capitalize w ++ ws.flatMap innerWord

def Convention.apply (convention : Convention) (dropUnderscores : Bool) (name : String) :
    String :=
  match convention with
  | .keep => name
  | .pascalCase =>
    if dropUnderscores then String.ofList (inPascalCase name.toList)
    else String.ofList (['_'].intercalate ((name.toList.splitOn '_').map inPascalCase))

end TypedTag.Naming
