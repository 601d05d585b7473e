import TypedTag.Document.Token

/-! # The grammar of documents

What a document still has to contain is a list of goals. The next token decides how the first goal
goes on. Some goals may be met by nothing, and then the token is left to the goal after them.
-/

namespace TypedTag.Document

inductive Goal
  | firstDefinition
  | moreDefinitions
  | operationName
  | fragmentName
  | name
  | word (text : String)
  | mark (text : String)
  | variables
  | variableDefinition
  | moreVariables
  | variableDefault
  | typeRef
  | nonNull
  | directives
  | arguments
  | argument
  | moreArguments
  | selectionSet
  | subselections
  | selection
  | moreSelections
  | alias
  | spread
  | value (constant : Bool)
  | moreItems (constant : Bool)
  | moreFields (constant : Bool)
  deriving DecidableEq, Repr

namespace Goal

/-- The goals that need no token. -/
def isOptional : Goal → Bool
  | .operationName | .variables | .variableDefault | .nonNull | .directives | .arguments
  | .subselections | .alias => true
  | _ => false

/-- The goals with which a document may end. -/
def mayEnd (g : Goal) : Bool :=
  g.isOptional || g = .moreDefinitions

def definition (kind : TokenKind) (text : String) : Option (List Goal) :=
  match kind, text with
  | .punctuator, "\x7b" => some [.selection, .moreSelections]
  | .name, "query" | .name, "mutation" | .name, "subscription" =>
    some [.operationName, .variables, .directives, .selectionSet]
  | .name, "fragment" => some [.fragmentName, .word "on", .name, .directives, .selectionSet]
  | _, _ => none

def selectionStart (kind : TokenKind) (text : String) : Option (List Goal) :=
  match kind, text with
  | .name, _ => some [.alias, .arguments, .directives, .subselections]
  | .punctuator, "..." => some [.spread]
  | _, _ => none

def valueStart (constant : Bool) (kind : TokenKind) (text : String) : Option (List Goal) :=
  match kind, text with
  | .punctuator, "$" => if constant then none else some [.name]
  | .punctuator, "[" => some [.moreItems constant]
  | .punctuator, "\x7b" => some [.moreFields constant]
  | .punctuator, _ => none
  | _, _ => some []

/-- What is left of a goal after a token that it starts with. -/
def after? (kind : TokenKind) (text : String) (g : Goal) : Option (List Goal) :=
  match g, kind, text with
  | .firstDefinition, _, _ | .moreDefinitions, _, _ =>
    (definition kind text).map (· ++ [.moreDefinitions])
  | .operationName, .name, _ | .fragmentName, .name, _ | .name, .name, _ => some []
  | .word w, .name, t => if t = w then some [] else none
  | .mark m, .punctuator, t => if t = m then some [] else none
  | .variables, .punctuator, "(" => some [.variableDefinition, .moreVariables]
  | .variableDefinition, .punctuator, "$" => some [.name, .mark ":", .typeRef, .variableDefault]
  | .moreVariables, .punctuator, "$" =>
    some [.name, .mark ":", .typeRef, .variableDefault, .moreVariables]
  | .moreVariables, .punctuator, ")" => some []
  | .variableDefault, .punctuator, "=" => some [.value true]
  | .typeRef, .name, _ => some [.nonNull]
  | .typeRef, .punctuator, "[" => some [.typeRef, .mark "]", .nonNull]
  | .nonNull, .punctuator, "!" => some []
  | .directives, .punctuator, "@" => some [.name, .arguments, .directives]
  | .arguments, .punctuator, "(" => some [.argument, .moreArguments]
  | .argument, .name, _ => some [.mark ":", .value false]
  | .moreArguments, .name, _ => some [.mark ":", .value false, .moreArguments]
  | .moreArguments, .punctuator, ")" => some []
  | .selectionSet, .punctuator, "\x7b" | .subselections, .punctuator, "\x7b" =>
    some [.selection, .moreSelections]
  | .selection, _, _ => selectionStart kind text
  | .moreSelections, .punctuator, "\x7d" => some []
  | .moreSelections, _, _ => (selectionStart kind text).map (· ++ [.moreSelections])
  | .alias, .punctuator, ":" => some [.name]
  | .spread, .name, t =>
    some (if t = "on" then [.name, .directives, .selectionSet] else [.directives])
  | .spread, .punctuator, "@" => some [.name, .arguments, .directives, .selectionSet]
  | .spread, .punctuator, "\x7b" => some [.selection, .moreSelections]
  | .value constant, _, _ => valueStart constant kind text
  | .moreItems _, .punctuator, "]" => some []
  | .moreItems constant, _, _ =>
    (valueStart constant kind text).map (· ++ [.moreItems constant])
  | .moreFields _, .punctuator, "\x7d" => some []
  | .moreFields constant, .name, _ =>
    some [.mark ":", .value constant, .moreFields constant]
  | _, _, _ => none

def isDefinition : Goal → Bool
  | .firstDefinition | .moreDefinitions => true
  | _ => false

/-- Tells whether a goal takes a token for a value, or for the first part of one. -/
def takesValue : Goal → Bool
  | .value _ | .moreItems _ => true
  | _ => false

end Goal

def take? (t : Token) : List Goal → Option (Goal × List Goal)
  | [] => none
  | g :: gs =>
    match g.after? t.kind t.text with
    | some rest => some (g, rest ++ gs)
    | none => if g.isOptional then take? t gs else none

end TypedTag.Document
