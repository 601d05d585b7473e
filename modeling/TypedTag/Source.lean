import TypedTag.Json.Printer
import TypedTag.Json.Record

/-! # Document sources

A source pairs the literal text at a call of the tag function with the symbol of the first named
definition in it. The text is the key under which the document is found, white space included.
-/

namespace TypedTag

structure Source where
  text : String
  definition : String
  deriving DecidableEq, Repr

namespace Source

open Json

def record : Record Source where
  name := "DocumentSource"
  fields :=
    [⟨"rawText", .text (·.text) fun t s => { s with text := t }⟩,
     ⟨"primaryDefinitionName", .text (·.definition) fun d s => { s with definition := d }⟩]
  required := true
  start := ⟨"", ""⟩

def listToJson (sources : List Source) : Value :=
  .array (sources.map record.encode)

end Source

end TypedTag
