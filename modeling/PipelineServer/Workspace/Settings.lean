import PipelineServer.Json.Basic
import PipelineServer.Path

/-!
Settings the editor sends.
-/

namespace PipelineServer.Settings

/-- The group of settings that holds the classpath. -/
def groupKey : String := "groovy"

/-- The name of the classpath inside its group. -/
def classpathKey : String := "classpath"

/-- An entry of the classpath: strings, and numbers and truth values as text. -/
def entry? : Json → Option String
  | .text value => some value
  | .number n => some n.render
  | .bool true => some "true"
  | .bool false => some "false"
  | _ => none

/-- The classpath of a settings payload. A payload that is no object means nothing; one without a
classpath means an empty one. -/
def classpath? (settings : Json) : Option (List String) :=
  match settings with
  | .object _ =>
      match ((settings.get? groupKey).bind fun g => g.get? classpathKey).bind Json.items? with
      | some entries => some (entries.filterMap entry?)
      | none => some []
  | _ => none

end PipelineServer.Settings

namespace PipelineServer

/-- Options of the request that starts the server. -/
structure StartOptions where
  outputDirectory : Option String := none
  classpath : Option (List String) := none
deriving DecidableEq, Repr, Inhabited

namespace StartOptions

/-- A value that may be absent: nothing stands for a value of the wrong kind. -/
def optional? {α : Type} (read : Json → Option α) : Option Json → Option (Option α)
  | none | some .null => some none
  | some value => (read value).map some

/-- A list of strings. -/
def strings? (value : Json) : Option (List String) :=
  value.items?.bind fun items => items.mapM Json.string?

/-- The options in the two values; nothing if one is of the wrong kind. -/
def read? (outputDirectory classpath : Option Json) : Option StartOptions :=
  (optional? Json.string? outputDirectory).bind fun directory =>
    (optional? strings? classpath).map fun entries => ⟨directory, entries⟩

/-- The options of a value: an object by names, or a list by position. Whatever does not fit as a
whole counts as no options. -/
def ofJson : Option Json → StartOptions
  | some (.object members) =>
      (read? (Json.member? members "outputDirectory") (Json.member? members "classpath")).getD {}
  | some (.array items) =>
      if 2 < items.length then {} else (read? items[0]? items[1]?).getD {}
  | _ => {}

end StartOptions

end PipelineServer
