import QueryKit.Cache.Json
import QueryKit.Engine.Config
import QueryKit.Json.Reader
import QueryKit.Json.Writer
import QueryKit.Optimizer.Json
import QueryKit.Statement.Json

/-!
# Configuration files

An engine configuration as a JSON file. Loading reads UTF-8, parses the text and
checks the configuration; saving writes it indented. What a path leads to is
given by its owner.
-/

namespace QueryKit

/-- What a path leads to. -/
inductive FileTarget where
  /-- No file, in a directory that does not exist. -/
  | missing
  /-- No file, in a directory that exists. -/
  | vacant
  | directory
  | file (content : ByteArray)

namespace EngineConfig

/-- The names of the fields of an engine configuration. -/
def fieldNames : List String := ["cache", "statements", "optimizer", "default_space"]

/-- The document of an engine configuration. -/
def toJson (config : EngineConfig) : Json :=
  Json.record
    [("cache", config.cache.toJson), ("statements", config.statements.toJson),
      ("optimizer", config.optimizer.toJson), ("default_space", Json.text config.defaultSpace)]

/-- The engine configuration of a document; missing fields have their defaults. -/
def ofJson? (document : Json) : Option EngineConfig := do
  let fields ← Json.Fields.of? fieldNames document
  let cache ← fields.withDefault "cache" CacheConfig.ofJson? standard.cache
  let statements ← fields.withDefault "statements" StatementConfig.ofJson? standard.statements
  let optimizer ← fields.withDefault "optimizer" OptimizerConfig.ofJson? standard.optimizer
  let defaultSpace ← fields.withDefault "default_space" Json.text? standard.defaultSpace
  some ⟨cache, statements, optimizer, defaultSpace⟩

/-- The text of what a path leads to. -/
def readText : FileTarget → Except FileError String
  | .missing | .vacant => .error .notFound
  | .directory => .error .isDirectory
  | .file content =>
    match String.fromUTF8? content with
    | some text => .ok text
    | none => .error .invalidUtf8

/-- The configuration in a text. -/
def parse (text : String) : Except LoadError EngineConfig :=
  match (Json.read? text).bind ofJson? with
  | none => .error .json
  | some config =>
    match config.validate with
    | .error cause => .error (.config cause)
    | .ok _ => .ok config

/-- Loads the configuration that a path leads to. -/
def load (target : FileTarget) : Except LoadError EngineConfig :=
  match readText target with
  | .error cause => .error (.file cause)
  | .ok text => parse text

/-- The text of the file that a configuration is saved as. -/
def savedText (config : EngineConfig) : String := config.toJson.indented

/-- Saves a configuration over what a path leads to. A file is made where there is none, but
no directory is. -/
def save (config : EngineConfig) : FileTarget → Except LoadError FileTarget
  | .missing => .error (.file .notFound)
  | .directory => .error (.file .isDirectory)
  | .vacant | .file _ => .ok (.file config.savedText.toUTF8)

end EngineConfig

end QueryKit
