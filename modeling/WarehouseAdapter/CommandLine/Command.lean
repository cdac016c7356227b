import WarehouseAdapter.Config.Document
import WarehouseAdapter.Csv
import WarehouseAdapter.Json.QueryCodec

/-!
# Commands

Three commands: show the schema of a table descriptor, infer the schema of a file of
comma-separated records, and show the wire form of a parameter. The configuration is read before
anything else, and the first failure ends a command.
-/

namespace WarehouseAdapter

/-- A command; `F` stands for files, given by their paths or by what they hold. -/
inductive Command (F : Type)
  | importTable (descriptor : F)
  | infer (csv : F) (lenient keepNulls : Bool) (overrides : List String)
  | bind (name type value : String)
deriving Repr

structure Invocation (F : Type) where
  config : Option F
  command : Command F
deriving Repr

/-- What a file holds, if it exists. -/
abbrev FileContent := Option String

inductive CommandError
  | missingFile
  | configuration
  | document
  | unevenRecord (index found expected : Nat)
  | overrideText (text : String)
  | schema (error : SchemaError)
  | binding (error : BindingError)
  | warehouse (error : WarehouseError)
deriving DecidableEq, Repr

def CommandError.message : CommandError → String
  | missingFile => "No such file or directory (os error 2)"
  | configuration => SchemaError.configuration.message
  | document => "Invalid JSON document"
  | unevenRecord index found expected =>
    s!"record {index} has {found} fields, expected {expected}"
  | overrideText text => s!"override '{text}' is not NAME=TYPE"
  | schema error => error.message
  | binding error => error.message
  | warehouse error => error.message

namespace Command

def content : FileContent → Except CommandError String
  | some text => .ok text
  | none => .error .missingFile

def readDescriptor (source : String) : Except CommandError TableDescriptor :=
  match TableDescriptor.ofText? source with
  | some t => .ok t
  | none => .error .document

def readValue (source : String) : Except CommandError Value :=
  match Value.ofText? source with
  | some v => .ok v
  | none => .error .document

/-- The reference and the schema of a described table. -/
def importText (descriptor : FileContent) : Except CommandError String := do
  let t ← readDescriptor (← content descriptor)
  let s ← (importSchema t).mapError .warehouse
  return t.reference.text ++ "\n" ++ s.text ++ "\n"

/-- A column and the type given for it, around the first equals sign. -/
def readOverride (text : String) : Except CommandError (String × DataType) :=
  match text.toList.dropWhile (· != '=') with
  | [] => .error (.overrideText text)
  | _ :: t => do
    let t ← (DataType.parse (trimmed (String.ofList t))).mapError .schema
    return (trimmed (String.ofList (text.toList.takeWhile (· != '='))), t)

def inferenceOptions (config : Config) (lenient keepNulls : Bool) (overrides : List String) :
    Except CommandError InferOptions := do
  let o := config.inferOptions
  let o := { o with
    strict := o.strict && !lenient
    aggressiveNull := o.aggressiveNull && !keepNulls }
  return (← overrides.mapM readOverride).foldl (fun o p => o.override p.1 p.2) o

def readTable (source : String) : Except CommandError Frame :=
  match Csv.table source with
  | .ok (names, rows) => (Frame.ofRows names rows).mapError .schema
  | .error fault => .error (.unevenRecord fault.index fault.found fault.expected)

def inferText (config : Config) (csv : FileContent) (lenient keepNulls : Bool)
    (overrides : List String) : Except CommandError String := do
  let o ← inferenceOptions config lenient keepNulls overrides
  let f ← readTable (← content csv)
  let s ← (inferSchema f o).mapError .schema
  return s.text ++ "\n"

def bindText (name type value : String) : Except CommandError String := do
  let t ← (DataType.parse type).mapError .schema
  let v ← readValue value
  let b ← (bindParameter name t v).mapError .binding
  return b.toJson.prettyText ++ "\n"

/-- What a command prints. -/
def run (config : Config) : Command FileContent → Except CommandError String
  | importTable descriptor => importText descriptor
  | infer csv lenient keepNulls overrides => inferText config csv lenient keepNulls overrides
  | bind name type value => bindText name type value

end Command

/-- Exit code and texts of a finished program. -/
structure Output where
  exitCode : UInt8
  out : String
  err : String
deriving DecidableEq, Repr

def Output.ofResult : Except CommandError String → Output
  | .ok text => ⟨0, text, ""⟩
  | .error error => ⟨1, "", "Error: " ++ error.message ++ "\n"⟩

namespace Invocation

variable (inv : Invocation FileContent) (environment : String → Option String)

/-- The configuration of a file; without one the environment configures. -/
def readConfig : Except CommandError Config :=
  match inv.config with
  | none => .ok (Config.ofEnvironment environment)
  | some file => do
    match Config.ofText? (← Command.content file) with
    | some config => .ok config
    | none => .error .configuration

def run : Except CommandError String := do inv.command.run (← inv.readConfig environment)

def output : Output := .ofResult (inv.run environment)

end Invocation

end WarehouseAdapter
