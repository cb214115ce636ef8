import TypedScalar.Config.Change
import TypedScalar.Files
import TypedScalar.Yaml.Document

/-! Loading a configuration from a YAML file. The document is a mapping, or counts as false and then asks
for nothing; keys that are no settings are ignored with a warning, and missing ones keep their initial
values. Loading does not make the configuration active. -/

namespace TypedScalar.Config

/-- The fault of a document as an error, where messages name the file by its path. Some faults are errors
of their own. -/
def documentError (path : String) : Yaml.Failure → Error
  | .error e => e
  | .fault .noSuchCharacter => .noSuchCharacter
  | .fault .characterTooLarge => .characterTooLarge
  | .fault (.versionTooLong digits) => .integerTextTooLong (some digits)
  | .fault .nestedTooDeeply => .nestedTooDeeply
  | .fault f => .invalidDocument path f.message

/-- The document in a text. -/
def readDocument (path text : String) : Except Error Yaml.Document :=
  (Yaml.Document.load text).mapError (documentError path)

/-- The keys of a document; one that counts as false has none. -/
def documentKeys (path : String) (d : Yaml.Document) : Except Error (List Value) :=
  match d.keys? with
  | some keys => .ok keys
  | none => if d.isTruthy then .error (.notAMapping path) else .ok []

/-- Whether a key names a setting. -/
def isSetting (key : Value) : Bool :=
  match key with
  | .text s => fieldNames.contains s
  | _ => false

/-- The configuration that a document gives. -/
def ofDocument (d : Yaml.Document) : Config :=
  fieldNames.foldl (fun c f => ((d.get? f).map (c.set f)).getD c) initial

def warnUnknown (r : Rendering) : List Value → Action Unit
  | [] => pure ()
  | k :: rest => do
    if !isSetting k then
      Action.record .warning logger ("Ignoring unknown config key: " ++ (← Action.ofExcept (k.plain r)))
    warnUnknown r rest

def load (files : Files) (path : String) : Action Config := do
  match files.find path with
  | .missing => throw (.fileNotFound path)
  | .nameTooLong => throw (.nameTooLong (Files.normalPath path))
  | .directory => throw (.isDirectory (Files.normalPath path))
  | .file text =>
    let document ← Action.ofExcept (readDocument path text)
    let keys ← Action.ofExcept (documentKeys path document)
    let r ← Action.rendering
    warnUnknown r keys
    let config := ofDocument document
    Action.ofExcept (config.validate r)
    Action.record .info logger ("Loaded scalar config from " ++ Files.normalPath path)
    return config

end TypedScalar.Config
