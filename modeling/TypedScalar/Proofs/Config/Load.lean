import TypedScalar.Config.Load
import TypedScalar.Proofs.Catching
import TypedScalar.Proofs.Config.Change
import TypedScalar.Proofs.Registry.Queries
import TypedScalar.Proofs.Yaml.Mapping

/-! Loading a configuration. A path leads to a document or it does not; once the document has been read,
whatever is wrong with it is an error of value: that it is no mapping, a key or a setting that cannot be
shown, or a configuration that is not valid. Only a setting that takes too many levels to be shown is none. -/

namespace TypedScalar.Config

open TypedScalar.Action

variable {r : Rendering} {c : Config} {v : Value} {files : Files} {path text : String}

variable {catches : Error → Bool}

theorem load_of_readDocument {d : Yaml.Document} (hd : readDocument path text = .ok d) :
    Yaml.Document.load text = .ok d := by
  unfold readDocument at hd
  cases hx : Yaml.Document.load text with
  | error f => simp [hx, Except.mapError] at hd
  | ok d' => simpa [hx, Except.mapError] using hd

theorem coherent_readDocument {d : Yaml.Document} (hd : readDocument path text = .ok d) : d.builder.Coherent :=
  Yaml.Document.coherent_load (load_of_readDocument hd)

/-! ### Documents -/

/-- The document that a path leads to. -/
def documentAt (files : Files) (path : String) : Except Error Yaml.Document :=
  match files.find path with
  | .missing => .error (.fileNotFound path)
  | .nameTooLong => .error (.nameTooLong (Files.normalPath path))
  | .directory => .error (.isDirectory (Files.normalPath path))
  | .file text => readDocument path text

/-- The configuration that is taken from a document. -/
def takeDocument (path : String) (document : Yaml.Document) : Action Config := do
  let keys ← Action.ofExcept (documentKeys path document)
  let r ← Action.rendering
  warnUnknown r keys
  let config := ofDocument document
  Action.ofExcept (config.validate r)
  Action.record .info logger ("Loaded scalar config from " ++ Files.normalPath path)
  return config

/-- Loading finds a document, and takes a configuration from it. -/
theorem load_eq (files : Files) (path : String) :
    load files path = Action.ofExcept (documentAt files path) >>= takeDocument path := by
  unfold load documentAt
  cases files.find path <;> rfl

end TypedScalar.Config
