import TypedScalar.Config

/-! Validation of configurations. The null token must not be blank, nor look like a word or number that a
valid value is written as, nor like the hexadecimal text of bytes; only the last of these looks at the
blanks around it. -/

namespace TypedScalar

namespace Config

def reservedTokens : List String := ["true", "false", "nan", "inf", "-inf", "+inf"]

/-- Whether a text is a decimal number with digits of any script, an optional sign, point and exponent. -/
def looksNumeric (s : List Char) : Bool := (Text.decimal? Text.plainRun (Text.takeSign s).2).isSome

/-- Whether a text is made of one or more pairs of hexadecimal digits. -/
def looksHex (s : List Char) : Bool := !s.isEmpty && s.length % 2 == 0 && s.all Text.isHexDigit

def collides (token : List Char) : Bool :=
  let stripped := Text.strip token
  reservedTokens.contains (String.ofList (Text.lower stripped)) || looksNumeric stripped || looksHex token

def checkToken (r : Rendering) (v : Value) : Except Error Unit :=
  match v.text? with
  | none => .error (.config .emptyToken)
  | some token =>
    if (Text.strip token.toList).isEmpty then .error (.config .emptyToken)
    else if collides token.toList then (v.shown r).bind fun s => .error (.config (.collidingToken s))
    else .ok ()

/-- Resolves a default type; a type that is not known is a fault of the configuration. -/
def resolveDefault (r : Rendering) (v : Value) : Except Error DataType :=
  match DataType.resolve r v with
  | .error e => if e.isA .unknownDataType then .error (.config (.unknownDefault e.message)) else .error e
  | .ok d => .ok d

/-- Refuses a configuration that could not be told apart from values, or not be used for inference. The
rendering is that of the messages. -/
def validate (r : Rendering) (c : Config) : Except Error Unit :=
  (checkToken r c.nullToken).bind fun _ =>
  (resolveDefault r c.integerDefault).bind fun integer =>
  (resolveDefault r c.floatDefault).bind fun float =>
  if !integer.isInteger then
    (c.integerDefault.shown r).bind fun s => .error (.config (.notInteger s))
  else if !float.isFloating then
    (c.floatDefault.shown r).bind fun s => .error (.config (.notFloating s))
  else .ok ()

end Config

end TypedScalar
