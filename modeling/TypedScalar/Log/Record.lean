/-! Log records: a level, the logger's name and a message. -/

namespace TypedScalar

inductive Level
  | debug
  | info
  | warning
  | error
  | critical
  deriving DecidableEq, Repr

namespace Level

def all : List Level := [debug, info, warning, error, critical]

def name : Level → String
  | debug => "DEBUG"
  | info => "INFO"
  | warning => "WARNING"
  | error => "ERROR"
  | critical => "CRITICAL"

def severity : Level → Nat
  | debug => 10
  | info => 20
  | warning => 30
  | error => 40
  | critical => 50

def ofName? (s : String) : Option Level := all.find? (·.name == s)

end Level

structure Record where
  level : Level
  logger : String
  message : String
  deriving DecidableEq, Repr

end TypedScalar
