import Relata.Value

/-!
Errors. An error is a cause under any number of contexts; each context is itself a cause. The text
of an error lists the newest context first and the first cause last.
-/

namespace Relata

inductive Cause
  | adhoc (message : String)
  | driver (message : String) (sources : List String)
  | invalidConnectionUrl (message : String)
  | invalidSchema (message : String)
  | invalidStatement (message : String)
  | recordNotFound (message : String)
  | typeConversion (kind : Kind) (target : String)
  | unknownAssociation (model name : String)
  | unsupportedFeature (message : String)
  deriving DecidableEq

/-- The text of one cause. A driver's failure is followed by the failures it came from. -/
def Cause.message : Cause → String
  | .adhoc message => message
  | .driver message sources => ": ".intercalate (message :: sources)
  | .invalidConnectionUrl message => "invalid connection URL: " ++ message
  | .invalidSchema message => "invalid schema: " ++ message
  | .invalidStatement message => "invalid statement: " ++ message
  | .recordNotFound message => "record not found: " ++ message
  | .typeConversion kind target => "cannot convert " ++ kind.name ++ " to " ++ target
  | .unknownAssociation model name =>
    "unknown association `" ++ name ++ "` on model `" ++ model ++ "`"
  | .unsupportedFeature message => "unsupported feature: " ++ message

/-- A cause with the causes beneath it, the newest first. -/
structure Error where
  cause : Cause
  beneath : List Cause
  deriving DecidableEq

namespace Error

def of (cause : Cause) : Error := ⟨cause, []⟩

def chain (error : Error) : List Cause := error.cause :: error.beneath

def message (error : Error) : String := ": ".intercalate (error.chain.map Cause.message)

/-- Puts the cause of `context` on top of `error`; what lies beneath that cause is left out. A
context that someone else holds as well cannot be taken apart, and only its text is kept. -/
def within (error context : Error) (held : Bool) : Error :=
  ⟨if held then .adhoc context.cause.message else context.cause, error.chain⟩

/-- The failure that an error stands for: a driver's, if that is its newest cause. -/
def source? (error : Error) : Option String :=
  match error.cause with
  | .driver _ _ => some error.cause.message
  | _ => none

def adhoc (message : String) : Error := of (.adhoc message)
def invalidStatement (message : String) : Error := of (.invalidStatement message)
def invalidSchema (message : String) : Error := of (.invalidSchema message)
def unsupportedFeature (message : String) : Error := of (.unsupportedFeature message)

@[simp] theorem chain_of (cause : Cause) : (of cause).chain = [cause] := rfl

@[simp] theorem chain_within (error context : Error) (held : Bool) :
    (error.within context held).chain = (error.within context held).cause :: error.chain := rfl

end Error

/-- How an operation ends without an answer: with an error, or cut short by an arithmetic or a
usage fault that no caller is meant to handle. -/
inductive Failure
  | error (e : Error)
  | abort (message : String)
  deriving DecidableEq

namespace Value

def conversionError (v : Value) (target : String) : Error :=
  .of (.typeConversion v.kind target)

def toInt (v : Value) : Except Error Int64 :=
  match v with
  | .int n => .ok n
  | v => .error (v.conversionError "i64")

def toBool (v : Value) : Except Error Bool :=
  match v with
  | .bool b => .ok b
  | v => .error (v.conversionError "bool")

def toText (v : Value) : Except Error String :=
  match v with
  | .text s => .ok s
  | v => .error (v.conversionError "String")

def toOptionalText (v : Value) : Except Error (Option String) :=
  match v with
  | .null => .ok none
  | .text s => .ok (some s)
  | v => .error (v.conversionError "Option<String>")

end Value

end Relata
