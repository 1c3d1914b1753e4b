import Auction.Error
import Auction.Json.Basic

/-!
# Reporting faults in answers

An answer reports a fault by two members: `error`, the kind of the fault, and `message`, its
text. A fault that holds a business error adds that error's `code` and `bid_error_message`. The
kind of a wrapped fault is the kind of the fault inside. A request that cannot be read is an
`InputError`. A failure that ends the whole request, such as working on a book that lists a
missing entry, is a `Panic`.
-/

namespace Auction

namespace Report

/-- The kind under which a fault is answered. -/
def faultKind : Fault → String
  | .bid _ => "BidError"
  | .versionConflict => "VersionConflict"
  | .cascadeBound .. => "CascadeBoundExceeded"
  | .injected _ => "InjectedError"
  | .json _ => "JSONError"
  | .cancelled _ => "ContextError"
  | .other _ => "Error"
  | .wrap _ f => faultKind f

/-- The members that report a fault. -/
def faultFields (f : Fault) : List (String × Json) :=
  let base := [("error", Json.str (faultKind f)), ("message", Json.str f.text)]
  match f.bidError? with
  | some e => base ++ [("code", .str e.code.name), ("bid_error_message", .str e.message)]
  | none => base

/-- The text of a failure that ends a whole request: a missing entry was used. -/
def nilDereference : String := "runtime error: invalid memory address or nil pointer dereference"

/-- The members that report a failure that ends a whole request. -/
def crashFields (text : String) : List (String × Json) :=
  [("error", .str "Panic"), ("message", .str text)]

/-- The members that report a malformed request. -/
def inputErrorFields (text : String) : List (String × Json) :=
  [("error", .str "InputError"), ("message", .str text)]

end Report

end Auction
