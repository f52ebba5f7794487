import SchemaDesk.Decimal.Binary64
import SchemaDesk.Fault
import SchemaDesk.Transport.Url

/-!
# Requests and replies

One request is sent to an address, and the network answers it in one of a few
ways. How the network behaves is a function from requests to replies that the
surroundings supply.
-/

namespace SchemaDesk

/-- A request that is sent. -/
structure HttpRequest where
  url : Text
  method : String
  headers : List (String × Text)
  body : Text
  /-- Seconds after which the request is given up. -/
  timeout : Decimal.Binary64

/-- Why an address could not be reached. -/
inductive UnreachableReason where
  | text (t : Text)
  | fault (fault : Fault)

/-- Was the address given up because it took too long? -/
def UnreachableReason.isTimeout : UnreachableReason → Bool
  | .text _ => false
  | .fault f => f.kind == .timedOut

/-- What the network does with a request. -/
inductive HttpReply where
  /-- The request was granted, with this body. -/
  | granted (body : List UInt8)
  /-- The request was refused with a status; the body may be unreadable. -/
  | refused (status : Int) (body : Option (List UInt8))
  /-- No reply came in time. -/
  | timedOut
  | unreachable (reason : UnreachableReason)
  | failed (fault : Fault)

/-- The behaviour of the network. -/
abbrev Network := HttpRequest → HttpReply

end SchemaDesk
