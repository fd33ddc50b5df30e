/-!
# Deliveries
-/

namespace RemoteSearch

/-- The bytes that a source delivers, and why it fails after them if it does. -/
structure Delivery where
  bytes : List UInt8
  failure : Option String := none
  deriving Repr, DecidableEq, Inhabited

namespace Delivery

/-- Whether the source fails after its bytes. -/
def isBroken (d : Delivery) : Bool := d.failure.isSome

end Delivery

end RemoteSearch
