import Parley.Decimal.Shortest
import Parley.Pattern.Malformed

/-!
# Errors

What can go wrong when patterns are registered, scripts are loaded and messages are matched.
Faults of the topic graph are no errors: they are reported with the result of sorting.
-/
namespace Parley

inductive Error where
  | malformed (pattern : String) (cause : Malformed)
  /-- A script declares a version above the supported one. -/
  | tooNew (declared supported : Float)
  | invalidVersion (value : String)
  | unknownTopic (name : String)
  /-- The topic has changed since it was sorted last. -/
  | unsorted (name : String)

namespace Error

def message : Error → String
  | malformed pattern cause => "malformed pattern '" ++ pattern ++ "': " ++ cause.reason
  | tooNew declared supported =>
    "script version " ++ Decimal.shortest declared ++ " is newer than supported version " ++
      Decimal.shortest supported
  | invalidVersion value => "invalid script version '" ++ value ++ "'"
  | unknownTopic name => "unknown topic '" ++ name ++ "'"
  | unsorted name => "topic '" ++ name ++ "' has not been sorted since its last change"

end Error
end Parley
