import Cartography.Value.Display

/-!
# Events

The names of the events a host fires, and the message that the payload of an error event holds.
-/

namespace Cartography.Event

/-- The event that reports an error. -/
def error : String := "error"

/-- The event that reports that the map has loaded. -/
def load : String := "load"

/-- The message in the payload of an error event: that of its error where the payload is a
mapping, else the text of the payload. There is none if it has no text. -/
def message? : Value → Option String
  | .mapping payload =>
      match Fields.get? payload "error" |>.getD (.mapping payload) with
      | .mapping error => (Fields.get? error "message" |>.getD (.text "")).plain?
      | other => other.plain?
  | other => other.plain?

end Cartography.Event
