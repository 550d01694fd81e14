import SessionSync.Json.Printer

/-!
# Signatures of tool uses

A permission request of an older backend names a tool and its input, but not
the tool use.  The signature of a tool use is its name, a colon and the
canonical text of its input; the canonical text is the compact one of the
normal form, so the order of object members plays no part.
-/

set_option autoImplicit false

namespace SessionSync

/-- A value's compact text with the keys of every object in ascending order. -/
def Json.canonical (value : Json) : String := value.normal.compact

/-- The signature of a tool's name and input. -/
def toolSignature (name : String) (input : Json) : String := name ++ ":" ++ input.canonical

end SessionSync
