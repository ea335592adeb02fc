import Flowline.Json.Interpretation
import Flowline.Json.Printer
import Flowline.Processor

/-!
How processors look for their inputs. A connection without ports delivers a whole output under the
default port, so an input is also sought inside of that one; some inputs may instead be configured.
-/

namespace Flowline

/-- The value of an input, sought inside the default input if it has none of its own. -/
def lookup (inputs : Json.Object) (key : String) : Option Json :=
  (Json.Object.value? inputs key).or <|
    ((Entries.get? inputs defaultPort).bind Json.object?).bind fun nested =>
      Json.Object.value? nested key

def lookupOrConfig (inputs config : Json.Object) (key : String) : Option Json :=
  (lookup inputs key).or (Json.Object.value? config key)

def Descriptor.inputsFound (descriptor : Descriptor) (inputs : Json.Object) : Bool :=
  descriptor.requiredInputs.all fun port => (lookup inputs port).isSome

/-- Text as it is, nothing for `null`, and the JSON text of any other value. -/
def Json.plainText : Json → String
  | .null => ""
  | .string text => text
  | other => other.compact

def lookupText (inputs : Json.Object) (key : String) : String :=
  ((lookup inputs key).map Json.plainText).getD ""

end Flowline
