import ClientGen.Digest
import ClientGen.Model.Basic

/-!
# Shapes

The shape of some properties is what tells two derived types apart: the name, the type and four
of the flags of each property, in order.

## Main definitions

* `Model.shape` — the text of a shape: the six parts of a property are separated by colons, the
  properties by semicolons.
* `Model.shapeDigest` — the digest of that text.
-/

set_option autoImplicit false

namespace ClientGen.Model

/-- A truth value in the text of a shape. -/
def flagText : Bool → String
  | true => "true"
  | false => "false"

/-- The parts of a property that count for a shape. -/
def shapeParts (model : Model) (property : Property) : List String :=
  [property.name, model.nameOf property.type, flagText property.nullable,
    flagText property.readOnly, flagText property.required, flagText property.writeOnly]

/-- The shape of a property. -/
def propertyShape (model : Model) (property : Property) : String :=
  ":".intercalate (model.shapeParts property)

/-- The shape of some properties. -/
def shape (model : Model) (properties : List Property) : String :=
  ";".intercalate (properties.map model.propertyShape)

/-- The digest of a shape. -/
def shapeDigest (model : Model) (properties : List Property) : String :=
  Digest.ofText (model.shape properties)

end ClientGen.Model
