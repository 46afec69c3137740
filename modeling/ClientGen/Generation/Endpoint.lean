import ClientGen.Method.Basic

/-!
# Endpoints with their parameters filled in

## Main definitions

* `placeholder` — a parameter as an endpoint names it.
* `fillEndpoint` — an endpoint with the parameters of its path replaced.
-/

set_option autoImplicit false

namespace ClientGen

/-- A parameter as an endpoint names it: in braces. -/
def placeholder (parameter : Parameter) : String := "\x7b" ++ parameter.name ++ "\x7d"

/-- The endpoint with each parameter in turn replaced by its image. -/
def fillEndpoint (image : Parameter → String) (parameters : List Parameter)
    (endpoint : String) : String :=
  parameters.foldl
    (fun path parameter => Text.replace (placeholder parameter) (image parameter) path) endpoint

/-- The endpoint of a method with the parameters of its path replaced. -/
def Method.path (method : Method) (image : Parameter → String) : String :=
  fillEndpoint image (method.parametersIn .path) method.endpoint

/-- The documentation of a method: some texts, of which empty ones are left out, with a blank
line between two of them. -/
def paragraphs (texts : List String) : String :=
  "\n\n".intercalate (texts.filter (!·.isEmpty))

end ClientGen
