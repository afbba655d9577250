/-! # Why a document cannot be built
* `BuildError` — the causes.
* `BuildError.message` — their wording. -/

namespace Swagger

/-- Why a document cannot be built. -/
inductive BuildError where
  /-- Two groups of routes have one path. -/
  | duplicatePath (path : String)
  /-- Two operations have one name. -/
  | duplicateOperationId (id first second : String)
  /-- A route declares a parameter twice. -/
  | duplicateParameter (name method path : String)
  /-- A model has no definition. -/
  | missingDefinition (name : String)
  /-- A body is declared where there is no model for it. -/
  | unsupportedBodyParameter (dataType : String)
  /-- A parameter in the path may be left out. -/
  | pathParameterNotRequired (name : String)
  /-- A parameter outside the body has a type that is not simple. -/
  | nonSimpleParameterType (name dataType : String)
  /-- The document shares parameters already. -/
  | sharedParametersExist
  /-- A parameter cannot be read or written. -/
  | serialization (cause : String)
  /-- What the code that completes the document says. -/
  | custom (text : String)
deriving DecidableEq

/-- The wording. -/
def BuildError.message : BuildError → String
  | .duplicatePath path => "duplicate webservice route has been found for path: " ++ path
  | .duplicateOperationId id first second =>
    "duplicate operation id " ++ id ++ " for path " ++ first ++ " and " ++ second
  | .duplicateParameter name method path =>
    "duplicate parameter " ++ name ++ " for route " ++ method ++ " " ++ path
  | .missingDefinition name => "cannot find model definition for " ++ name
  | .unsupportedBodyParameter dataType =>
    "body parameters without a request sample are not supported: " ++ dataType
  | .pathParameterNotRequired name => "path parameter " ++ name ++ " should be marked as required"
  | .nonSimpleParameterType name dataType =>
    "non-body parameter " ++ name ++ " should have a simple type, but got: " ++ dataType
  | .sharedParametersExist => "shared parameters already exist in the document"
  | .serialization cause => "failed to serialize parameter: " ++ cause
  | .custom text => text

end Swagger
