import AsystantGateway.Library.Json.Value

/-!
# Registrations and turns

The documents a client sends: the manifest it registers an assistant with, and
the turn it asks one inference for.
-/

namespace AsystantGateway

/-- What an assistant is registered with. -/
structure Manifest where
  tools : List Json.Value
  prompts : List String
  models : List String

/-- The stored text of a manifest, with its members in declaration order. -/
def Manifest.text (manifest : Manifest) : String :=
  (Json.Value.object
    [("tools", .array manifest.tools),
      ("prompts", Json.strings manifest.prompts),
      ("models", Json.strings manifest.models)]).compact

/-- A call of an application tool that a model proposes. -/
structure ToolCall where
  id : String
  name : String
  arguments : Json.Value

/-- One message of a conversation. -/
structure Message where
  role : String
  content : String
  calls : List ToolCall
  callId : String

/-- One inference request. -/
structure Turn where
  registrationId : String
  requestId : String
  model : String
  messages : List Message

end AsystantGateway
