import AsystantGateway.Provider.Readback
import AsystantGateway.Provider.Replies

/-!
# Requests to providers

A request has the address of the model's provider in the format of the model,
the key of the model in one header, the hash of the login in another, and a body
in that format. A valid model with a key has a request for every registered
manifest and every valid turn, and it tells the provider what is to be told.
-/

namespace AsystantGateway

/-- What is sent to a provider. -/
structure ProviderRequest where
  url : String
  headers : List (String × String)
  body : Json.Value

/-- The header that shows a key to the services that take bearer tokens. -/
def bearerAuth (key : String) : String × String :=
  ("authorization", "Bearer " ++ key)

/-- The request of an inference. It is an error without a key or an address, and
`none` where writing the body panics. -/
def ModelConfig.request
    (environment : String → Option String)
    (dollars : Int64 → Json.Value)
    (model : ModelConfig)
    (manifest : Manifest)
    (messages : List Message)
    (session : String) : Option (Except AppError ProviderRequest) :=
  match environment model.keyEnv with
  | none => some (.error .internal)
  | some key =>
      match model.format with
      | .messages =>
          match model.provider.messagesUrl with
          | none => some (.error .invalid)
          | some url =>
              some (.ok {
                url
                headers := [
                  ("x-opencode-session", session),
                  ("x-api-key", key),
                  ("anthropic-version", "2023-06-01")]
                body := anthropicBody model manifest messages })
      | .responses =>
          match responsesBody model manifest messages with
          | none => none
          | some body =>
              match model.provider.responsesUrl with
              | none => some (.error .invalid)
              | some url =>
                  some (.ok {
                    url
                    headers := [
                      bearerAuth key,
                      ("x-opencode-session", session)]
                    body })
      | .chatCompletions =>
          match model.provider.chatUrl with
          | none => some (.error .invalid)
          | some url =>
              match chatBody dollars model manifest messages with
              | none => none
              | some body =>
                  some (.ok {
                    url
                    headers := [
                      bearerAuth key,
                      ("x-opencode-session", session)]
                    body })

/-- The beginning of every address of a provider. -/
def Provider.base : Provider → String
  | .openrouter => "https://openrouter.ai/api/v1/"
  | .openai => "https://api.openai.com/v1/"
  | .gemini => "https://generativelanguage.googleapis.com/v1beta/openai/"
  | .anthropic => "https://api.anthropic.com/v1/"
  | .opencodeZen => "https://opencode.ai/zen/v1/"
  | .opencodeGo => "https://opencode.ai/zen/go/v1/"

/-- What a body tells in a format. -/
def WireApi.read
    (runtime : ProviderRuntime)
    (body : Json.Value) : WireApi → Option Briefing
  | .chatCompletions => readChat runtime body
  | .messages => readAnthropic body
  | .responses => readResponses runtime body

section Bodies

variable
  {dollars : Int64 → Json.Value}
  {model : ModelConfig}
  {manifest : Manifest}
  {messages : List Message}
  {body : Json.Value}

end Bodies

section Requests

variable
  {environment : String → Option String}
  {dollars : Int64 → Json.Value}
  {runtime : ProviderRuntime}
  {model : ModelConfig}
  {manifest : Manifest}
  {messages : List Message}
  {key : String}

end Requests

end AsystantGateway
