import AsystantGateway.Model.Config
import AsystantGateway.Model.Ticket
import AsystantGateway.Model.Turn

/-!
# Testing a model

The administration tests the models of a product by one turn of a user of its
own. The user's ticket is signed like any other, its assistant has no tools, and
its turn asks the default model for one sentence.
-/

namespace AsystantGateway
namespace Playground

/-- The claims of the ticket of a test. -/
def claims (issuer jti : String) (now : Int64) : TicketClaims where
  iss := issuer
  aud := "asystant-api"
  sub := "admin-playground"
  tenant := "__admin_playground__"
  sid := "admin-playground"
  jti := jti
  iat := now
  exp := now + 60
  sessionExp := now + 600

/-- What the assistant of a test is registered with. -/
def manifest : Manifest where
  tools := []
  prompts := ["Reply briefly and do not use tools."]
  models := []

/-- The turn of a test. -/
def turn (registrationId requestId model : String) : Turn where
  registrationId := registrationId
  requestId := requestId
  model := model
  messages := [{
    role := "user"
    content := "Reply with exactly: Connection successful."
    calls := []
    callId := "" }]

/-- The ticket of a test, signed with the secret of the product. -/
def ticket
    (encode : TicketClaims → String → Option String)
    (config : Config)
    (issuer jti : String)
    (now : Reading) : Except AppError String :=
  match config.products.find? fun product => product.issuer = issuer with
  | none => .error .invalid
  | some product =>
      match encode (claims issuer jti now.timestamp) product.secret with
      | none => .error .internal
      | some ticket => .ok ticket

end Playground
end AsystantGateway
