import AsystantGateway.Library.Text
import AsystantGateway.Model.Error

/-!
# Browser origins

User input is turned into the exact form that browsers send in the `Origin`
header. Parsing a URL is the work of a library; what it reports about a URL is
the record `Url`.
-/

namespace AsystantGateway

/-- A parsed URL, by what is asked of it. -/
structure Url where
  scheme : String
  hostStr : Option String
  username : String
  password : Option String
  path : String
  query : Option String
  fragment : Option String
  /-- The ASCII serialization of its origin. -/
  origin : String
  deriving DecidableEq, Repr

/-- Upper bound on configured origins. -/
def maxOrigins : Nat := 64

/-- Whether a URL names a local development host. -/
def Url.isLocal (url : Url) : Bool :=
  url.hostStr = some "localhost" || url.hostStr = some "127.0.0.1" ||
    url.hostStr = some "[::1]"

/-- The exact form in which browsers send an origin. -/
def normalize
    (parse : String → Option Url)
    (raw : String) : Except AppError String :=
  let raw := Text.trim raw
  if raw = "" ∨ raw.utf8ByteSize > 200 then .error .invalid
  else
    match parse raw with
    | none => .error .invalid
    | some url =>
        let schemeOk := url.scheme = "https" ∨
          (url.scheme = "http" ∧ url.isLocal)
        if ¬ schemeOk ∨ url.hostStr = none ∨ url.username ≠ "" ∨
            url.password ≠ none ∨ url.path ≠ "/" ∨ url.query ≠ none ∨
            url.fragment ≠ none then
          .error .invalid
        else
          .ok url.origin

end AsystantGateway
