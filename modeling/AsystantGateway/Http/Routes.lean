import AsystantGateway.Http.Admission

/-!
# Routes and the guard in front of them

The router matches patterns against the decoded path and the guard's middleware
tests the path as it was sent. They agree on a request of the API exactly when
its path has no percent sign among its first four bytes and, for a session
exchange, none at all.

What is assumed of the router is `MatchesDecoded`; `firstMatch` is a router of
that kind.
-/

namespace AsystantGateway

/-- The handlers under `/v1`. -/
inductive ApiHandler
  | exchange
  | revoke
  | models
  | init
  | turn
  deriving DecidableEq, Repr

/-- All handlers of the server. -/
inductive Handler
  | api (handler : ApiHandler)
  | specification
  | live
  | ready
  | index
  | styles
  | login
  | logout
  | save
  | testModel
  deriving DecidableEq, Repr

/-- A pattern without parameters, and the handler of the requests that match
it. -/
structure Resource where
  method : Method
  path : List UInt8
  handler : Handler
  deriving DecidableEq, Repr

/-- Resources registered under the path of a scope. -/
def scope (path : String) (resources : List Resource) : List Resource :=
  resources.map fun resource =>
    { resource with path := Percent.ascii path ++ resource.path }

/-- A handler registered for a method and a path. -/
def route
    (path : String)
    (method : Method)
    (handler : Handler) : Resource :=
  ⟨method, Percent.ascii path, handler⟩

def apiRoutes : List Resource :=
  [route "/sessions/exchange" .post (.api .exchange),
    route "/sessions/revoke" .post (.api .revoke),
    route "/models" .get (.api .models),
    route "/assistants/init" .post (.api .init),
    route "/turns" .post (.api .turn)]

def publicRoutes : List Resource :=
  [route "/openapi.yaml" .get .specification,
    route "/health/live" .get .live,
    route "/health/ready" .get .ready]

/-- The routes of the administration panel. -/
def adminRoutes : List Resource :=
  [route "" .get .index,
    route "/" .get .index,
    route "/style.css" .get .styles,
    route "/login" .post .login,
    route "/logout" .post .logout,
    route "/policy" .post .save,
    route "/test" .post .testModel]

/-- The resources of the server in the order of their registration. -/
def appRoutes : List Resource :=
  scope "/v1" apiRoutes ++ publicRoutes ++ scope "/admin" adminRoutes

/-- The escapes that the router leaves as they are: of the percent sign, the
slash and the plus sign. -/
def isProtected (byte : UInt8) : Bool :=
  byte = 0x25 || byte = 0x2f || byte = 0x2b

/-- A way to find the handler of a request. -/
abbrev Dispatch : Type :=
  List Resource → Method → List UInt8 → Option Handler

/-- What is assumed of the router: a request reaches the handler of a resource
whose pattern is the request's path after decoding. -/
def MatchesDecoded (dispatch : Dispatch) : Prop :=
  ∀ resources method path handler,
    dispatch resources method path = some handler →
      ∃ resource ∈ resources, resource.handler = handler ∧
        resource.method = method ∧
          Percent.decode isProtected path = resource.path

/-- The handler of the first resource that matches. -/
def firstMatch : Dispatch := fun resources method path =>
  (resources.find? fun resource =>
    resource.method = method ∧
      resource.path = Percent.decode isProtected path).map Resource.handler

theorem firstMatch_matchesDecoded : MatchesDecoded firstMatch := by
  intro resources method path handler dispatched
  obtain ⟨resource, found, isHandler⟩ := Option.map_eq_some_iff.mp dispatched
  have satisfies := List.find?_some found
  simp only [decide_eq_true_eq] at satisfies
  exact ⟨resource, List.mem_of_find?_eq_some found, isHandler, satisfies.1,
    satisfies.2.symm⟩

/-- Hand a request to the handler that its path is routed to. -/
def handle
    (dispatch : Dispatch)
    (request : ServiceRequest) : Serving Handler (Option Handler) := do
  match dispatch appRoutes request.method request.path with
  | none => return none
  | some handler =>
      record (.handle handler)
      return some handler

/-- Serve one request: the guard's middleware, and behind it the router. -/
def serve
    (dispatch : Dispatch)
    (now : Nat)
    (request : ServiceRequest) : Serving Handler (Option Handler) :=
  enforce now request (handle dispatch)

/-- The path under which a handler of the API is registered. -/
def ApiHandler.path : ApiHandler → List UInt8
  | .exchange => Percent.ascii "/v1/sessions/exchange"
  | .revoke => Percent.ascii "/v1/sessions/revoke"
  | .models => Percent.ascii "/v1/models"
  | .init => Percent.ascii "/v1/assistants/init"
  | .turn => Percent.ascii "/v1/turns"

/-- A handler of the API is registered under its path only. -/
theorem path_of_mem_appRoutes
    {resource : Resource}
    {handler : ApiHandler}
    (registered : resource ∈ appRoutes)
    (isHandler : resource.handler = .api handler) :
    resource.path = handler.path := by
  revert resource
  cases handler <;> decide

/-- What the middleware tests agrees with what the router matched: the path is
one that the guard is called for, and as a session exchange exactly when it is
one. -/
def SameReading (path : List UInt8) (handler : ApiHandler) : Prop :=
  guardedPath <+: path ∧ (path = exchangePath ↔ handler = .exchange)

instance (path : List UInt8) (handler : ApiHandler) :
    Decidable (SameReading path handler) :=
  inferInstanceAs (Decidable (_ ∧ (_ ↔ _)))

/-- No percent sign stands where the middleware looks. -/
def Canonical (path : List UInt8) (handler : ApiHandler) : Prop :=
  Percent.sign ∉ path.take 4 ∧
    (handler = .exchange → Percent.sign ∉ path)

instance (path : List UInt8) (handler : ApiHandler) :
    Decidable (Canonical path handler) :=
  inferInstanceAs (Decidable (_ ∧ (_ → _)))

theorem sign_notMem_path (handler : ApiHandler) :
    Percent.sign ∉ handler.path := by
  cases handler <;> decide

/-- Every path of the API begins with what the guard is called for. -/
theorem ApiHandler.path_eq_append (handler : ApiHandler) :
    ∃ rest, handler.path = guardedPath ++ rest := by
  cases handler <;> exact ⟨_, rfl⟩

theorem ApiHandler.path_eq_exchangePath_iff (handler : ApiHandler) :
    handler.path = exchangePath ↔ handler = .exchange := by
  cases handler <;> decide

/-- The two readings of a path agree exactly when it is canonical. -/
theorem sameReading_iff_canonical
    {path : List UInt8}
    {handler : ApiHandler}
    (decoded : Percent.decode isProtected path = handler.path) :
    SameReading path handler ↔ Canonical path handler := by
  obtain ⟨rest, split⟩ := handler.path_eq_append
  have guarded : guardedPath <+: path ↔ Percent.sign ∉ path.take 4 :=
    Percent.isPrefix_iff (decoded.trans split) (by decide)
  have whole : path = handler.path ↔ Percent.sign ∉ path :=
    Percent.eq_iff decoded (sign_notMem_path handler)
  have exchanged : (path = exchangePath ↔ handler = .exchange) ↔
      (handler = .exchange → Percent.sign ∉ path) := by
    constructor
    · intro same isExchange
      rw [← whole, (handler.path_eq_exchangePath_iff).mpr isExchange]
      exact same.mpr isExchange
    · intro plain
      constructor
      · intro isExchangePath
        rw [← handler.path_eq_exchangePath_iff, ← decoded, isExchangePath]
        exact Percent.decode_of_plain isProtected (by decide)
      · intro isExchange
        rw [← (handler.path_eq_exchangePath_iff).mpr isExchange, whole]
        exact plain isExchange
  exact and_congr guarded exchanged

section Serve

variable
  {dispatch : Dispatch}
  {request : ServiceRequest}

/-- The server after one request. -/
def afterRequest
    (dispatch : Dispatch)
    (now : Nat)
    (request : ServiceRequest)
    (server : Server Handler) : Server Handler :=
  ((serve dispatch now request).run.run server).2

theorem run_handle
    {handler : Handler}
    (dispatched : dispatch appRoutes request.method request.path =
      some handler)
    (server : Server Handler) :
    (handle dispatch request).run.run server =
      (.ok (some handler),
        { server with events := server.events ++ [.handle handler] }) := by
  unfold handle
  rw [dispatched]
  rfl

/-- A request that is not recognised goes straight to its handler. -/
theorem events_of_unguarded
    (now : Nat)
    (server : Server Handler)
    {handler : Handler}
    (unguarded : ¬ guardedPath <+: request.path)
    (dispatched : dispatch appRoutes request.method request.path =
      some handler) :
    (afterRequest dispatch now request server).events =
      server.events ++ [.handle handler] := by
  unfold afterRequest serve
  rw [enforce_of_unguarded unguarded, run_handle dispatched]

/-- A request that is recognised calls the guard first, and its handler only
when it is admitted. -/
theorem events_of_guarded
    (now : Nat)
    (server : Server Handler)
    {handler : Handler}
    {peer : IpAddr}
    (guarded : guardedPath <+: request.path)
    (known : request.peerAddr = some peer)
    (dispatched : dispatch appRoutes request.method request.path =
      some handler) :
    ∃ rest, (afterRequest dispatch now request server).events =
        server.events ++
          .check peer (request.path = exchangePath) :: rest ∧
      (rest = [] ∨ rest = [.handle handler]) := by
  unfold afterRequest serve
  rw [run_enforce_of_guarded guarded known]
  unfold Server.checked
  rcases server.admission.check now peer (request.path = exchangePath) with
    ⟨_ | _, admission⟩
  · exact ⟨[], rfl, .inl rfl⟩
  · refine ⟨[.handle handler], ?_, .inr rfl⟩
    simp [run_handle dispatched]

end Serve

/-- The guard is called for a request before its handler runs, if it runs, and
as a session exchange exactly when the handler is the exchange. -/
def Covered
    (dispatch : Dispatch)
    (now : Nat)
    (request : ServiceRequest)
    (peer : IpAddr)
    (handler : ApiHandler)
    (server : Server Handler) : Prop :=
  ∃ rest, (afterRequest dispatch now request server).events =
      server.events ++ .check peer (handler = .exchange) :: rest ∧
    (rest = [] ∨ rest = [.handle (.api handler)])

/-- The guard covers a request exactly when the middleware reads its path as
the router does. -/
theorem covered_iff_sameReading
    {dispatch : Dispatch}
    {request : ServiceRequest}
    {peer : IpAddr}
    {handler : ApiHandler}
    (known : request.peerAddr = some peer)
    (dispatched : dispatch appRoutes request.method request.path =
      some (.api handler))
    (now : Nat)
    (server : Server Handler) :
    Covered dispatch now request peer handler server ↔
      SameReading request.path handler := by
  by_cases guarded : guardedPath <+: request.path
  · obtain ⟨rest, events, ending⟩ := events_of_guarded
      now server guarded known dispatched
    constructor
    · rintro ⟨other, otherEvents, -⟩
      rw [events] at otherEvents
      have sameCall := List.head_eq_of_cons_eq
        (List.append_cancel_left otherEvents)
      have sameFlag := (ServerEvent.check.inj sameCall).2
      exact ⟨guarded, decide_eq_decide.mp sameFlag⟩
    · rintro ⟨-, sameFlag⟩
      refine ⟨rest, ?_, ending⟩
      rw [events, decide_eq_decide.mpr sameFlag]
  · constructor
    · rintro ⟨rest, events, -⟩
      rw [events_of_unguarded now server guarded dispatched] at events
      have sameEvent := List.head_eq_of_cons_eq
        (List.append_cancel_left events)
      cases sameEvent
    · rintro ⟨isGuarded, -⟩
      exact absurd isGuarded guarded

/-- Admission covers the routed API exactly on canonical paths: on every
request that reaches a handler of the API, the guard is called before the
handler and with the right kind if and only if the path has no percent sign
among its first four bytes and, for a session exchange, none at all. -/
theorem admission_covers_iff
    (dispatch : Dispatch)
    (matchesDecoded : MatchesDecoded dispatch)
    (now : Nat)
    (method : Method)
    (path : List UInt8)
    (peer : IpAddr)
    (handler : ApiHandler)
    (dispatched : dispatch appRoutes method path = some (.api handler))
    (server : Server Handler) :
    Covered dispatch now ⟨method, path, some peer⟩ peer handler server ↔
      Canonical path handler := by
  obtain ⟨resource, registered, isHandler, -, decoded⟩ :=
    matchesDecoded appRoutes method path (.api handler) dispatched
  rw [path_of_mem_appRoutes registered isHandler] at decoded
  rw [covered_iff_sameReading rfl dispatched, sameReading_iff_canonical decoded]

/-- The server at its start. -/
def Server.start : Server Handler where
  admission := ⟨.empty⟩
  events := []

/-- The exchange's own path is canonical. -/
theorem admission_covers_iff_exchange :
    Covered firstMatch 0 ⟨.post, exchangePath, some (.v4 0)⟩ (.v4 0) .exchange
      .start := by
  refine (admission_covers_iff firstMatch firstMatch_matchesDecoded 0 .post
    exchangePath (.v4 0) .exchange (by decide) .start).mpr ?_
  decide

/-- One escaped letter at the end turns an exchange into another request, and
one at the start hides a turn from the guard. -/
theorem admission_misses_escaped :
    firstMatch appRoutes .post (Percent.ascii "/v1/sessions/exchang%65") =
        some (.api .exchange) ∧
      ¬ Covered firstMatch 0
        ⟨.post, Percent.ascii "/v1/sessions/exchang%65", some (.v4 0)⟩ (.v4 0)
        .exchange .start ∧
      firstMatch appRoutes .post (Percent.ascii "/%761/turns") =
        some (.api .turn) ∧
      (afterRequest firstMatch 0
        ⟨.post, Percent.ascii "/%761/turns", some (.v4 0)⟩ .start).events =
          [.handle (.api .turn)] := by
  refine ⟨by decide, ?_, by decide, ?_⟩
  · rw [covered_iff_sameReading rfl (by decide)]
    decide
  · exact events_of_unguarded 0 .start (by decide) (by decide)

end AsystantGateway
