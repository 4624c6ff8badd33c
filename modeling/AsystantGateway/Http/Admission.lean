import AsystantGateway.Library.Percent
import AsystantGateway.Library.Table
import AsystantGateway.Model.Error

/-!
# Admission of requests

The process-local guard counts the requests of each TCP peer in windows of one
minute, session exchanges apart from the others. `enforce` stands in front of
the router and calls the guard for the paths that it recognises, by tests on
the path as it was sent.

The server's state keeps, beside the guard, the events of all requests: calls
of the guard and calls of handlers.
-/

namespace AsystantGateway

/-- An address of a peer. -/
inductive IpAddr
  | v4 (address : BitVec 32)
  | v6 (address : BitVec 128)
  deriving DecidableEq, Repr

/-- The requests of one peer and kind since the start of their window. -/
structure Window where
  peer : IpAddr
  exchange : Bool
  /-- Nanoseconds on the monotonic clock. -/
  start : Nat
  count : UInt32
  deriving DecidableEq, Repr

/-- What windows are counted by. -/
def Window.key (window : Window) : IpAddr × Bool :=
  (window.peer, window.exchange)

/-- Process-local admission guard. -/
structure Admission where
  windows : Table Window.key

/-- A window of one minute in nanoseconds. -/
def Window.nanos : Nat := 60 * 1000000000

/-- The most windows that are kept. -/
def Admission.maxWindows : Nat := 10000

/-- The requests of one kind that a window admits. -/
def Admission.limit (exchange : Bool) : UInt32 :=
  if exchange then 10 else 120

/-- Count one request, refusing it when its window is full or when there is no
room for another window. -/
def Admission.check
    (now : Nat)
    (peer : IpAddr)
    (exchange : Bool)
    (admission : Admission) : Except AppError Unit × Admission :=
  let windows := admission.windows.retain fun window =>
    now - window.start < Window.nanos
  let key := (peer, exchange)
  if windows.find key = none ∧
      windows.rows.length ≥ Admission.maxWindows then
    (.error .limited, ⟨windows⟩)
  else
    let fresh : Window := { peer, exchange, start := now, count := 0 }
    let window := (windows.find key).getD fresh
    let windows := windows.insertOrIgnore fresh
    if window.count ≥ Admission.limit exchange then
      (.error .limited, ⟨windows⟩)
    else
      (.ok (), ⟨windows.update key
        (fun window => { window with count := window.count + 1 })
        (fun _ => rfl)⟩)

/-- The request methods that routes ask for. -/
inductive Method
  | get
  | post
  | other
  deriving DecidableEq, Repr

/-- A request, by what routing and admission read of it. The path is the one
that was sent, before any decoding. -/
structure ServiceRequest where
  method : Method
  path : List UInt8
  peerAddr : Option IpAddr
  deriving DecidableEq, Repr

/-- What happens while requests are served. -/
inductive ServerEvent (η : Type)
  | check (peer : IpAddr) (exchange : Bool)
  | handle (handler : η)
  deriving DecidableEq, Repr

/-- The guard and the events so far. -/
structure Server (η : Type) where
  admission : Admission
  events : List (ServerEvent η)

/-- A request being served: an error ends it and keeps the server's state. -/
abbrev Serving (η α : Type) := ExceptT AppError (StateM (Server η)) α

variable {η : Type}

/-- Note that something happened. -/
def record (event : ServerEvent η) : Serving η Unit :=
  modify fun server => { server with events := server.events ++ [event] }

/-- The guard's answer to a call, and the server after it. -/
def Server.checked
    (now : Nat)
    (peer : IpAddr)
    (exchange : Bool)
    (server : Server η) : Except AppError Unit × Server η :=
  let (outcome, admission) := server.admission.check now peer exchange
  (outcome, {
    admission
    events := server.events ++ [.check peer exchange] })

/-- Call the guard. -/
def callCheck
    (now : Nat)
    (peer : IpAddr)
    (exchange : Bool) : Serving η Unit :=
  ExceptT.mk (Server.checked now peer exchange)

/-- The start of the paths that are admitted by the guard. -/
def guardedPath : List UInt8 := Percent.ascii "/v1/"

/-- The path that is counted as a session exchange. -/
def exchangePath : List UInt8 := Percent.ascii "/v1/sessions/exchange"

/-- The middleware in front of the router. -/
def enforce
    (now : Nat)
    (request : ServiceRequest)
    (next : ServiceRequest → Serving η α) : Serving η α := do
  if guardedPath.isPrefixOf request.path then
    match request.peerAddr with
    | none => throw .invalid
    | some peer => callCheck now peer (request.path = exchangePath)
  next request

section Enforce

variable
  {now : Nat}
  {request : ServiceRequest}
  {next : ServiceRequest → Serving η α}

theorem enforce_of_unguarded (unguarded : ¬ guardedPath <+: request.path) :
    enforce now request next = next request := by
  have notPrefix : ¬ guardedPath.isPrefixOf request.path := by
    rwa [List.isPrefixOf_iff_prefix]
  unfold enforce
  rw [if_neg notPrefix]

/-- A request with a guarded path calls the guard, and goes on when it is
admitted. -/
theorem run_enforce_of_guarded
    {peer : IpAddr}
    (guarded : guardedPath <+: request.path)
    (known : request.peerAddr = some peer)
    (server : Server η) :
    (enforce now request next).run.run server =
      match server.checked now peer (request.path = exchangePath) with
      | (.ok (), server) => (next request).run.run server
      | (.error error, server) => (.error error, server) := by
  have isPrefix : guardedPath.isPrefixOf request.path := by
    rwa [List.isPrefixOf_iff_prefix]
  unfold enforce
  rw [if_pos isPrefix, known]
  change (callCheck now peer (request.path = exchangePath) >>=
    fun _ => next request).run.run server = _
  rw [ExceptT.run_bind, StateT.run_bind]
  have called : (callCheck now peer (request.path = exchangePath)).run.run
      server = server.checked now peer (request.path = exchangePath) := rfl
  rw [called]
  rcases server.checked now peer (request.path = exchangePath) with
    ⟨_ | _, after⟩
  · rfl
  · rfl

end Enforce

end AsystantGateway
