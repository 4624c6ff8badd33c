import AsystantGateway.Deployment.Administration
import AsystantGateway.Deployment.Authorisation
import AsystantGateway.Model.Bodies

/-!
# The manifests that turns load

A registration stores the manifest of its request as text, with the models that
the policy of its session leaves it in place of its own. So behind every stored
text is a session of the login that has it, a valid manifest that was submitted
with the token of that session, and a policy that a configuration in force gave
the session, as behind every turn is one that was asked for. When the bodies of
the requests were read as JSON, reading the text gives that manifest back, tool
for tool.
-/

namespace AsystantGateway

open Json Provenance

/-- A manifest that a client has sent with the token of a session, or that of
a test. -/
def Submitted
    (setting : DeploymentSetting)
    (actions : List DeploymentAction)
    (session : Session)
    (source : Manifest) : Prop :=
  source = Playground.manifest ∨
    ∃ authorization token,
      .arrive (.init authorization source) ∈ actions ∧
        (ApiRequest.init authorization source).bearer = some token ∧
        setting.hash token = session.tokenHash

/-- A valid manifest that was submitted, with the models of a policy. -/
def Drafted
    (setting : DeploymentSetting)
    (actions : List DeploymentAction)
    (session : Session)
    (policy : ModelPolicy)
    (manifest : Manifest) : Prop :=
  ∃ source, Submitted setting actions session source ∧
    validateManifest source = .ok () ∧
    manifest = { source with models := registeredModels policy source.models }

/-- A session of a login has submitted such a manifest, and the policy is one
that a configuration in force gave that session. -/
def Assigned
    (setting : DeploymentSetting)
    (actions : List DeploymentAction)
    (identity : String)
    (manifest : Manifest) : Prop :=
  ∃ session policy, session.identity = identity ∧
    PolicyGiven setting session policy actions ∧
      Drafted setting actions session policy manifest

/-- A turn that a client has asked for, or that of a test. -/
def Asked
    (actions : List DeploymentAction)
    (turn : Turn) : Prop :=
  (∃ id requestId model, turn = Playground.turn id requestId model) ∨
    ∃ authorization, .arrive (.turn authorization turn) ∈ actions

section Grow

variable
  {setting : DeploymentSetting}
  {actions later : List DeploymentAction}
  {session : Session}
  (subset : actions ⊆ later)

include subset

theorem Submitted.mono
    {source : Manifest}
    (submitted : Submitted setting actions session source) :
    Submitted setting later session source := by
  rcases submitted with isTest | ⟨authorization, token, arrived, carried⟩
  · exact .inl isTest
  · exact .inr ⟨authorization, token, subset arrived, carried⟩

theorem Drafted.mono
    {policy : ModelPolicy}
    {manifest : Manifest}
    (drafted : Drafted setting actions session policy manifest) :
    Drafted setting later session policy manifest := by
  obtain ⟨source, submitted, valid, same⟩ := drafted
  exact ⟨source, submitted.mono subset, valid, same⟩

theorem Asked.mono
    {turn : Turn}
    (asked : Asked actions turn) :
    Asked later turn := by
  rcases asked with isTest | ⟨authorization, arrived⟩
  · exact .inl isTest
  · exact .inr ⟨authorization, subset arrived⟩

end Grow

theorem Assigned.mono
    {setting : DeploymentSetting}
    {actions later : List DeploymentAction}
    {identity : String}
    {manifest : Manifest}
    (isPrefix : actions <+: later)
    (assigned : Assigned setting actions identity manifest) :
    Assigned setting later identity manifest := by
  obtain ⟨session, policy, isLogin, given, drafted⟩ := assigned
  exact ⟨session, policy, isLogin, Machine.Passed.of_prefix isPrefix given,
    drafted.mono isPrefix.subset⟩

/-- A request carries the token of a session. A test has a token of its own. -/
def ApiRequest.Carries
    (setting : DeploymentSetting)
    (request : ApiRequest)
    (session : Session) : Prop :=
  request.isTest = true ∨
    ∃ token, request.bearer = some token ∧
      setting.hash token = session.tokenHash

/-- What a handler registers is valid and was submitted with the token of its
session. -/
def ApiPhase.Assigns
    (setting : DeploymentSetting)
    (request : ApiRequest)
    (actions : List DeploymentAction) : ApiPhase → Prop
  | .selecting token => request.isTest = true ∨ request.bearer = some token
  | .rechecking session | .authenticated session =>
      request.Carries setting session
  | .loadingPolicy session =>
      request.Carries setting session ∧
        ∀ source, request.manifest = some source →
          validateManifest source = .ok ()
  | .registering session _ manifest policy _ =>
      Drafted setting actions session policy manifest
  | _ => True

/-- What a handler has was submitted. -/
structure ApiCall.Sourced
    (setting : DeploymentSetting)
    (actions : List DeploymentAction)
    (call : ApiCall) : Prop where
  request : call.request.isTest = true ∨ .arrive call.request ∈ actions
  phase : call.phase.Assigns setting call.request actions

/-- What a deployment has was submitted. -/
structure Sourced
    (setting : DeploymentSetting)
    (actions : List DeploymentAction)
    (deployment : Deployment) : Prop where
  calls : ∀ call ∈ deployment.calls, call.Sourced setting actions
  turns : ∀ record ∈ deployment.gateway.turns, Asked actions record.turn
  rows : ∀ row ∈ deployment.gateway.database.registrations.rows,
    ∃ manifest, Assigned setting actions row.identity manifest ∧
      row.manifest = manifest.text

theorem ApiPhase.Assigns.concat
    {setting : DeploymentSetting}
    {actions : List DeploymentAction}
    {request : ApiRequest}
    {phase : ApiPhase}
    (assigns : phase.Assigns setting request actions)
    (action : DeploymentAction) :
    phase.Assigns setting request (actions ++ [action]) := by
  cases phase with
  | registering => exact Drafted.mono (List.subset_append_left _ _) assigns
  | _ => exact assigns

theorem ApiCall.Sourced.concat
    {setting : DeploymentSetting}
    {actions : List DeploymentAction}
    {call : ApiCall}
    (sourced : call.Sourced setting actions)
    (action : DeploymentAction) :
    call.Sourced setting (actions ++ [action]) where
  request := sourced.request.imp_right (List.mem_append_left _)
  phase := sourced.phase.concat action

section Step

variable
  {setting : DeploymentSetting}
  {actions : List DeploymentAction}
  {deployment next : Deployment}
  {action : DeploymentAction}

/-- The manifest of a handler was submitted with its request. -/
theorem ApiCall.Sourced.submitted
    {call : ApiCall}
    (sourced : call.Sourced setting actions)
    (session : Session)
    (carries : call.request.Carries setting session)
    (source : Manifest)
    (asked : call.request.manifest = some source) :
    Submitted setting actions session source := by
  have arrived := sourced.request
  cases isRequest : call.request with
  | init authorization manifest =>
      rw [isRequest] at arrived carries asked
      cases asked
      obtain ⟨token, carried⟩ := carries.resolve_left Bool.false_ne_true
      exact .inr ⟨authorization, token,
        arrived.resolve_left Bool.false_ne_true, carried⟩
  | test issuer =>
      rw [isRequest] at asked
      cases asked
      exact .inl rfl
  | _ =>
      rw [isRequest] at asked
      cases asked

/-- The turn that a handler starts was asked for with its request. -/
theorem ApiCall.Sourced.asked
    {call : ApiCall}
    {section_ : HandlerAction}
    {session : Session}
    {turn : Turn}
    (sourced : call.Sourced setting actions)
    (started : startedTurn call.request section_ call.phase =
      some (session, turn)) :
    Asked actions turn := by
  have arrived := sourced.request
  unfold startedTurn at started
  split at started
  · rename_i isRequest
    cases started
    rw [isRequest] at arrived
    exact .inr ⟨_, arrived.resolve_left Bool.false_ne_true⟩
  · cases started
    exact .inl ⟨_, _, _, rfl⟩
  · cases started

/-- A section of a handler registers what its request has. -/
theorem ApiStep.assigns
    {request : ApiRequest}
    {database : Database}
    {section_ : HandlerAction}
    {origin phase : ApiPhase}
    (taken : ApiStep setting request database section_ origin phase)
    (submitted : ∀ session, request.Carries setting session →
      ∀ source, request.manifest = some source →
        Submitted setting actions session source)
    (assigns : origin.Assigns setting request actions) :
    phase.Assigns setting request actions := by
  cases taken with
  | asked token carried size => exact .inr carried
  | signedIn requestId exchange claims session isTest => exact .inl isTest
  | selected now token session found alive =>
      exact assigns.imp_right fun carried =>
        ⟨token, carried, (Table.key_of_find found).symm⟩
  | rechecked session notRevoked => exact assigns
  | resumed session valid => exact ⟨assigns, valid⟩
  | registering id session config policy manifest loaded given asked =>
      exact ⟨manifest, submitted session assigns.1 manifest asked,
        assigns.2 manifest asked, rfl⟩
  | _ => trivial

/-- A closure goes on with the manifest of its handler. -/
theorem ClosureStep.assigns
    {request : ApiRequest}
    {now : Option Instant}
    {database after : Database}
    {origin phase : ApiPhase}
    (taken : ClosureStep database now origin phase after)
    (assigns : origin.Assigns setting request actions) :
    phase.Assigns setting request actions := by
  cases taken <;> exact assigns

/-- A closure stores the manifest of its handler, for the login of the session
that was given the policy. -/
theorem ClosureStep.rows_assigned
    {request : ApiRequest}
    {now : Option Instant}
    {database after : Database}
    {origin phase : ApiPhase}
    (taken : ClosureStep database now origin phase after)
    (assigns : origin.Assigns setting request actions)
    (traced : origin.Traced setting request actions)
    (rows : ∀ row ∈ database.registrations.rows,
      ∃ manifest, Assigned setting actions row.identity manifest ∧
        row.manifest = manifest.text) :
    ∀ row ∈ after.registrations.rows,
      ∃ manifest, Assigned setting actions row.identity manifest ∧
        row.manifest = manifest.text := by
  cases taken with
  | registered now session id manifest policy registrations inserted =>
      have assigned : Assigned setting actions session.identity manifest :=
        ⟨session, policy, rfl, traced.2.1, assigns⟩
      exact Table.forall_rows_insert inserted ⟨manifest, assigned, rfl⟩ rows
  | stored _ _ _ _ _ _ effect =>
      have same : after.registrations = database.registrations := by
        rw [← effect.frame]
      rw [same]
      exact rows
  | _ => exact rows

/-- What the handlers of a deployment have stays submitted. -/
theorem Sourced.calls_step
    (sourced : Sourced setting actions deployment)
    (stepped : DeploymentStep setting deployment action next) :
    ∀ call ∈ next.calls, call.Sourced setting (actions ++ [action]) := by
  have calls : ∀ call ∈ deployment.calls,
      call.Sourced setting (actions ++ [action]) :=
    fun call member => (sourced.calls call member).concat action
  cases stepped with
  | arrived request noTest =>
      intro call member
      rcases List.mem_append.mp member with prior | isNew
      · exact calls call prior
      · rw [List.mem_singleton.mp isNew]
        exact ⟨.inr (List.mem_append_right _ List.mem_cons_self), trivial⟩
  | handled index section_ call phase present taken =>
      have own := calls call (List.mem_of_getElem? present)
      have moved : ({ call with phase } : ApiCall).Sourced setting
          (actions ++ [.handler index section_]) :=
        ⟨own.request, taken.assigns own.submitted own.phase⟩
      rw [Deployment.calls_startTurn]
      exact Replace.forall_mem_set calls moved index
  | closed index now call phase database present taken =>
      have own := calls call (List.mem_of_getElem? present)
      have moved : ({ call with phase } : ApiCall).Sourced setting
          (actions ++ [.closure index now]) :=
        ⟨own.request, taken.assigns own.phase⟩
      exact Replace.forall_mem_set calls moved index
  | left index call present =>
      have own := calls call (List.mem_of_getElem? present)
      have gone : ({ call with attached := false } : ApiCall).Sourced setting
          (actions ++ [.disconnect index]) :=
        ⟨own.request, own.phase⟩
      exact Replace.forall_mem_set calls gone index
  | turned => exact calls
  | administered step inside =>
      intro call member
      rcases deployment.calls_adminStep_cases setting step with
        same | ⟨request, issuer, -, -, added⟩
      · rw [same] at member
        exact calls call member
      · rw [added] at member
        rcases List.mem_append.mp member with prior | isNew
        · exact calls call prior
        · rw [List.mem_singleton.mp isNew]
          exact ⟨.inl rfl, trivial⟩
  | restarted =>
      intro call member
      obtain ⟨prior, wasCall, rfl⟩ := List.mem_map.mp member
      exact ⟨(calls prior wasCall).request, trivial⟩

/-- The turns of a deployment stay asked for. -/
theorem Sourced.turns_step
    (sourced : Sourced setting actions deployment)
    (stepped : DeploymentStep setting deployment action next) :
    ∀ record ∈ next.gateway.turns, Asked (actions ++ [action]) record.turn := by
  have turns : ∀ record ∈ deployment.gateway.turns,
      Asked (actions ++ [action]) record.turn :=
    fun record member =>
      (sourced.turns record member).mono (List.subset_append_left _ _)
  cases stepped with
  | arrived | closed | left => exact turns
  | handled index section_ call phase present taken =>
      have own := sourced.calls call (List.mem_of_getElem? present)
      cases started : startedTurn call.request section_ call.phase with
      | none => exact turns
      | some pair =>
          intro record member
          rcases List.mem_append.mp member with prior | isNew
          · exact turns record prior
          · rw [List.mem_singleton.mp isNew]
            exact (own.asked started).mono (List.subset_append_left _ _)
  | turned index step gateway taken =>
      obtain ⟨record, phase, after, present, -, rfl⟩ :=
        Gateway.record_of_step taken
      have own := turns record (List.mem_of_getElem? present)
      exact Replace.forall_mem_set turns (by exact own) index
  | administered step inside =>
      rw [Deployment.gateway_adminStep]
      exact turns
  | restarted =>
      intro record member
      obtain ⟨prior, wasTurn, rfl⟩ := List.mem_map.mp member
      exact turns prior wasTurn

/-- The stored manifests of a deployment stay assigned. -/
theorem Sourced.rows_step
    (reached : (deployments setting).run actions = some deployment)
    (sourced : Sourced setting actions deployment)
    (stepped : DeploymentStep setting deployment action next) :
    ∀ row ∈ next.gateway.database.registrations.rows,
      ∃ manifest, Assigned setting (actions ++ [action]) row.identity manifest ∧
        row.manifest = manifest.text := by
  have rows : ∀ row ∈ deployment.gateway.database.registrations.rows,
      ∃ manifest, Assigned setting (actions ++ [action]) row.identity manifest ∧
        row.manifest = manifest.text := by
    intro row member
    obtain ⟨manifest, assigned, stored⟩ := sourced.rows row member
    exact ⟨manifest, assigned.mono (List.prefix_append _ _), stored⟩
  by_cases isClosure : ∃ index now, action = .closure index now
  · obtain ⟨index, now, rfl⟩ := isClosure
    cases stepped with
    | closed _ _ call phase database present taken =>
        have isCall := List.mem_of_getElem? present
        have own := (sourced.calls call isCall).concat (.closure index now)
        have traced := ((traces_of_run reached).calls call isCall).concat
          (.closure index now)
        exact taken.rows_assigned own.phase traced rows
  · have balanced := (Deployment.sound ⟨actions, reached⟩).balanced
    have noClosure : ∀ index now, action ≠ .closure index now :=
      fun index now same => isClosure ⟨index, now, same⟩
    rw [(stepped.sameCredentials balanced noClosure).registrations]
    exact rows

/-- Behind everything that a deployment has stored is what was submitted. -/
theorem sourced_of_run
    (reached : (deployments setting).run actions = some deployment) :
    Sourced setting actions deployment := by
  refine Machine.run_induction (motive := Sourced setting) ?_ ?_ reached
  · exact ⟨fun _ absent => absurd absent List.not_mem_nil,
      fun _ absent => absurd absent List.not_mem_nil,
      fun _ absent => absurd absent List.not_mem_nil⟩
  · intro actions deployment action next before sourced taken
    have stepped := DeploymentStep.of_step taken
    exact ⟨sourced.calls_step stepped, sourced.turns_step stepped,
      sourced.rows_step before stepped⟩

end Step

/-! ## Loading a manifest -/

/-- The manifests of the requests come from bodies, with numbers that are read
as they were written. -/
def Posted
    (round : String → Option String)
    (actions : List DeploymentAction) : Prop :=
  ∀ authorization source,
    .arrive (.init authorization source) ∈ actions →
      (∃ body, readBody round Manifest.ofValue body = .ok source) ∧
        ∀ tool ∈ source.tools, tool.Stable round

/-- A manifest that a registration stores is read from its text. -/
theorem Assigned.fromText_text
    {setting : DeploymentSetting}
    {round : String → Option String}
    {actions : List DeploymentAction}
    {identity : String}
    {manifest : Manifest}
    (assigned : Assigned setting actions identity manifest)
    (posted : Posted round actions) :
    Manifest.fromText round manifest.text = some manifest := by
  obtain ⟨_, _, -, -, source, submitted, -, rfl⟩ := assigned
  rcases submitted with rfl | ⟨authorization, token, arrived, -⟩
  · exact Manifest.fromText_text fun _ absent =>
      absurd absent List.not_mem_nil
  · obtain ⟨⟨body, isBody⟩, stable⟩ := posted authorization source arrived
    exact Manifest.fromText_text_of_fromText
      (Manifest.fromText_of_readBody isBody) stable _

end AsystantGateway
