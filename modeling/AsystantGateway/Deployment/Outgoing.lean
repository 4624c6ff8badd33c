import AsystantGateway.Admin.Frame
import AsystantGateway.Deployment.Manifests
import AsystantGateway.Model.Environment
import AsystantGateway.Provider.Outgoing

/-!
# What the providers are asked

A call of the provider is made with the model of the configuration that its
turn was checked against and with the manifest that its turn had loaded. The
model is a valid one of the environment, with its key, and the manifest was
checked before it was stored. So the request can be written, and it conveys the
turn.
-/

namespace AsystantGateway

open Json Provenance

variable
  {setting : DeploymentSetting}
  {round : String → Option String}
  {actions : List DeploymentAction}
  {session : Session}
  {turn : Turn}
  {job : ReserveJob}
  {manifest : Manifest}
  {config : Config}
  {model : ModelConfig}

/-- The manifest that a registration stored was assigned to its login. -/
theorem Provenance.AssistantRegistered.assigned
    {identity id : String}
    {now : Instant}
    (registered : AssistantRegistered setting identity id manifest now
      actions) :
    ∃ stored, Assigned setting actions identity stored ∧
      manifest.text = stored.text := by
  obtain ⟨before, action, state, next, isPrefix, -, reached, _, _, _, _, -, -,
    -, inserted, -⟩ := registered.exists_step
  obtain ⟨stored, assigned, isText⟩ := (sourced_of_run reached).rows _
    ((Table.mem_rows_insert inserted).mpr (.inl rfl))
  exact ⟨stored, assigned.mono isPrefix, isText⟩

/-- The manifest that a turn has loaded was assigned to its login. -/
theorem Provenance.ManifestLoaded.assigned
    (loaded : ManifestLoaded setting session turn manifest actions)
    (reads : setting.readManifest = Manifest.fromText round)
    (posted : Posted round actions) :
    Assigned setting actions session.identity manifest := by
  obtain ⟨before, _, _, _, isPrefix, -, -, _, _, stored, _, -, -, isManifest,
    -, registered, -⟩ := loaded.exists_step
  obtain ⟨source, assigned, isText⟩ := registered.assigned
  have inRun := assigned.mono
    ((List.prefix_append before _).trans isPrefix)
  rw [isText, reads, inRun.fromText_text posted] at isManifest
  cases isManifest
  exact inRun

/-- A turn that has loaded its manifest was found valid. -/
theorem Provenance.ManifestLoaded.valid
    (loaded : ManifestLoaded setting session turn manifest actions) :
    validateTurn turn = .ok () := by
  obtain ⟨_, _, _, _, -, -, -, _, _, _, _, -, -, -, -, -, admitted⟩ :=
    loaded.exists_step
  obtain ⟨_, _, _, _, -, -, -, _, -, valid, -⟩ := admitted.exists_step
  exact valid

/-- The turns of the requests come from bodies, with numbers that are read as
they were written. -/
def TurnsPosted
    (round : String → Option String)
    (actions : List DeploymentAction) : Prop :=
  ∀ authorization turn,
    .arrive (.turn authorization turn) ∈ actions →
      (∃ body, readBody round Turn.ofValue body = .ok turn) ∧
        ∀ message ∈ turn.messages, ∀ call ∈ message.calls,
          call.arguments.Stable round

/-- The arguments of a turn that was asked for are read back. -/
theorem Asked.readsBack
    {runtime : ProviderRuntime}
    (asked : Asked actions turn)
    (parses : runtime.parse = fun text =>
      (readJson round text).map Value.sorted)
    (posted : TurnsPosted round actions) :
    ∀ message ∈ turn.messages, message.ReadsBack runtime := by
  rcases asked with ⟨id, requestId, named, rfl⟩ | ⟨authorization, arrived⟩
  · intro message isMessage call isCall
    rw [List.mem_singleton.mp isMessage] at isCall
    cases isCall
  · obtain ⟨⟨body, isBody⟩, stable⟩ := posted authorization turn arrived
    intro message isMessage call isCall
    have kept := Turn.kept_of_readBody isBody stable message isMessage call
      isCall
    have readable : call.arguments.Readable round 127 :=
      kept.readable.of_le (by decide)
    rw [parses]
    dsimp only
    rw [readJson_compact readable, Option.map_some, kept.sorted.sorted_eq]

end AsystantGateway
