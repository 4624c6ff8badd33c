import AsystantGateway.Service.TurnSteps

/-!
# The life cycle of a turn

Over any interleaving of turns, restarts and other writers, every turn's claim
on the ledger is backed by its own row. So the provider is called at most once
for a login and a request id, a turn completes only with its charge settled, and
a turn that ends otherwise after its reservation leaves a pending row that
nothing touches again.
-/

namespace AsystantGateway

open Replace

/-- What a turn knows of its row. -/
def TurnRecord.claim
    (hash : String → String)
    (record : TurnRecord) : Option Claim :=
  record.phase.committed.map fun (job, charge) => {
    id := record.id hash
    identity := record.session.identity
    amount := job.amount
    charge }

namespace Gateway

/-- The claims of all turns. -/
def claims (hash : String → String) (gateway : Gateway) : List (Option Claim) :=
  gateway.turns.map (TurnRecord.claim hash)

/-- The inference slots that turns hold. -/
def holding (gateway : Gateway) : Nat :=
  (gateway.turns.map fun record => record.phase.permits).sum

/-- The provider calls in flight. -/
def inFlight (gateway : Gateway) : Nat :=
  gateway.turns.countP fun record =>
    match record.phase with
    | .inferring _ => true
    | _ => false

end Gateway

/-- What holds of the gateway in every run. -/
structure Sound (setting : TurnSetting) (gateway : Gateway) : Prop where
  balanced : Balanced gateway.database
  backed : Backed gateway.database (gateway.claims setting.hash)
  permits : gateway.free + gateway.holding = setting.slots
  calledOnce : gateway.called.Nodup
  called : ∀ pair ∈ gateway.called, ∃ record ∈ gateway.turns,
    record.pair = pair ∧ record.phase.WasCalled

section Steps

variable
  {setting : TurnSetting}
  {gateway next after : Gateway}
  {index : Nat}
  {record : TurnRecord}
  {action : TurnAction}
  {phase : Phase}

/-- A step of one turn is one of its transitions. -/
theorem Gateway.step_turn
    (taken : gateway.step setting (.turn index action) = some next) :
    ∃ record phase after, gateway.turns[index]? = some record ∧
      TurnStep setting record gateway action record.phase phase after ∧
        next = { after with
          turns := gateway.turns.set index { record with phase } } := by
  obtain ⟨record, present, rest⟩ := Option.bind_eq_some_iff.mp taken
  obtain ⟨⟨phase, after⟩, stepped, isNext⟩ := Option.bind_eq_some_iff.mp rest
  exact ⟨record, phase, after, present, .of_step stepped,
    (Option.some.inj isNext).symm⟩

/-- The id of a turn does not depend on where the turn is. -/
theorem TurnRecord.claim_phase
    (hash : String → String)
    (record : TurnRecord)
    (phase : Phase) :
    { record with phase }.claim hash =
      phase.committed.map fun (job, charge) => {
        id := record.id hash
        identity := record.session.identity
        amount := job.amount
        charge } := rfl

/-- A transition keeps the ledger balanced and the claims backed. -/
theorem LedgerStep.sound
    {database : Database}
    (ledger : LedgerStep setting record gateway.database database
      record.phase.committed phase.committed)
    (present : gateway.turns[index]? = some record)
    (balanced : Balanced gateway.database)
    (backed : Backed gateway.database (gateway.claims setting.hash)) :
    Balanced database ∧
      Backed database ((gateway.turns.set index { record with phase }).map
        (TurnRecord.claim setting.hash)) := by
  have claimed : (gateway.claims setting.hash)[index]? =
      some (record.claim setting.hash) := by
    simp [Gateway.claims, present]
  rw [List.map_set]
  change Balanced database ∧ Backed database
    ((gateway.claims setting.hash).set index
      ({ record with phase }.claim setting.hash))
  rw [TurnRecord.claim_phase]
  unfold TurnRecord.claim at claimed
  generalize record.phase.committed = before at ledger claimed
  generalize phase.committed = afterwards at ledger
  cases ledger with
  | same _ unchanged =>
      subst unchanged
      rw [set_eq_self claimed]
      exact ⟨balanced, backed⟩
  | reserved day job granted =>
      obtain ⟨admits, reserves⟩ := reserve_ok granted
      exact ⟨balanced.reserves reserves,
        backed.reserve claimed admits.free reserves⟩
  | settled job charge granted =>
      obtain ⟨nonneg, request, found, pending, settles⟩ :=
        balanced.settle_ok granted
      exact ⟨balanced.settles (Table.mem_of_find found) pending nonneg settles,
        backed.settle claimed (Table.key_of_find found) settles⟩

/-- Turns with the same login and request id have the same row. -/
theorem TurnRecord.id_eq_of_pair
    (hash : String → String)
    {first second : TurnRecord}
    (samePair : first.pair = second.pair) :
    first.id hash = second.id hash := by
  obtain ⟨sameIdentity, sameRequest⟩ := Prod.mk.inj samePair
  unfold TurnRecord.id
  rw [sameIdentity, sameRequest]

/-- Two turns with a reservation under one id are one turn. -/
theorem Sound.index_eq
    {other : Nat}
    {another : TurnRecord}
    (sound : Sound setting gateway)
    (present : gateway.turns[index]? = some record)
    (otherPresent : gateway.turns[other]? = some another)
    (committed : record.phase.committed.isSome = true)
    (otherCommitted : another.phase.committed.isSome = true)
    (sameId : record.id setting.hash = another.id setting.hash) :
    index = other := by
  obtain ⟨commitment, isCommitment⟩ := Option.isSome_iff_exists.mp committed
  obtain ⟨others, isOthers⟩ := Option.isSome_iff_exists.mp otherCommitted
  refine sound.backed.distinct index other {
      id := record.id setting.hash
      identity := record.session.identity
      amount := commitment.1.amount
      charge := commitment.2 } {
      id := another.id setting.hash
      identity := another.session.identity
      amount := others.1.amount
      charge := others.2 } ?_ ?_ sameId
  · simp [Gateway.claims, present, TurnRecord.claim, isCommitment]
  · simp [Gateway.claims, otherPresent, TurnRecord.claim, isOthers]

/-- A turn that is about to call the provider was not called for. -/
theorem Sound.pair_not_called
    {job : ReserveJob}
    (sound : Sound setting gateway)
    (present : gateway.turns[index]? = some record)
    (spawned : record.phase = .spawned job) :
    record.pair ∉ gateway.called := by
  intro wasCalled
  obtain ⟨another, member, samePair, called⟩ := sound.called _ wasCalled
  obtain ⟨other, otherPresent⟩ := List.mem_iff_getElem?.mp member
  have sameIndex := sound.index_eq present otherPresent (by rw [spawned]; rfl)
    called.committed (TurnRecord.id_eq_of_pair setting.hash samePair.symm)
  subst sameIndex
  obtain rfl := Option.some.inj (present.symm.trans otherPresent)
  rw [spawned] at called
  exact called

/-- A turn for which the provider was called stays one. -/
theorem called_set
    {pair : String × String}
    (present : gateway.turns[index]? = some record)
    (keeps : record.phase.WasCalled → phase.WasCalled)
    (called : ∃ other ∈ gateway.turns,
      other.pair = pair ∧ other.phase.WasCalled) :
    ∃ other ∈ gateway.turns.set index { record with phase },
      other.pair = pair ∧ other.phase.WasCalled := by
  obtain ⟨other, member, isPair, wasCalled⟩ := called
  obtain ⟨place, found⟩ := List.mem_iff_getElem?.mp member
  by_cases here : place = index
  · subst here
    obtain rfl := Option.some.inj (present.symm.trans found)
    exact ⟨_, (mem_set_iff present).mpr (.inl rfl), isPair, keeps wasCalled⟩
  · exact ⟨other, (mem_set_iff present).mpr (.inr ⟨place, here, found⟩),
      isPair, wasCalled⟩

/-- A step of one turn keeps everything sound. -/
theorem Sound.turn
    (sound : Sound setting gateway)
    (present : gateway.turns[index]? = some record)
    (stepped : TurnStep setting record gateway action record.phase phase
      after) :
    Sound setting { after with
      turns := gateway.turns.set index { record with phase } } := by
  obtain ⟨balanced, backed⟩ :=
    stepped.ledger.sound present sound.balanced sound.backed
  have permits := stepped.permits
  have holding := sum_map_set present
    (fun record : TurnRecord => record.phase.permits) { record with phase }
  have total := sound.permits
  refine ⟨balanced, backed, ?_, ?_, ?_⟩
  · unfold Gateway.holding at total ⊢
    simp only at holding ⊢
    omega
  · rcases stepped.called_cases with
      ⟨-, same, -⟩ | ⟨job, -, spawned, -, called⟩
    · rw [same]
      exact sound.calledOnce
    · rw [called, List.nodup_append]
      refine ⟨sound.calledOnce, List.nodup_singleton _, ?_⟩
      intro pair wasCalled other isPair
      obtain rfl := List.mem_singleton.mp isPair
      rintro rfl
      exact sound.pair_not_called present spawned wasCalled
  · rcases stepped.called_cases with
      ⟨-, same, keeps⟩ | ⟨job, -, spawned, rfl, called⟩
    · intro pair wasCalled
      rw [same] at wasCalled
      exact called_set present keeps (sound.called pair wasCalled)
    · intro pair wasCalled
      rw [called, List.mem_append, List.mem_singleton] at wasCalled
      rcases wasCalled with before | rfl
      · exact called_set present (fun _ => trivial) (sound.called pair before)
      · exact ⟨_, (mem_set_iff present).mpr (.inl rfl), rfl, trivial⟩

/-- A turn for which the provider was called stays one after a restart. -/
theorem Phase.WasCalled.crash
    (called : phase.WasCalled) :
    phase.crash.WasCalled := by
  unfold Phase.crash
  split
  · exact called
  · obtain ⟨commitment, isCommitment⟩ :=
      Option.isSome_iff_exists.mp called.committed
    rw [isCommitment]
    trivial

theorem Sound.restart (sound : Sound setting gateway) :
    Sound setting { gateway with
      free := setting.slots
      turns := gateway.turns.map fun record =>
        { record with phase := record.phase.crash } } := by
  have claims : (gateway.turns.map fun record =>
      ({ record with phase := record.phase.crash } : TurnRecord)).map
        (TurnRecord.claim setting.hash) = gateway.claims setting.hash := by
    simp only [List.map_map, Gateway.claims]
    apply List.map_congr_left
    intro record _
    change TurnRecord.claim _ { record with phase := record.phase.crash } = _
    rw [TurnRecord.claim_phase, Phase.committed_crash]
    rfl
  refine ⟨sound.balanced, ?_, ?_, sound.calledOnce, ?_⟩
  · unfold Gateway.claims
    simp only [claims]
    exact sound.backed
  · simp [Gateway.holding, Function.comp_def]
  · intro pair wasCalled
    obtain ⟨record, member, isPair, called⟩ := sound.called pair wasCalled
    exact ⟨_, List.mem_map_of_mem member, isPair, called.crash⟩

/-- Every step keeps everything sound. -/
theorem Sound.step
    {action : GatewayAction}
    (sound : Sound setting gateway)
    (taken : gateway.step setting action = some next) :
    Sound setting next := by
  cases action with
  | arrive session turn =>
      cases taken
      refine ⟨sound.balanced, ?_, ?_, sound.calledOnce, ?_⟩
      · simpa [Gateway.claims, TurnRecord.claim, Phase.committed] using
          sound.backed.arrive
      · simpa [Gateway.holding, Phase.permits] using sound.permits
      · intro pair wasCalled
        obtain ⟨record, member, found⟩ := sound.called pair wasCalled
        exact ⟨record, List.mem_append_left _ member, found⟩
  | turn index action =>
      obtain ⟨record, phase, after, present, stepped, rfl⟩ :=
        Gateway.step_turn taken
      exact sound.turn present stepped
  | restart =>
      cases taken
      exact sound.restart
  | elsewhere other =>
      cases taken
      obtain ⟨balanced, backed, permits, calledOnce, called⟩ := sound
      exact ⟨⟨balanced.held, balanced.distinct, balanced.tenantExists,
          balanced.userExists, balanced.charged⟩,
        ⟨backed.row, backed.distinct, backed.complete⟩, permits, calledOnce,
        called⟩

end Steps

theorem Sound.start (setting : TurnSetting) :
    Sound setting (turns setting).start where
  balanced := .empty
  backed := .empty
  permits := rfl
  calledOnce := List.nodup_nil
  called _ member := by cases member

theorem sound_of_reachable
    {setting : TurnSetting}
    {gateway : Gateway}
    (reachable : (turns setting).Reachable gateway) :
    Sound setting gateway :=
  Machine.invariant (.start setting)
    (fun _ _ _ sound taken => sound.step taken) reachable

end AsystantGateway
