import AsystantGateway.Library.Json.Size
import AsystantGateway.Service.TurnCycle

/-!
# How turns end

A step of the gateway moves the turn at an index by one of its transitions, by
the restart, or not at all, so what transitions and restarts keep of a turn
holds for the rest of the run. From this follow how a completed turn was
answered, that a refused turn never moved the ledger, and that a row whose turn
will not settle it stays pending with its reservation held.
-/

namespace AsystantGateway

open Replace

/-! ## A turn through a run -/

section Stay

variable
  {setting : TurnSetting}
  {gateway next last : Gateway}
  {action : GatewayAction}
  {index : Nat}
  {record : TurnRecord}

/-- What a step of the gateway can do to the turn at an index. -/
inductive Moved
    (setting : TurnSetting)
    (gateway : Gateway)
    (index : Nat)
    (record : TurnRecord) : GatewayAction → Phase → Prop
  | stayed (action : GatewayAction) :
      Moved setting gateway index record action record.phase
  | crashed : Moved setting gateway index record .restart record.phase.crash
  | stepped (action : TurnAction) (phase : Phase) (after : Gateway)
      (taken : TurnStep setting record gateway action record.phase phase
        after) :
      Moved setting gateway index record (.turn index action) phase

/-- After a step of the gateway a turn is where it was moved to. -/
theorem Gateway.step_moves
    (taken : gateway.step setting action = some next)
    (present : gateway.turns[index]? = some record) :
    ∃ phase, next.turns[index]? = some { record with phase } ∧
      Moved setting gateway index record action phase := by
  cases action with
  | arrive session turn =>
      cases taken
      refine ⟨record.phase, ?_, .stayed _⟩
      obtain ⟨inside, -⟩ := List.getElem?_eq_some_iff.mp present
      exact (List.getElem?_append_left inside).trans present
  | turn place action =>
      obtain ⟨mover, phase, after, found, stepped, rfl⟩ :=
        Gateway.step_turn taken
      by_cases here : index = place
      · subst here
        obtain rfl := Option.some.inj (present.symm.trans found)
        exact ⟨phase, (getElem?_set_eq_some_iff found).mpr (.inl ⟨rfl, rfl⟩),
          .stepped action phase after stepped⟩
      · exact ⟨record.phase,
          (getElem?_set_eq_some_iff found).mpr (.inr ⟨here, present⟩),
          .stayed _⟩
  | restart =>
      cases taken
      exact ⟨record.phase.crash, by simp [present], .crashed⟩
  | elsewhere other =>
      cases taken
      exact ⟨record.phase, present, .stayed _⟩

/-- A turn found after a step has just arrived, or was moved there. -/
theorem Gateway.moved_of_step
    (taken : gateway.step setting action = some next)
    (found : next.turns[index]? = some record) :
    record.phase = .received ∨
      ∃ prior, gateway.turns[index]? = some prior ∧
        record = { prior with phase := record.phase } ∧
          Moved setting gateway index prior action record.phase := by
  cases present : gateway.turns[index]? with
  | some prior =>
      obtain ⟨phase, after, moved⟩ := Gateway.step_moves taken present
      obtain rfl := Option.some.inj (found.symm.trans after)
      exact .inr ⟨prior, rfl, rfl, moved⟩
  | none =>
      have outside := List.getElem?_eq_none_iff.mp present
      cases action with
      | arrive session turn =>
          cases taken
          rw [List.getElem?_append_right outside,
            List.getElem?_singleton] at found
          split at found
          · cases found
            exact .inl rfl
          · cases found
      | turn place action =>
          obtain ⟨mover, phase, after, -, -, rfl⟩ := Gateway.step_turn taken
          rw [List.getElem?_eq_none (by simpa using outside)] at found
          cases found
      | restart =>
          cases taken
          simp [present] at found
      | elsewhere other =>
          cases taken
          rw [present] at found
          cases found

/-- A turn at an index whose phase is of a kind. -/
def Gateway.Has
    (gateway : Gateway)
    (index : Nat)
    (record : TurnRecord)
    (kind : Phase → Prop) : Prop :=
  ∃ phase, gateway.turns[index]? = some { record with phase } ∧ kind phase

/-- What no transition and no restart ends. -/
structure Lasting (setting : TurnSetting) (kind : Phase → Prop) : Prop where
  step : ∀ {record : TurnRecord} {gateway after : Gateway}
    {action : TurnAction} {origin phase : Phase},
    TurnStep setting record gateway action origin phase after →
      kind origin → kind phase
  crash : ∀ {phase : Phase}, kind phase → kind phase.crash

/-- A turn keeps a lasting kind over a step of the gateway. -/
theorem Lasting.has_of_step
    {kind : Phase → Prop}
    (lasting : Lasting setting kind)
    (has : gateway.Has index record kind)
    (taken : gateway.step setting action = some next) :
    next.Has index record kind := by
  obtain ⟨phase, present, isKind⟩ := has
  obtain ⟨after, found, moved⟩ := Gateway.step_moves taken present
  refine ⟨after, found, ?_⟩
  cases moved with
  | stayed => exact isKind
  | crashed => exact lasting.crash isKind
  | stepped action _ _ stepped => exact lasting.step stepped isKind

/-- A turn keeps a lasting kind over the rest of a run. -/
theorem Lasting.has_of_run
    {kind : Phase → Prop}
    {later : List GatewayAction}
    (lasting : Lasting setting kind)
    (has : gateway.Has index record kind)
    (onward : (turns setting).runFrom gateway later = some last) :
    last.Has index record kind :=
  Machine.stable (motive := fun gateway => gateway.Has index record kind)
    (fun _ _ _ held taken => lasting.has_of_step held taken) has onward

end Stay

/-! ## A reservation that nothing settles -/

/-- The turn has a reservation and will not settle it: the provider did not
answer, or the settlement failed, or the task that would have settled it was
lost or never spawned. -/
inductive Phase.Uncertain (job : ReserveJob) : Phase → Prop
  | failed : Uncertain job (.failed job)
  | notSettled (message : Message) (charge : Int64) (error : AppError) :
      Uncertain job (.settling job message charge (.finished (.error error)))
  | detached : Uncertain job (.detached job (.finished (.ok ())))
  | lost : Uncertain job (.lost (some (job, none)))

namespace Phase

variable {phase : Phase} {job : ReserveJob}

/-- A restart gives no turn an answer. -/
theorem answer_of_crash
    {answer : Message × Int64}
    (has : phase.crash.answer = some answer) :
    phase.answer = some answer := by
  unfold crash at has
  split at has
  · exact has
  · cases has

theorem Uncertain.committed (uncertain : phase.Uncertain job) :
    phase.committed = some (job, none) := by
  cases uncertain <;> rfl

/-- Whoever has a reservation without a charge when the gateway restarts will
not settle it. -/
theorem uncertain_crash (committed : phase.committed = some (job, none)) :
    phase.crash.Uncertain job := by
  unfold crash
  split
  case isTrue ended =>
    cases phase with
    | failed other =>
        cases committed
        exact .failed
    | detached other closure =>
        rcases closure with _ | _ | _ <;> cases committed
        exact .detached
    | lost other =>
        cases committed
        exact .lost
    | completed | refused | dropped => cases committed
    | _ => cases ended
  case isFalse =>
    rw [committed]
    exact .lost

end Phase

/-- A reservation that nothing settles stays one. -/
theorem lasting_uncertain (setting : TurnSetting) (job : ReserveJob) :
    Lasting setting (Phase.Uncertain job) where
  step taken uncertain := by
    cases taken with
    | notCompleted other message charge error =>
        cases uncertain
        exact .failed
    | _ => cases uncertain
  crash uncertain := Phase.uncertain_crash uncertain.committed

/-- A turn that has committed to the ledger stays one that has. -/
theorem lasting_committed (setting : TurnSetting) :
    Lasting setting fun phase => phase.committed.isSome = true where
  step {record gateway after action origin phase} taken isSome := by
    have ledger := taken.ledger
    generalize origin.committed = before at ledger isSome
    generalize phase.committed = afterwards at ledger ⊢
    cases ledger with
    | same _ _ => exact isSome
    | reserved _ _ _ => rfl
    | settled _ _ _ => rfl
  crash isSome := by
    rw [Phase.committed_crash]
    exact isSome

section Outcome

variable
  {setting : TurnSetting}
  {gateway next last : Gateway}
  {index : Nat}
  {record : TurnRecord}
  {job : ReserveJob}

/-- What a turn does to the ledger leaves the rows of others as they are. -/
theorem LedgerStep.find_of_ne
    {before after : Database}
    {origin committed : Option (ReserveJob × Option Int64)}
    {id : String}
    {row : Request}
    (ledger : LedgerStep setting record before after origin committed)
    (balanced : Balanced before)
    (found : before.requests.find id = some row)
    (other : origin.isSome = true → record.id setting.hash ≠ id) :
    after.requests.find id = some row := by
  cases ledger with
  | same _ unchanged =>
      rw [unchanged]
      exact found
  | reserved day job granted =>
      obtain ⟨admits, reserves⟩ := reserve_ok granted
      obtain ⟨check, inserted⟩ := reserves.recorded
      rw [Table.find_insert inserted, if_neg]
      · exact found
      · rintro rfl
        exact Option.some_ne_none _ (found.symm.trans admits.free)
  | settled job charge granted =>
      obtain ⟨-, request, isRequest, -, settles⟩ := balanced.settle_ok granted
      rw [settles.requests, Table.find_update, if_neg]
      · exact found
      · rintro rfl
        exact other rfl (Table.key_of_find isRequest).symm

/-- A turn whose row nothing settles leaves the ledger alone. -/
theorem TurnStep.database_of_uncertain
    {action : TurnAction}
    {origin phase : Phase}
    (taken : TurnStep setting record gateway action origin phase next)
    (uncertain : origin.Uncertain job) :
    next.database = gateway.database := by
  cases taken with
  | notCompleted => rfl
  | _ => cases uncertain

/-- No step touches a row that its own turn will not settle. -/
theorem Sound.find_of_uncertain
    {action : GatewayAction}
    {row : Request}
    (sound : Sound setting gateway)
    (has : gateway.Has index record (Phase.Uncertain job))
    (found : gateway.database.requests.find (record.id setting.hash) =
      some row)
    (taken : gateway.step setting action = some next) :
    next.database.requests.find (record.id setting.hash) = some row := by
  cases action with
  | arrive session turn =>
      cases taken
      exact found
  | turn place action =>
      obtain ⟨mover, phase, after, present, stepped, rfl⟩ :=
        Gateway.step_turn taken
      obtain ⟨origin, here, uncertain⟩ := has
      by_cases own : index = place
      · subst own
        obtain rfl := Option.some.inj (here.symm.trans present)
        change after.database.requests.find _ = _
        rw [stepped.database_of_uncertain uncertain]
        exact found
      · refine stepped.ledger.find_of_ne sound.balanced found ?_
        intro committed sameId
        refine own (sound.index_eq here present ?_ committed sameId.symm)
        simp [uncertain.committed]
  | restart =>
      cases taken
      exact found
  | elsewhere other =>
      cases taken
      exact found

/-- A request is pending, and each of its accounts holds its reservation in
full next to what it holds for the other requests. -/
structure HeldInFull
    (database : Database)
    (request : Request)
    (job : ReserveJob) : Prop where
  found : database.requests.find request.id = some request
  pending : request.status = .pending
  reservation : request.reservation = job.amount
  held : ∀ account,
    account = request.tenantAccount ∨ account = request.userAccount →
      database.held account = job.amount.toInt +
        database.requests.total fun other =>
          if other.id = request.id then 0 else contribution account other

/-- The row of a pending claim is held in full. -/
theorem Balanced.heldInFull
    {database : Database}
    {request : Request}
    (balanced : Balanced database)
    (found : database.requests.find request.id = some request)
    (pending : request.status = .pending)
    (reservation : request.reservation = job.amount) :
    HeldInFull database request job where
  found := found
  pending := pending
  reservation := reservation
  held account ofRequest := by
    have own : contribution account request = job.amount.toInt := by
      have isAccount : request.tenantAccount = account ∨
          request.userAccount = account :=
        ofRequest.imp Eq.symm Eq.symm
      simp [contribution, isAccount, pending, reservation]
    rw [balanced.held account, Table.total_eq_add_others found, own]

/-- The row of a turn that has committed to the ledger. -/
theorem Sound.row_of_committed
    {charge : Option Int64}
    (sound : Sound setting gateway)
    (present : gateway.turns[index]? = some record)
    (committed : record.phase.committed = some (job, charge)) :
    ∃ row, gateway.database.requests.find (record.id setting.hash) = some row ∧
      Claim.Describes {
        id := record.id setting.hash
        identity := record.session.identity
        amount := job.amount
        charge } row := by
  have claimed : record.claim setting.hash ∈ gateway.claims setting.hash :=
    List.mem_map_of_mem (List.mem_of_getElem? present)
  unfold TurnRecord.claim at claimed
  rw [committed] at claimed
  exact sound.backed.row _ claimed

/-- The row of a turn that will not settle it is held in full from then on. -/
theorem Sound.held_of_uncertain
    (sound : Sound setting gateway)
    (present : gateway.turns[index]? = some record)
    (uncertain : record.phase.Uncertain job) :
    ∃ row, row.id = record.id setting.hash ∧
      row.identity = record.session.identity ∧
      ∀ later last, (turns setting).runFrom gateway later = some last →
        HeldInFull last.database row job := by
  obtain ⟨row, found, describes⟩ :=
    sound.row_of_committed present uncertain.committed
  have isId := Table.key_of_find found
  refine ⟨row, isId, describes.identity, fun later last onward => ?_⟩
  obtain ⟨lastSound, -, lastFound⟩ := Machine.stable
    (motive := fun gateway => Sound setting gateway ∧
      gateway.Has index record (Phase.Uncertain job) ∧
        gateway.database.requests.find (record.id setting.hash) = some row)
    (fun _ _ _ ⟨sound, has, found⟩ taken =>
      ⟨sound.step taken, (lasting_uncertain setting job).has_of_step has taken,
        sound.find_of_uncertain has found taken⟩)
    ⟨sound, ⟨_, present, uncertain⟩, found⟩ onward
  rw [← isId] at lastFound
  exact lastSound.balanced.heldInFull lastFound describes.status
    describes.reservation

/-- A step of a turn that ends in an error has left the database as it was. -/
theorem database_of_refused
    {action : TurnAction}
    {later : List GatewayAction}
    {error : AppError}
    (taken : gateway.step setting (.turn index action) = some next)
    (onward : (turns setting).runFrom next later = some last)
    (present : last.turns[index]? = some record)
    (refused : record.phase = .refused error) :
    next.database = gateway.database := by
  obtain ⟨mover, phase, after, found, stepped, rfl⟩ := Gateway.step_turn taken
  change after.database = gateway.database
  have uncommitted : phase.committed.isSome ≠ true := by
    intro committed
    obtain ⟨final, isFinal, still⟩ := (lasting_committed setting).has_of_run
      ⟨phase, (getElem?_set_eq_some_iff found).mpr (.inl ⟨rfl, rfl⟩), committed⟩
      onward
    obtain rfl := Option.some.inj (present.symm.trans isFinal)
    cases refused
    cases still
  have ledger := stepped.ledger
  generalize mover.phase.committed = before at ledger
  generalize phase.committed = afterwards at ledger uncommitted
  cases ledger with
  | same _ unchanged => exact unchanged
  | reserved _ _ _ => exact absurd rfl uncommitted
  | settled _ _ _ => exact absurd rfl uncommitted

end Outcome

/-- A turn works only with what its provider answered. -/
theorem answered_of_run
    {setting : TurnSetting}
    {actions : List GatewayAction}
    {gateway : Gateway}
    (reached : (turns setting).run actions = some gateway) :
    ∀ index record message charge,
      gateway.turns[index]? = some record →
        record.phase.answer = some (message, charge) →
          .turn index (.provider (some (message, charge))) ∈ actions := by
  refine Machine.run_induction (motive := fun actions gateway =>
    ∀ index record message charge,
      gateway.turns[index]? = some record →
        record.phase.answer = some (message, charge) →
          .turn index (.provider (some (message, charge))) ∈ actions)
    ?_ ?_ reached
  · intro index record message charge present
    cases present
  · intro actions gateway action next _ answered taken index record message
      charge present answer
    rw [List.mem_append, List.mem_singleton]
    rcases Gateway.moved_of_step taken present with
      arrived | ⟨prior, before, -, moved⟩
    · rw [arrived] at answer
      cases answer
    · generalize record.phase = phase at moved answer
      cases moved with
      | stayed => exact .inl (answered index prior message charge before answer)
      | crashed =>
          refine .inl (answered index prior message charge before ?_)
          exact Phase.answer_of_crash answer
      | stepped action _ _ stepped =>
          rcases stepped.answer_cases answer with had | rfl
          · exact .inl (answered index prior message charge before had)
          · exact .inr rfl

/-- A call of the provider is in flight only with a slot. -/
theorem Gateway.inFlight_le_holding (gateway : Gateway) :
    gateway.inFlight ≤ gateway.holding := by
  unfold Gateway.inFlight Gateway.holding
  induction gateway.turns with
  | nil => exact Nat.le_refl 0
  | cons record rest inductionHypothesis =>
      rw [List.countP_cons, List.map_cons, List.sum_cons, Nat.add_comm]
      apply Nat.add_le_add _ inductionHypothesis
      cases record.phase with
      | inferring => exact Nat.le_refl 1
      | _ => exact Nat.zero_le _

theorem Phase.permits_le_one (phase : Phase) : phase.permits ≤ 1 := by
  cases phase <;> first | exact Nat.le_refl 1 | exact Nat.zero_le 1

theorem Phase.permits_of_isOver
    {phase : Phase}
    (ended : phase.isOver = true) :
    phase.permits = 0 := by
  cases phase <;> first | rfl | cases ended

/-- Without a turn that is under way every slot is free. -/
theorem Sound.free_of_isOver
    {setting : TurnSetting}
    {gateway : Gateway}
    (sound : Sound setting gateway)
    (ended : ∀ record ∈ gateway.turns, record.phase.isOver = true) :
    gateway.free = setting.slots := by
  have holding : gateway.holding = 0 := by
    apply List.sum_eq_zero
    intro permits member
    obtain ⟨record, present, rfl⟩ := List.mem_map.mp member
    exact Phase.permits_of_isOver (ended record present)
  have permits := sound.permits
  omega

/-- The provider is called for a turn while its row is pending, and nothing
else is. -/
theorem Sound.called_of_step
    {setting : TurnSetting}
    {gateway next : Gateway}
    {action : GatewayAction}
    (sound : Sound setting gateway)
    (taken : gateway.step setting action = some next) :
    (∀ index, action ≠ .turn index .callProvider) ∧
        next.called = gateway.called ∨
      ∃ index record row, action = .turn index .callProvider ∧
        gateway.turns[index]? = some record ∧
        next.called = gateway.called ++ [record.pair] ∧
        gateway.database.requests.find (record.id setting.hash) = some row ∧
        row.identity = record.session.identity ∧
        row.status = .pending := by
  cases action with
  | turn index action =>
      obtain ⟨record, phase, after, present, stepped, rfl⟩ :=
        Gateway.step_turn taken
      rcases stepped.called_cases with
        ⟨another, same, -⟩ | ⟨job, rfl, spawned, -, called⟩
      · refine .inl ⟨fun index isCall => another ?_, same⟩
        exact (GatewayAction.turn.inj isCall).2
      · have committed : record.phase.committed = some (job, none) :=
          congrArg Phase.committed spawned
        obtain ⟨row, found, describes⟩ :=
          sound.row_of_committed present committed
        exact .inr ⟨index, record, row, rfl, present, called, found,
          describes.identity, describes.status⟩
  | _ =>
      cases taken
      exact .inl ⟨nofun, rfl⟩

/-- Over any interleaving of turns, disconnects, restarts and other writers,
the provider is called at most once for a login and a request id, and then for
a pending row; a turn completes only once its row is settled with the charge
that the provider answered with; a row that its turn will not settle stays
pending and held in full; a turn that is refused has left the database alone;
and the provider calls in flight are bounded by the slots, all of which are
free when no turn is under way. -/
theorem turn_life_cycle
    (setting : TurnSetting)
    (actions : List GatewayAction)
    (gateway : Gateway)
    (reached : (turns setting).run actions = some gateway) :
    (gateway.called.Nodup ∧
      ∀ action next, gateway.step setting action = some next →
        (∀ index, action ≠ .turn index .callProvider) ∧
            next.called = gateway.called ∨
          ∃ index record row, action = .turn index .callProvider ∧
            gateway.turns[index]? = some record ∧
            next.called = gateway.called ++ [record.pair] ∧
            gateway.database.requests.find (record.id setting.hash) =
              some row ∧
            row.identity = record.session.identity ∧
            row.status = .pending) ∧
    (∀ (index : Nat) (record : TurnRecord) job message charge,
      gateway.turns[index]? = some record →
        record.phase = .completed job message charge →
          .turn index (.provider (some (message, charge))) ∈ actions ∧
          ∃ row, gateway.database.requests.find (record.id setting.hash) =
              some row ∧
            row.status = .settled ∧
            row.charged = some charge) ∧
    (∀ (index : Nat) (record : TurnRecord) job,
      gateway.turns[index]? = some record →
      (record.phase.committed = some (job, none) →
        record.phase.crash.Uncertain job) ∧
      (record.phase.Uncertain job →
        ∃ row, row.id = record.id setting.hash ∧
          row.identity = record.session.identity ∧
          ∀ later last, (turns setting).runFrom gateway later = some last →
            HeldInFull last.database row job)) ∧
    (∀ (index : Nat) (record : TurnRecord) error,
      gateway.turns[index]? = some record →
      record.phase = .refused error →
        ∀ before action later first next,
          actions = before ++ .turn index action :: later →
            (turns setting).run before = some first →
              first.step setting (.turn index action) = some next →
                next.database = first.database) ∧
    (gateway.inFlight ≤ setting.slots ∧
      gateway.free + gateway.holding = setting.slots ∧
      (∀ record ∈ gateway.turns, record.phase.permits ≤ 1 ∧
        (record.phase.isOver = true → record.phase.permits = 0)) ∧
      ((∀ record ∈ gateway.turns, record.phase.isOver = true) →
        gateway.free = setting.slots)) := by
  have sound := sound_of_reachable ⟨actions, reached⟩
  refine ⟨⟨sound.calledOnce, fun _ _ taken => sound.called_of_step taken⟩,
    ?_, ?_, ?_, ?_, sound.permits, ?_, sound.free_of_isOver⟩
  · intro index record job message charge present completed
    have committed : record.phase.committed = some (job, some charge) :=
      congrArg Phase.committed completed
    obtain ⟨row, found, describes⟩ := sound.row_of_committed present committed
    exact ⟨answered_of_run reached index record message charge present
        (congrArg Phase.answer completed),
      row, found, describes.status, describes.charged⟩
  · intro index record job present
    exact ⟨Phase.uncertain_crash, sound.held_of_uncertain present⟩
  · intro index record error present refused before action later first next
      split prior taken
    subst split
    exact database_of_refused taken
      (Machine.runFrom_of_run_append_cons reached prior taken) present refused
  · have inFlight := gateway.inFlight_le_holding
    have permits := sound.permits
    omega
  · intro record _
    exact ⟨record.phase.permits_le_one, Phase.permits_of_isOver⟩

/-! ## One turn -/

section Ask

open Json

def askModel : ModelConfig where
  id := "model"
  provider := .openai
  model := "gpt"
  keyEnv := "KEY"
  wireApi := .chatCompletions
  inputMicrosPerMillion := 1000000
  outputMicrosPerMillion := 1000000
  maxInputTokens := 100000
  maxOutputTokens := 1000

def askProduct : Product where
  issuer := "host"
  secret := "0123456789abcdef0123456789abcdef"
  dailyTenantMicros := 1000000
  dailyUserMicros := 1000000
  models := ["model"]
  defaultModel := none
  clientModels := []
  budgetOverrides := []

def askConfig : Config where
  products := [askProduct]
  models := [askModel]
  origins := []

def askSession : Session where
  tokenHash := "token"
  identity := "[\"host\",\"tenant\",\"user\",\"login\"]"
  sid := "[\"host\",\"tenant\",\"user\",\"login\"]"
  issuer := "host"
  tenant := "tenant"
  subject := "user"
  expiresAt := 10

def askMessage : Message where
  role := "user"
  content := "hello"
  calls := []
  callId := ""

def askTurn : Turn where
  registrationId := "assistant"
  requestId := "request"
  model := "model"
  messages := [askMessage]

def askManifest : Manifest where
  tools := []
  prompts := []
  models := ["model"]

/-- What is reserved for the turn. -/
def askJob : ReserveJob where
  amount := 101000
  tenantLimit := 1000000
  userLimit := 1000000

/-- No document is stored, one manifest is, and one text is hashed. -/
def askSetting (manifest : Manifest) : TurnSetting where
  codec := { toText := fun _ => "", fromText := fun _ => none }
  parseUrl := fun _ => none
  environment := askConfig
  readManifest := fun _ => some manifest
  hash := fun _ =>
    "054928e5ae18231ef88bbc9b7c946422e1c30045d6eb9721627b777d901d821f"
  slots := 32

/-- The database in which the assistant is registered. -/
def askDatabase (manifest : Manifest) : Database :=
  { Database.empty with
    registrations := Table.insertOrIgnore .empty {
      id := "assistant"
      identity := askSession.identity
      manifest := manifest.text
      expiresAt := 10 } }

def askRecord (phase : Phase) : TurnRecord where
  session := askSession
  turn := askTurn
  phase := phase

@[simp] theorem askRecord_phase (phase : Phase) :
    (askRecord phase).phase = phase := rfl

/-- The gateway with the one turn. -/
def askGateway
    (database : Database)
    (called : List (String × String))
    (phase : Phase) : Gateway where
  database := database
  free := 32 - phase.permits
  turns := [askRecord phase]
  called := called

/-- The registration, and the turn up to its reservation. -/
def askReservation (manifest : Manifest) : List GatewayAction :=
  [.elsewhere (askDatabase manifest), .arrive askSession askTurn,
    .turn 0 .begin, .turn 0 (.manifest (some 0)), .turn 0 (.config true)]

theorem utf8ByteSize_securityPrompt : securityPrompt.utf8ByteSize ≤ 2000 := by
  decide +kernel

theorem byteSize_openaiMessages_ask (manifest : Manifest) :
    byteSize (write (.array (openaiMessages manifest askTurn.messages))) ≤
      6 * (instructions manifest.prompts).utf8ByteSize + 200 := by
  have prompted := byteSize_writeString_le (instructions manifest.prompts)
  have asked : byteSize (write askMessage.chatValue) ≤ 80 := by decide
  have keys : byteSize (writeString "content") +
      byteSize (writeMembers [("role", .string "system")]) ≤ 50 := by decide
  have marks : byteSize ['[', '{', ':', ',', '}', ',', ']'] = 7 := by decide
  simp only [openaiMessages, askTurn, List.map_cons, List.map_nil, write,
    writeItems, writeMembers, byteSize_append, byteSize_cons,
    byteSize_nil] at keys marks ⊢
  omega

theorem inputEstimate_ask
    {manifest : Manifest}
    (tools : manifest.tools = [])
    (short : (instructions manifest.prompts).utf8ByteSize ≤ 2000) :
    inputEstimate manifest askTurn ≤ 20000 := by
  have messages := byteSize_openaiMessages_ask manifest
  have noTools : byteSize (write (.array [])) = 2 := by decide
  have oneMessage : askTurn.messages.length = 1 := rfl
  unfold inputEstimate
  simp only [tools, Value.utf8ByteSize_compact, noTools, oneMessage,
    List.length_nil]
  omega

theorem inputEstimate_askManifest :
    inputEstimate askManifest askTurn ≤ 20000 := by
  have alone : instructions askManifest.prompts = securityPrompt :=
    String.intercalate_singleton ..
  apply inputEstimate_ask rfl
  rw [alone]
  exact utf8ByteSize_securityPrompt

theorem prepareTurn_ask
    {manifest : Manifest}
    (fits : inputEstimate manifest askTurn ≤ 20000) :
    prepareTurn askSession askTurn manifest askConfig = .ok askJob := by
  have model : (askConfig.models.find? fun model =>
      model.id = askTurn.model) = some askModel := by decide
  have product : (askConfig.products.find? fun product =>
      product.issuer = askSession.issuer) = some askProduct := by decide
  have policy : askProduct.modelPolicy askSession.tenant askSession.subject =
      .ok {
        models := ["model"]
        defaultModel := "model"
        allowSelection := true } := by decide
  have reservation : askModel.reservation = .ok 101000 := by decide
  have within : ¬ inputEstimate manifest askTurn >
      askModel.maxInputTokens.toNat := by
    have limit : askModel.maxInputTokens.toNat = 100000 := by decide
    omega
  unfold prepareTurn
  simp only [model, product, policy, reservation, bind, Except.bind]
  rw [if_neg (by decide), if_neg within]
  rfl

/-- The turn of an assistant with a short prompt comes to reserve. -/
theorem run_askReservation
    {manifest : Manifest}
    (models : manifest.models = ["model"])
    (fits : inputEstimate manifest askTurn ≤ 20000) :
    (turns (askSetting manifest)).run (askReservation manifest) =
      some (askGateway (askDatabase manifest) []
        (.reserving askJob .running)) := by
  let machine := turns (askSetting manifest)
  let gateway := askGateway (askDatabase manifest) []
  have found : (askRecord .loadingManifest).loadManifest (askSetting manifest)
      (some 0) (askDatabase manifest) = .ok manifest := by
    have stored : AsystantGateway.manifest (askSetting manifest).readManifest
        askTurn.registrationId askSession.identity 0 (askDatabase manifest) =
          .ok manifest := rfl
    unfold TurnRecord.loadManifest
    simp only [askRecord, stored, models, bind, Except.bind]
    rfl
  have config : effectiveConfig (askSetting manifest).codec
      (askSetting manifest).parseUrl (askSetting manifest).environment
        (askDatabase manifest) = .ok askConfig := by
    change Policy.default.apply (fun _ => none) askConfig = .ok askConfig
    decide
  have prepared : (askRecord (.loadingConfig manifest)).prepare
      (askSetting manifest) manifest true (askDatabase manifest) =
        .ok askJob := by
    unfold TurnRecord.prepare
    rw [if_pos rfl, config]
    simp only [bind, Except.bind]
    exact prepareTurn_ask fits
  have admits : machine.step (gateway .received) (.turn 0 .begin) =
      some (gateway .loadingManifest) := rfl
  have loads : machine.step (gateway .loadingManifest)
      (.turn 0 (.manifest (some 0))) =
        some (gateway (.loadingConfig manifest)) := by
    simp [machine, gateway, turns, Gateway.step, askGateway, TurnRecord.step,
      found, Phase.permits]
    rfl
  have prepares : machine.step (gateway (.loadingConfig manifest))
      (.turn 0 (.config true)) =
        some (gateway (.reserving askJob .running)) := by
    simp [machine, gateway, turns, Gateway.step, askGateway, TurnRecord.step,
      prepared, Phase.permits]
    rfl
  change machine.runFrom (gateway .received) _ = _
  rw [Machine.runFrom_cons_of_step admits, Machine.runFrom_cons_of_step loads,
    Machine.runFrom_cons_of_step prepares]
  rfl

/-- On a day without other requests the reservation is granted. -/
theorem exists_reserveOn_ask (manifest : Manifest) (phase : Phase) :
    ∃ reserved, (askRecord phase).reserveOn (askSetting manifest) askJob
      (some "2026-01-01") (askDatabase manifest) = (.ok (), reserved) := by
  have admits : Admits (askDatabase manifest) ((askSetting manifest).hash "")
      askSession askJob.amount askJob.tenantLimit askJob.userLimit
        "2026-01-01" := by
    have fits : (0 : Int) + askJob.amount.toInt ≤ askJob.tenantLimit.toInt := by
      decide
    exact ⟨by decide, rfl, fits, fits⟩
  obtain ⟨reserved, granted, -⟩ := reserve_of_admits admits
  exact ⟨reserved, granted⟩

/-- The closure that reserves commits. -/
theorem step_runReserve_ask
    {manifest : Manifest}
    {reserved : Database}
    (granted : (askRecord (.reserving askJob .running)).reserveOn
      (askSetting manifest) askJob (some "2026-01-01") (askDatabase manifest) =
        (.ok (), reserved)) :
    (turns (askSetting manifest)).step
        (askGateway (askDatabase manifest) [] (.reserving askJob .running))
        (.turn 0 (.runReserve (some "2026-01-01"))) =
      some (askGateway reserved []
        (.reserving askJob (.finished (.ok ())))) := by
  simp [turns, Gateway.step, askGateway, TurnRecord.step, granted,
    Phase.permits]
  rfl

/-- A turn whose provider fails. -/
def askInVain : List GatewayAction :=
  askReservation askManifest ++
    [.turn 0 (.runReserve (some "2026-01-01")), .turn 0 .resumeReserve,
      .turn 0 .callProvider, .turn 0 (.provider none)]

theorem turn_life_cycle_provider_fails :
    ∃ gateway row,
      (turns (askSetting askManifest)).run askInVain = some gateway ∧
      gateway.called = [(askSession.identity, "request")] ∧
      gateway.called.Nodup ∧
      HeldInFull gateway.database row askJob := by
  obtain ⟨reserved, granted⟩ :=
    exists_reserveOn_ask askManifest (.reserving askJob .running)
  have reached : (turns (askSetting askManifest)).run askInVain =
      some (askGateway reserved [(askSession.identity, "request")]
        (.failed askJob)) := by
    unfold askInVain
    rw [Machine.run_append_of_run
        (run_askReservation rfl inputEstimate_askManifest),
      Machine.runFrom_cons_of_step (step_runReserve_ask granted)]
    rfl
  obtain ⟨⟨once, -⟩, -, uncertain, -⟩ :=
    turn_life_cycle (askSetting askManifest) askInVain _ reached
  obtain ⟨row, -, -, held⟩ := (uncertain 0 _ askJob rfl).2 .failed
  exact ⟨_, row, reached, rfl, once, held [] _ rfl⟩

end Ask

end AsystantGateway
