import AsystantGateway.Service.Claims
import AsystantGateway.Service.TurnMachine

/-!
# What a turn can do

The transitions of one turn, said once as a relation. A transition takes or
gives back a slot as the phases before and after it say, and it leaves the
ledger alone but for two: the reservation of a turn that had none, and the
settlement of a pending one.
-/

namespace AsystantGateway

variable
  {setting : TurnSetting}
  {record : TurnRecord}
  {gateway after : Gateway}
  {action : TurnAction}
  {phase : Phase}

/-- The transitions of a turn, from the phase it is in. -/
inductive TurnStep
    (setting : TurnSetting)
    (record : TurnRecord)
    (gateway : Gateway) :
    TurnAction → Phase → Phase → Gateway → Prop
  | admitted (hasFree : gateway.free ≠ 0) :
      TurnStep setting record gateway .begin .received .loadingManifest
        gateway.acquire
  | notAdmitted (error : AppError) :
      TurnStep setting record gateway .begin .received (.refused error) gateway
  | loaded (reading : Option Instant) (manifest : Manifest) :
      TurnStep setting record gateway (.manifest reading) .loadingManifest
        (.loadingConfig manifest) gateway
  | notLoaded (reading : Option Instant) (error : AppError) :
      TurnStep setting record gateway (.manifest reading) .loadingManifest
        (.refused error) gateway.release
  | prepared (available : Bool) (manifest : Manifest) (job : ReserveJob) :
      TurnStep setting record gateway (.config available)
        (.loadingConfig manifest) (.reserving job .running) gateway
  | notPrepared (available : Bool) (manifest : Manifest) (error : AppError) :
      TurnStep setting record gateway (.config available)
        (.loadingConfig manifest) (.refused error) gateway.release
  | reserved (day : String) (job : ReserveJob) (database : Database)
      (granted : reserve (record.id setting.hash) record.session job.amount
        job.tenantLimit job.userLimit day gateway.database =
          (.ok (), database)) :
      TurnStep setting record gateway (.runReserve (some day))
        (.reserving job .running) (.reserving job (.finished (.ok ())))
        { gateway with database }
  | notReserved (day : Option String) (job : ReserveJob) (error : AppError) :
      TurnStep setting record gateway (.runReserve day)
        (.reserving job .running) (.reserving job (.finished (.error error)))
        gateway
  | reservedDetached (day : String) (job : ReserveJob) (database : Database)
      (granted : reserve (record.id setting.hash) record.session job.amount
        job.tenantLimit job.userLimit day gateway.database =
          (.ok (), database)) :
      TurnStep setting record gateway (.runReserve (some day))
        (.detached job .running) (.detached job (.finished (.ok ())))
        { gateway with database }
  | notReservedDetached
      (day : Option String) (job : ReserveJob) (error : AppError) :
      TurnStep setting record gateway (.runReserve day)
        (.detached job .running) (.detached job (.finished (.error error)))
        gateway
  | spawned (job : ReserveJob) :
      TurnStep setting record gateway .resumeReserve
        (.reserving job (.finished (.ok ()))) (.spawned job) gateway
  | notSpawned (job : ReserveJob) (error : AppError) :
      TurnStep setting record gateway .resumeReserve
        (.reserving job (.finished (.error error))) (.refused error)
        gateway.release
  | called (job : ReserveJob) :
      TurnStep setting record gateway .callProvider (.spawned job)
        (.inferring job)
        { gateway with called := gateway.called ++ [record.pair] }
  | answered (job : ReserveJob) (message : Message) (charge : Int64) :
      TurnStep setting record gateway (.provider (some (message, charge)))
        (.inferring job) (.settling job message charge .running) gateway
  | notAnswered (job : ReserveJob) :
      TurnStep setting record gateway (.provider none) (.inferring job)
        (.failed job) gateway.release
  | settled (job : ReserveJob) (message : Message) (charge : Int64)
      (database : Database)
      (granted : settle (record.id setting.hash) charge gateway.database =
        (.ok (), database)) :
      TurnStep setting record gateway (.runSettle true)
        (.settling job message charge .running)
        (.settling job message charge (.finished (.ok ())))
        { gateway with database }
  | notSettled (available : Bool) (job : ReserveJob) (message : Message)
      (charge : Int64) (error : AppError) :
      TurnStep setting record gateway (.runSettle available)
        (.settling job message charge .running)
        (.settling job message charge (.finished (.error error))) gateway
  | completed (job : ReserveJob) (message : Message) (charge : Int64) :
      TurnStep setting record gateway .resumeSettle
        (.settling job message charge (.finished (.ok ())))
        (.completed job message charge) gateway.release
  | notCompleted (job : ReserveJob) (message : Message) (charge : Int64)
      (error : AppError) :
      TurnStep setting record gateway .resumeSettle
        (.settling job message charge (.finished (.error error)))
        (.failed job) gateway.release
  | droppedEarly :
      TurnStep setting record gateway .disconnect .received .dropped gateway
  | droppedManifest :
      TurnStep setting record gateway .disconnect .loadingManifest .dropped
        gateway.release
  | droppedConfig (manifest : Manifest) :
      TurnStep setting record gateway .disconnect (.loadingConfig manifest)
        .dropped gateway.release
  | detached (job : ReserveJob) (closure : Closure) :
      TurnStep setting record gateway .disconnect (.reserving job closure)
        (.detached job closure) gateway.release

/-- A closure that reserves is granted its reservation on a day, or leaves the
database as it was. -/
theorem reserveOn_cases
    (setting : TurnSetting)
    (record : TurnRecord)
    (job : ReserveJob)
    (day : Option String)
    (database : Database) :
    (∃ date after, day = some date ∧
      reserve (record.id setting.hash) record.session job.amount
          job.tenantLimit job.userLimit date database = (.ok (), after) ∧
        record.reserveOn setting job day database = (.ok (), after)) ∨
    ∃ error, record.reserveOn setting job day database =
      (.error error, database) := by
  cases day with
  | none => exact .inr ⟨.internal, rfl⟩
  | some date =>
      rcases answer : reserve (record.id setting.hash) record.session
          job.amount job.tenantLimit job.userLimit date database with
        ⟨_ | _, after⟩
      · obtain rfl := reserve_error answer
        exact .inr ⟨_, answer⟩
      · exact .inl ⟨date, after, rfl, answer, answer⟩

/-- A closure that settles succeeds, or leaves the database as it was. -/
theorem settleWith_cases
    (setting : TurnSetting)
    (record : TurnRecord)
    (charge : Int64)
    (available : Bool)
    (database : Database) :
    (∃ after, available = true ∧
      settle (record.id setting.hash) charge database = (.ok (), after) ∧
        record.settleWith setting charge available database =
          (.ok (), after)) ∨
    ∃ error, record.settleWith setting charge available database =
      (.error error, database) := by
  cases available with
  | false => exact .inr ⟨.internal, rfl⟩
  | true =>
      rcases answer : settle (record.id setting.hash) charge database with
        ⟨_ | _, after⟩
      · obtain rfl := settle_error answer
        exact .inr ⟨_, answer⟩
      · exact .inl ⟨after, rfl, rfl, answer⟩

/-- Only a free slot admits a turn. -/
theorem free_ne_zero_of_admitTurn
    {free : Nat}
    (admitted : record.admitTurn free = .ok ()) :
    free ≠ 0 := by
  obtain ⟨-, hasFree⟩ := Checks.seq_eq_ok_iff.mp admitted
  rintro rfl
  cases hasFree

/-- Every step of a turn is one of the transitions. -/
theorem TurnStep.of_step
    (taken : record.step setting gateway action = some (phase, after)) :
    TurnStep setting record gateway action record.phase phase after := by
  unfold TurnRecord.step at taken
  split at taken
  case h_1 atPhase =>
    rw [atPhase]
    split at taken
    · cases taken
      exact .notAdmitted _
    case h_2 admitted =>
      cases taken
      exact .admitted (free_ne_zero_of_admitTurn admitted)
  case h_2 reading atPhase =>
    rw [atPhase]
    split at taken
    · cases taken
      exact .notLoaded reading _
    · cases taken
      exact .loaded reading _
  case h_3 available manifest atPhase =>
    rw [atPhase]
    split at taken
    · cases taken
      exact .notPrepared available manifest _
    · cases taken
      exact .prepared available manifest _
  case h_4 day job atPhase =>
    rw [atPhase]
    rcases reserveOn_cases setting record job day gateway.database with
      ⟨date, database, rfl, granted, ran⟩ | ⟨error, ran⟩
    · rw [ran] at taken
      cases taken
      exact .reserved date job database granted
    · rw [ran] at taken
      cases taken
      exact .notReserved day job error
  case h_5 day job atPhase =>
    rw [atPhase]
    rcases reserveOn_cases setting record job day gateway.database with
      ⟨date, database, rfl, granted, ran⟩ | ⟨error, ran⟩
    · rw [ran] at taken
      cases taken
      exact .reservedDetached date job database granted
    · rw [ran] at taken
      cases taken
      exact .notReservedDetached day job error
  case h_6 job result atPhase =>
    rw [atPhase]
    split at taken
    · cases taken
      exact .notSpawned job _
    · cases taken
      exact .spawned job
  case h_7 job atPhase =>
    rw [atPhase]
    cases taken
    exact .called job
  case h_8 answer job atPhase =>
    rw [atPhase]
    split at taken
    · cases taken
      exact .notAnswered job
    · cases taken
      exact .answered job _ _
  case h_9 available job message charge atPhase =>
    rw [atPhase]
    rcases settleWith_cases setting record charge available
        gateway.database with
      ⟨database, rfl, granted, ran⟩ | ⟨error, ran⟩
    · rw [ran] at taken
      cases taken
      exact .settled job message charge database granted
    · rw [ran] at taken
      cases taken
      exact .notSettled available job message charge error
  case h_10 job message charge result atPhase =>
    rw [atPhase]
    split at taken
    · cases taken
      exact .notCompleted job message charge _
    · cases taken
      exact .completed job message charge
  case h_11 atPhase =>
    rw [atPhase]
    cases taken
    exact .droppedEarly
  case h_12 atPhase =>
    rw [atPhase]
    cases taken
    exact .droppedManifest
  case h_13 manifest atPhase =>
    rw [atPhase]
    cases taken
    exact .droppedConfig manifest
  case h_14 job closure atPhase =>
    rw [atPhase]
    cases taken
    exact .detached job closure
  case h_15 => cases taken

namespace Phase

/-- The provider may have been called for the turn. -/
def WasCalled : Phase → Prop
  | inferring _ => True
  | settling _ _ _ _ => True
  | completed _ _ _ => True
  | failed _ => True
  | lost (some _) => True
  | _ => False

/-- The answer of the provider that a turn works with. -/
def answer : Phase → Option (Message × Int64)
  | settling _ message charge _ => some (message, charge)
  | completed _ message charge => some (message, charge)
  | _ => none

end Phase

/-- What a transition does to the ledger. -/
inductive LedgerStep
    (setting : TurnSetting)
    (record : TurnRecord)
    (before after : Database) :
    Option (ReserveJob × Option Int64) →
      Option (ReserveJob × Option Int64) → Prop
  | same (committed : Option (ReserveJob × Option Int64))
      (database : after = before) :
      LedgerStep setting record before after committed committed
  | reserved (day : String) (job : ReserveJob)
      (granted : reserve (record.id setting.hash) record.session job.amount
        job.tenantLimit job.userLimit day before = (.ok (), after)) :
      LedgerStep setting record before after none (some (job, none))
  | settled (job : ReserveJob) (charge : Int64)
      (granted : settle (record.id setting.hash) charge before =
        (.ok (), after)) :
      LedgerStep setting record before after (some (job, none))
        (some (job, some charge))

namespace TurnStep

variable {origin : Phase}

/-- A transition reserves, settles or leaves the ledger alone. -/
theorem ledger
    (taken : TurnStep setting record gateway action origin phase after) :
    LedgerStep setting record gateway.database after.database
      origin.committed phase.committed := by
  cases taken with
  | reserved day job database granted => exact .reserved day job granted
  | reservedDetached day job database granted =>
      exact .reserved day job granted
  | settled job message charge database granted =>
      exact .settled job charge granted
  | detached job closure =>
      have sameCommitted : (Phase.reserving job closure).committed =
          (Phase.detached job closure).committed := by
        rcases closure with _ | _ | _ <;> rfl
      rw [sameCommitted]
      exact .same _ rfl
  | _ => exact .same _ rfl

/-- A slot is taken or given back as the two phases say. -/
theorem permits
    (taken : TurnStep setting record gateway action origin phase after) :
    after.free + phase.permits = gateway.free + origin.permits := by
  cases taken with
  | admitted hasFree =>
      exact Nat.sub_add_cancel (Nat.pos_of_ne_zero hasFree)
  | _ => rfl

/-- The call of the provider, and nothing else, adds to the calls, by a turn
for which it was not called before. -/
theorem called_cases
    (taken : TurnStep setting record gateway action origin phase after) :
    (action ≠ .callProvider ∧ after.called = gateway.called ∧
        (origin.WasCalled → phase.WasCalled)) ∨
      ∃ job, action = .callProvider ∧ origin = .spawned job ∧
        phase = .inferring job ∧
          after.called = gateway.called ++ [record.pair] := by
  cases taken with
  | called job => exact .inr ⟨job, rfl, rfl, rfl, rfl⟩
  | _ => exact .inl ⟨nofun, rfl, fun called => called⟩

/-- The answer that a turn works with is what the provider answered. -/
theorem answer_cases
    (taken : TurnStep setting record gateway action origin phase after)
    {message : Message}
    {charge : Int64}
    (has : phase.answer = some (message, charge)) :
    origin.answer = some (message, charge) ∨
      action = .provider (some (message, charge)) := by
  cases taken with
  | answered job _ _ =>
      cases has
      exact .inr rfl
  | _ => first | exact .inl has | cases has

end TurnStep

/-- A turn for which the provider may have been called has a reservation. -/
theorem Phase.WasCalled.committed
    {phase : Phase}
    (called : phase.WasCalled) :
    phase.committed.isSome = true := by
  cases phase with
  | settling job message charge closure =>
      rcases closure with _ | _ | _ <;> rfl
  | lost committed =>
      cases committed with
      | none => exact called.elim
      | some _ => rfl
  | inferring | completed | failed => rfl
  | _ => exact called.elim

@[simp] theorem Phase.committed_crash (phase : Phase) :
    phase.crash.committed = phase.committed := by
  unfold crash
  split
  · rfl
  · rfl

@[simp] theorem Phase.permits_crash (phase : Phase) :
    phase.crash.permits = 0 := by
  unfold crash
  split
  case isTrue ended =>
    cases phase <;> first | rfl | cases ended
  case isFalse => rfl

end AsystantGateway
