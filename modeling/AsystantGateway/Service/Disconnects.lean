import AsystantGateway.Service.TurnOutcome

/-!
# Disconnects and reservations

The closure that reserves commits on its own, and only the handler that waits
for it spawns the inference. A handler that is dropped while it waits leaves the
closure to run to its end: when it commits, or has committed already, the
reservation is held for an inference that is never started. Dropped at any other
wait, a turn leaves nothing behind.
-/

namespace AsystantGateway

open Replace

namespace Phase

/-- The inference task of the turn has been spawned. -/
def Spawned : Phase → Prop
  | spawned _ => True
  | inferring _ => True
  | settling _ _ _ _ => True
  | completed _ _ _ => True
  | failed _ => True
  | _ => False

/-- The reservation is committed, and the handler spawns the inference when it
learns of it. -/
inductive Spawning : Phase → Prop
  | intro (job : ReserveJob) : Spawning (.reserving job (.finished (.ok ())))

/-- The reservation is committed, and the handler was dropped. -/
inductive Abandoned : Phase → Prop
  | intro (job : ReserveJob) : Abandoned (.detached job (.finished (.ok ())))

/-- The closure that reserves is running, or its handler has yet to take its
result. -/
def Reserving : Phase → Prop
  | reserving _ _ => True
  | detached _ .running => True
  | _ => False

section Kinds

variable {phase : Phase}

theorem Spawned.committed (spawned : phase.Spawned) :
    phase.committed.isSome = true := by
  cases phase with
  | settling job message charge closure =>
      rcases closure with _ | _ | _ <;> rfl
  | spawned | inferring | completed | failed => rfl
  | _ => exact spawned.elim

theorem Spawning.committed (spawning : phase.Spawning) :
    phase.committed.isSome = true := by
  cases spawning
  rfl

theorem Spawning.reserving (spawning : phase.Spawning) :
    phase.Reserving := by
  cases spawning
  trivial

theorem Abandoned.committed (abandoned : phase.Abandoned) :
    ∃ job, phase.committed = some (job, none) := by
  cases abandoned
  exact ⟨_, rfl⟩

theorem Abandoned.not_spawned (abandoned : phase.Abandoned) :
    ¬ phase.Spawned := by
  cases abandoned
  exact not_false

theorem Abandoned.not_spawning (abandoned : phase.Abandoned) :
    ¬ phase.Spawning := by
  cases abandoned
  nofun

/-- A restart abandons no turn. -/
theorem abandoned_of_crash (abandoned : phase.crash.Abandoned) :
    phase.Abandoned := by
  unfold crash at abandoned
  split at abandoned
  · exact abandoned
  · cases abandoned

/-- Whoever holds a reservation without a charge, and was not lost in a restart,
has its inference spawned or spawns it next, or is abandoned. -/
theorem cases_of_committed
    {job : ReserveJob}
    (committed : phase.committed = some (job, none))
    (notLost : ∀ commitment, phase ≠ .lost commitment) :
    phase.Spawned ∨ phase.Spawning ∨ phase.Abandoned := by
  cases phase with
  | reserving other closure =>
      rcases closure with _ | _ | _ <;> cases committed
      exact .inr (.inl (.intro job))
  | detached other closure =>
      rcases closure with _ | _ | _ <;> cases committed
      exact .inr (.inr (.intro job))
  | lost commitment => exact absurd rfl (notLost commitment)
  | spawned | inferring | settling | completed | failed => exact .inl trivial
  | _ => cases committed

end Kinds

end Phase

/-- A step that drops the handler of a committed reservation, or commits a
reservation whose handler was dropped. -/
inductive Orphans
    (setting : TurnSetting)
    (gateway : Gateway) : GatewayAction → Prop
  | dropped (index : Nat) (record : TurnRecord)
      (present : gateway.turns[index]? = some record)
      (spawning : record.phase.Spawning) :
      Orphans setting gateway (.turn index .disconnect)
  | committed (index : Nat) (record : TurnRecord) (job : ReserveJob)
      (day : String)
      (present : gateway.turns[index]? = some record)
      (detached : record.phase = .detached job .running)
      (admits : Admits gateway.database (record.id setting.hash)
        record.session job.amount job.tenantLimit job.userLimit day) :
      Orphans setting gateway (.turn index (.runReserve (some day)))

namespace Gateway

/-- Some turn is abandoned. -/
def HasOrphan (gateway : Gateway) : Prop :=
  ∃ (index : Nat) (record : TurnRecord),
    gateway.turns[index]? = some record ∧ record.phase.Abandoned

/-- The inference of a row was spawned. -/
def HasSpawned
    (hash : String → String)
    (gateway : Gateway)
    (row : Request) : Prop :=
  ∃ record ∈ gateway.turns, record.id hash = row.id ∧ record.phase.Spawned

/-- The inference of a row is spawned next, by a handler that is connected. -/
def IsSpawning
    (hash : String → String)
    (gateway : Gateway)
    (row : Request) : Prop :=
  ∃ record ∈ gateway.turns, record.id hash = row.id ∧ record.phase.Spawning

/-- No closure that reserves is running, and none has a result that its handler
has yet to take. -/
def Quiet (gateway : Gateway) : Prop :=
  ∀ record ∈ gateway.turns, ¬ record.phase.Reserving

end Gateway

section Steps

variable
  {setting : TurnSetting}
  {gateway next : Gateway}
  {action : GatewayAction}
  {index : Nat}
  {record : TurnRecord}

/-- An abandoned turn stays one. -/
theorem lasting_abandoned (setting : TurnSetting) :
    Lasting setting Phase.Abandoned where
  step taken abandoned := by
    cases abandoned
    cases taken
  crash abandoned := by
    cases abandoned
    exact .intro _

/-- A transition abandons a turn by a step that orphans a reservation. -/
theorem TurnStep.orphans
    {action : TurnAction}
    {origin phase : Phase}
    (taken : TurnStep setting record gateway action origin phase next)
    (present : gateway.turns[index]? = some record)
    (isOrigin : record.phase = origin)
    (abandoned : phase.Abandoned) :
    Orphans setting gateway (.turn index action) := by
  cases taken with
  | reservedDetached day job database granted =>
      exact .committed index record job day present isOrigin
        (reserve_ok granted).1
  | detached job closure =>
      cases abandoned
      exact .dropped index record present (isOrigin ▸ .intro job)
  | _ => cases abandoned

/-- A step that orphans a reservation abandons its turn. -/
theorem Orphans.hasOrphan
    (orphans : Orphans setting gateway action)
    (taken : gateway.step setting action = some next) :
    next.HasOrphan := by
  cases orphans with
  | dropped index record present spawning =>
      obtain ⟨mover, phase, after, found, stepped, rfl⟩ :=
        Gateway.step_turn taken
      obtain rfl := Option.some.inj (present.symm.trans found)
      refine ⟨index, _, (getElem?_set_eq_some_iff found).mpr
        (.inl ⟨rfl, rfl⟩), ?_⟩
      generalize record.phase = origin at stepped spawning
      cases spawning with
      | intro job =>
          cases stepped
          exact .intro job
  | committed index record job day present detached admits =>
      obtain ⟨database, granted, -⟩ := reserve_of_admits admits
      have stepped : record.step setting gateway (.runReserve (some day)) =
          some (.detached job (.finished (.ok ())),
            { gateway with database }) := by
        simp [TurnRecord.step, detached, TurnRecord.reserveOn, granted]
      have isNext : gateway.step setting
          (.turn index (.runReserve (some day))) =
            some { gateway with
              database
              turns := gateway.turns.set index { record with
                phase := .detached job (.finished (.ok ())) } } := by
        simp [Gateway.step, present, stepped]
      obtain rfl := Option.some.inj (taken.symm.trans isNext)
      exact ⟨index, _, (getElem?_set_eq_some_iff present).mpr
        (.inl ⟨rfl, rfl⟩), .intro job⟩

/-- A turn is abandoned after a step when one was before, or when the step
orphans a reservation. -/
theorem hasOrphan_step_iff (taken : gateway.step setting action = some next) :
    next.HasOrphan ↔ gateway.HasOrphan ∨ Orphans setting gateway action := by
  constructor
  · rintro ⟨index, record, found, abandoned⟩
    rcases Gateway.moved_of_step taken found with
      arrived | ⟨prior, present, -, moved⟩
    · rw [arrived] at abandoned
      cases abandoned
    · generalize record.phase = phase at moved abandoned
      cases moved with
      | stayed => exact .inl ⟨index, prior, present, abandoned⟩
      | crashed =>
          exact .inl ⟨index, prior, present, Phase.abandoned_of_crash abandoned⟩
      | stepped action _ after stepped =>
          exact .inr (stepped.orphans present rfl abandoned)
  · rintro (⟨index, record, present, abandoned⟩ | orphans)
    · obtain ⟨phase, found, still⟩ := (lasting_abandoned setting).has_of_step
        ⟨record.phase, present, abandoned⟩ taken
      exact ⟨index, _, found, still⟩
    · exact orphans.hasOrphan taken

end Steps

/-- No turn is abandoned exactly when no step has orphaned a reservation. -/
theorem hasOrphan_iff
    {setting : TurnSetting}
    {actions : List GatewayAction}
    {gateway : Gateway}
    (reached : (turns setting).run actions = some gateway) :
    ¬ gateway.HasOrphan ↔
      (turns setting).EveryStep
        (fun before action => ¬ Orphans setting before action)
        (turns setting).start actions := by
  refine Machine.run_induction (motive := fun actions gateway =>
    ¬ gateway.HasOrphan ↔
      (turns setting).EveryStep
        (fun before action => ¬ Orphans setting before action)
        (turns setting).start actions) ?_ ?_ reached
  · refine iff_of_true ?_ trivial
    rintro ⟨index, record, present, -⟩
    cases present
  · intro actions state action next prior same taken
    rw [hasOrphan_step_iff taken, Machine.everyStep_concat_iff prior, not_or,
      same]

/-- Without a restart no turn is lost. -/
theorem not_lost_of_run
    {setting : TurnSetting}
    {actions : List GatewayAction}
    {gateway : Gateway}
    (noRestart : .restart ∉ actions)
    (reached : (turns setting).run actions = some gateway) :
    ∀ (index : Nat) (record : TurnRecord),
      gateway.turns[index]? = some record →
        ∀ commitment, record.phase ≠ .lost commitment := by
  revert noRestart
  refine Machine.run_induction (motive := fun actions gateway =>
    .restart ∉ actions → ∀ (index : Nat) (record : TurnRecord),
      gateway.turns[index]? = some record →
        ∀ commitment, record.phase ≠ .lost commitment) ?_ ?_ reached
  · intro _ index record present
    cases present
  · intro actions state action next _ notLost taken noRestart index record
      found commitment
    rw [List.mem_append, List.mem_singleton, not_or] at noRestart
    rcases Gateway.moved_of_step taken found with
      arrived | ⟨prior, present, -, moved⟩
    · rw [arrived]
      nofun
    · generalize record.phase = phase at moved
      cases moved with
      | stayed => exact notLost noRestart.1 index prior present commitment
      | crashed => exact absurd rfl noRestart.2
      | stepped action _ after stepped =>
          generalize prior.phase = origin at stepped
          cases stepped <;> nofun

/-- The turn behind a pending row. -/
theorem Sound.exists_of_pending
    {setting : TurnSetting}
    {gateway : Gateway}
    {row : Request}
    (sound : Sound setting gateway)
    (member : row ∈ gateway.database.requests.rows)
    (pending : row.status = .pending) :
    ∃ record ∈ gateway.turns, record.id setting.hash = row.id ∧
      ∃ job, record.phase.committed = some (job, none) := by
  obtain ⟨claim, claimed, sameId⟩ := sound.backed.complete row member
  obtain ⟨described, found, describes⟩ := sound.backed.row claim claimed
  rw [sameId, Table.mem_rows_iff.mp member] at found
  obtain rfl := Option.some.inj found
  obtain ⟨record, present, isClaim⟩ := List.mem_map.mp claimed
  obtain ⟨⟨job, charge⟩, committed, rfl⟩ := Option.map_eq_some_iff.mp isClaim
  refine ⟨record, present, sameId, job, ?_⟩
  cases charge with
  | none => exact committed
  | some charge =>
      have settled := describes.status
      rw [pending] at settled
      cases settled

/-- The row of an abandoned turn is pending, and no turn spawned its inference
or will. -/
theorem Sound.exists_row_of_abandoned
    {setting : TurnSetting}
    {gateway : Gateway}
    {index : Nat}
    {record : TurnRecord}
    (sound : Sound setting gateway)
    (present : gateway.turns[index]? = some record)
    (abandoned : record.phase.Abandoned) :
    ∃ row ∈ gateway.database.requests.rows, row.status = .pending ∧
      ¬ gateway.HasSpawned setting.hash row ∧
        ¬ gateway.IsSpawning setting.hash row := by
  obtain ⟨job, committed⟩ := abandoned.committed
  obtain ⟨row, found, describes⟩ := sound.row_of_committed present committed
  have onlyTurn : ∀ other ∈ gateway.turns, other.id setting.hash = row.id →
      other.phase.committed.isSome = true → other = record := by
    intro other member sameId otherCommitted
    obtain ⟨place, otherPresent⟩ := List.mem_iff_getElem?.mp member
    have samePlace := sound.index_eq otherPresent present otherCommitted
      (by rw [committed]; rfl) (sameId.trans (Table.key_of_find found))
    subst samePlace
    exact Option.some.inj (otherPresent.symm.trans present)
  refine ⟨row, Table.mem_of_find found, describes.status, ?_, ?_⟩
  · rintro ⟨other, member, sameId, spawned⟩
    obtain rfl := onlyTurn other member sameId spawned.committed
    exact abandoned.not_spawned spawned
  · rintro ⟨other, member, sameId, spawning⟩
    obtain rfl := onlyTurn other member sameId spawning.committed
    exact abandoned.not_spawning spawning

/-- In a run without a restart, every pending row has its inference spawned, or
spawned next by a handler that is connected, exactly when no step dropped the
handler of a committed reservation or committed one whose handler was dropped.
Once no reservation is under way, the inference of every pending row was
spawned. -/
theorem pending_spawned_iff
    (setting : TurnSetting)
    (actions : List GatewayAction)
    (gateway : Gateway)
    (noRestart : .restart ∉ actions)
    (reached : (turns setting).run actions = some gateway) :
    ((∀ row ∈ gateway.database.requests.rows, row.status = .pending →
        gateway.HasSpawned setting.hash row ∨
          gateway.IsSpawning setting.hash row) ↔
      (turns setting).EveryStep
        (fun before action => ¬ Orphans setting before action)
        (turns setting).start actions) ∧
    (gateway.Quiet →
      ((∀ row ∈ gateway.database.requests.rows, row.status = .pending →
          gateway.HasSpawned setting.hash row) ↔
        (turns setting).EveryStep
          (fun before action => ¬ Orphans setting before action)
          (turns setting).start actions)) := by
  have sound := sound_of_reachable ⟨actions, reached⟩
  have attended : (∀ row ∈ gateway.database.requests.rows,
      row.status = .pending → gateway.HasSpawned setting.hash row ∨
        gateway.IsSpawning setting.hash row) ↔ ¬ gateway.HasOrphan := by
    constructor
    · rintro kept ⟨index, record, present, abandoned⟩
      obtain ⟨row, member, pending, notSpawned, notSpawning⟩ :=
        sound.exists_row_of_abandoned present abandoned
      exact (kept row member pending).elim notSpawned notSpawning
    · intro noOrphan row member pending
      obtain ⟨record, present, sameId, job, committed⟩ :=
        sound.exists_of_pending member pending
      obtain ⟨index, found⟩ := List.mem_iff_getElem?.mp present
      rcases Phase.cases_of_committed committed
          (not_lost_of_run noRestart reached index record found) with
        spawned | spawning | abandoned
      · exact .inl ⟨record, present, sameId, spawned⟩
      · exact .inr ⟨record, present, sameId, spawning⟩
      · exact absurd ⟨index, record, found, abandoned⟩ noOrphan
  rw [hasOrphan_iff reached] at attended
  refine ⟨attended, fun quiet => ?_⟩
  rw [← attended]
  refine forall₃_congr fun row _ _ => ?_
  refine (or_iff_left ?_).symm
  rintro ⟨record, present, -, spawning⟩
  exact quiet record present spawning.reserving

/-- The turn up to its inference. -/
def askSpawned : List GatewayAction :=
  askReservation askManifest ++
    [.turn 0 (.runReserve (some "2026-01-01")), .turn 0 .resumeReserve]

theorem pending_spawned_iff_askSpawned :
    ∃ gateway,
      (turns (askSetting askManifest)).run askSpawned = some gateway ∧
      gateway.Quiet ∧
      (turns (askSetting askManifest)).EveryStep
        (fun before action => ¬ Orphans (askSetting askManifest) before action)
        (turns (askSetting askManifest)).start askSpawned := by
  obtain ⟨reserved, granted⟩ :=
    exists_reserveOn_ask askManifest (.reserving askJob .running)
  have reached : (turns (askSetting askManifest)).run askSpawned =
      some (askGateway reserved [] (.spawned askJob)) := by
    unfold askSpawned
    rw [Machine.run_append_of_run
        (run_askReservation rfl inputEstimate_askManifest),
      Machine.runFrom_cons_of_step (step_runReserve_ask granted)]
    rfl
  have quiet : (askGateway reserved [] (.spawned askJob)).Quiet := by
    simp [Gateway.Quiet, askGateway, Phase.Reserving]
  have noRestart : .restart ∉ askSpawned := by
    simp [askSpawned, askReservation]
  refine ⟨_, reached, quiet, ?_⟩
  apply ((pending_spawned_iff (askSetting askManifest) askSpawned _ noRestart
    reached).2 quiet).mp
  intro row member _
  obtain ⟨-, ⟨check, inserted⟩, -⟩ := reserve_ok granted
  rcases (Table.mem_rows_insert inserted).mp member with rfl | prior
  · exact ⟨askRecord (.spawned askJob), by simp [askGateway], rfl, trivial⟩
  · cases prior

/-- The connection is lost while the closure that reserves runs. -/
def askAndLeave : List GatewayAction :=
  askReservation askManifest ++
    [.turn 0 .disconnect, .turn 0 (.runReserve (some "2026-01-01"))]

/-- The reservation is held for an inference that was not spawned. -/
theorem disconnect_leaves_pending :
    ∃ gateway row,
      (turns (askSetting askManifest)).run askAndLeave = some gateway ∧
      .restart ∉ askAndLeave ∧
      gateway.Quiet ∧
      row ∈ gateway.database.requests.rows ∧
      row.status = .pending ∧
      ¬ gateway.HasSpawned (askSetting askManifest).hash row := by
  obtain ⟨reserved, granted⟩ :=
    exists_reserveOn_ask askManifest (.detached askJob .running)
  have commits : (turns (askSetting askManifest)).step
      (askGateway (askDatabase askManifest) [] (.detached askJob .running))
      (.turn 0 (.runReserve (some "2026-01-01"))) =
        some (askGateway reserved []
          (.detached askJob (.finished (.ok ())))) := by
    simp [turns, Gateway.step, askGateway, TurnRecord.step, granted,
      Phase.permits]
    rfl
  have leaves : (turns (askSetting askManifest)).step
      (askGateway (askDatabase askManifest) [] (.reserving askJob .running))
      (.turn 0 .disconnect) =
        some (askGateway (askDatabase askManifest) []
          (.detached askJob .running)) := rfl
  have reached : (turns (askSetting askManifest)).run askAndLeave =
      some (askGateway reserved [] (.detached askJob (.finished (.ok ())))) := by
    unfold askAndLeave
    rw [Machine.run_append_of_run
        (run_askReservation rfl inputEstimate_askManifest),
      Machine.runFrom_cons_of_step leaves, Machine.runFrom_cons_of_step commits]
    rfl
  have quiet : (askGateway reserved []
      (.detached askJob (.finished (.ok ())))).Quiet := by
    simp [Gateway.Quiet, askGateway, Phase.Reserving]
  have noRestart : .restart ∉ askAndLeave := by
    simp [askAndLeave, askReservation]
  obtain ⟨row, member, pending, notSpawned, -⟩ :=
    (sound_of_reachable ⟨askAndLeave, reached⟩).exists_row_of_abandoned
      (List.getElem?_cons_zero) (.intro askJob)
  exact ⟨_, row, reached, noRestart, quiet, member, pending, notSpawned⟩

end AsystantGateway
