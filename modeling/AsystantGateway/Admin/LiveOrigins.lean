import AsystantGateway.Admin.RoundTrip

/-!
# The live list of origins

A save commits its edit in one transaction, then reads the effective policy,
then replaces the list in memory that requests are checked against. The last
two steps run outside the transaction, so the steps of concurrent saves can
come in any order: a save that read the policy before another one committed may
replace the list after the other one has.

The state counts the commits, and remembers with every list that was read how
many commits it reflects. No step depends on these counts.
-/

namespace AsystantGateway

/-- A list of origins and the number of commits it reflects. -/
structure OriginList where
  origins : List String
  commits : Nat
  deriving DecidableEq, Repr

/-- Whether a list allows an origin. -/
def OriginList.allows (list : OriginList) (origin : String) : Bool :=
  list.origins.any fun allowed => allowed == origin

/-- How far a save has come. -/
inductive SavePhase
  | idle
  | committed
  | read (list : OriginList)
  | returned
  | failed
  deriving DecidableEq, Repr

/-- A step of one save. A step that finds no connection is `fail`. -/
inductive SaveStep
  | commit (edit : EditPolicy)
  | read
  | replace
  | fail

/-- The stored policy, the live list and the saves in progress. -/
structure AdminPanel where
  database : Database
  commits : Nat
  live : OriginList
  saves : Nat → SavePhase

namespace AdminPanel

/-- The panel with one save in another phase. -/
def setPhase
    (panel : AdminPanel)
    (save : Nat)
    (phase : SavePhase) : AdminPanel :=
  { panel with saves := Function.update panel.saves save phase }

/-- Every save that was started has returned successfully. -/
def AllReturned (panel : AdminPanel) : Prop :=
  ∀ save, panel.saves save = .idle ∨ panel.saves save = .returned

end AdminPanel

section Panel

variable
  (codec : PolicyCodec)
  (parse : String → Option Url)
  (environment : Config)

/-- The panel after startup, before anything was saved. -/
def AdminPanel.start : AdminPanel where
  database := .empty
  commits := 0
  live := ⟨environment.origins, 0⟩
  saves _ := .idle

/-- One step of a save. -/
def AdminPanel.step
    (panel : AdminPanel)
    (save : Nat) : SaveStep → Option AdminPanel
  | .commit edit =>
      match panel.saves save with
      | .idle =>
          match updatePolicy codec parse environment edit panel.database with
          | (.ok (), database) =>
              some { panel.setPhase save .committed with
                database
                commits := panel.commits + 1 }
          | (.error _, _) => some (panel.setPhase save .failed)
      | _ => none
  | .read =>
      match panel.saves save with
      | .committed =>
          match effectiveConfig codec parse environment panel.database with
          | .ok config =>
              some (panel.setPhase save
                (.read ⟨config.origins, panel.commits⟩))
          | .error _ => some (panel.setPhase save .failed)
      | _ => none
  | .replace =>
      match panel.saves save with
      | .read list => some { panel.setPhase save .returned with live := list }
      | _ => none
  | .fail =>
      match panel.saves save with
      | .idle => some (panel.setPhase save .failed)
      | .committed => some (panel.setPhase save .failed)
      | _ => none

/-- Any number of concurrent saves. -/
def adminPanel : Machine AdminPanel (Nat × SaveStep) where
  start := .start environment
  step panel action :=
    panel.step codec parse environment action.1 action.2

end Panel

/-! ## Lists in step with the policy -/

section InStep

variable
  {codec : PolicyCodec}
  {parse : String → Option Url}
  {environment : Config}

/-- The effective configuration has the origins of the edited one. -/
theorem Stores.effectiveOrigins
    {journal : List (AdminCall × Except AppError Unit)}
    {database : Database}
    {config : Config}
    (stores : Stores codec parse environment journal database config) :
    ∃ effective, AsystantGateway.effectiveConfig codec parse environment
        database = .ok effective ∧
      effective.origins = config.origins := by
  obtain ⟨effective, loaded, sameExplicit⟩ := stores.effectiveConfig
  refine ⟨effective, loaded, ?_⟩
  rw [← Config.explicit_origins, sameExplicit, Config.explicit_origins]

namespace AdminPanel

/-- A save that replaces the live list has read at least as many commits as the
live list reflects. -/
def InOrder (panel : AdminPanel) : Nat × SaveStep → Prop
  | (save, .replace) =>
      ∀ list, panel.saves save = .read list →
        panel.live.commits ≤ list.commits
  | _ => True

/-- A list reflects some of the commits, and when it reflects them all it has
the configuration's origins. -/
structure Reflects
    (panel : AdminPanel)
    (config : Config)
    (list : OriginList) : Prop where
  bound : list.commits ≤ panel.commits
  current : list.commits = panel.commits → list.origins = config.origins

/-- A save that is yet to bring the live list up to date, or never will. -/
def Outstanding (panel : AdminPanel) : SavePhase → Prop
  | .committed => True
  | .read list => list.commits = panel.commits
  | .failed => True
  | _ => False

/-- What holds while no list replaces a newer one: the live list is up to date
or some save is outstanding. -/
structure InStep
    (codec : PolicyCodec)
    (parse : String → Option Url)
    (environment : Config)
    (panel : AdminPanel)
    (config : Config) : Prop where
  stores : ∃ journal,
    Stores codec parse environment journal panel.database config
  live : panel.Reflects config panel.live
  read : ∀ save list, panel.saves save = .read list →
    panel.Reflects config list
  upToDate : panel.live.commits = panel.commits ∨
    ∃ save, panel.Outstanding (panel.saves save)

@[simp] theorem setPhase_self
    (panel : AdminPanel)
    (save : Nat)
    (phase : SavePhase) :
    (panel.setPhase save phase).saves save = phase := by
  simp [setPhase]

theorem setPhase_of_ne
    {panel : AdminPanel}
    {save other : Nat}
    (distinct : other ≠ save)
    (phase : SavePhase) :
    (panel.setPhase save phase).saves other = panel.saves other := by
  simp [setPhase, distinct]

/-- The lists that saves have read stay as they were, but for the one that
enters another phase. -/
theorem read_setPhase
    {panel : AdminPanel}
    {save other : Nat}
    {phase : SavePhase}
    {list : OriginList}
    (found : (panel.setPhase save phase).saves other = .read list) :
    phase = .read list ∨ panel.saves other = .read list := by
  by_cases same : other = save
  · subst same
    rw [setPhase_self] at found
    exact .inl found
  · rw [setPhase_of_ne same] at found
    exact .inr found

/-- A save that enters an outstanding phase, or a reading one with the current
origins, keeps the lists in step. -/
theorem InStep.setPhase
    {panel : AdminPanel}
    {config : Config}
    (inStep : InStep codec parse environment panel config)
    (save : Nat)
    (phase : SavePhase)
    (outstanding : panel.Outstanding phase)
    (reflects : ∀ list, phase = .read list → panel.Reflects config list) :
    InStep codec parse environment (panel.setPhase save phase) config where
  stores := inStep.stores
  live := ⟨inStep.live.bound, inStep.live.current⟩
  read other list found := by
    rcases read_setPhase found with isPhase | before
    · exact ⟨(reflects list isPhase).bound, (reflects list isPhase).current⟩
    · exact ⟨(inStep.read other list before).bound,
        (inStep.read other list before).current⟩
  upToDate := .inr ⟨save, by rw [setPhase_self]; exact outstanding⟩

/-- A commit leaves every list one commit behind. -/
theorem InStep.commit
    {panel : AdminPanel}
    {config next : Config}
    {database : Database}
    (inStep : InStep codec parse environment panel config)
    (stores : ∃ journal,
      Stores codec parse environment journal database next)
    (save : Nat) :
    InStep codec parse environment
      { panel.setPhase save .committed with
        database
        commits := panel.commits + 1 } next := by
  have behind : ∀ list, panel.Reflects config list →
      Reflects
        { panel.setPhase save .committed with
          database
          commits := panel.commits + 1 } next list := by
    intro list reflects
    have bound := reflects.bound
    refine ⟨Nat.le_succ_of_le bound, fun current => ?_⟩
    exact absurd current (Nat.ne_of_lt (Nat.lt_succ_of_le bound))
  refine ⟨stores, behind _ inStep.live, fun other list found => ?_,
    .inr ⟨save, ?_⟩⟩
  · rcases read_setPhase found with isPhase | before
    · cases isPhase
    · exact behind list (inStep.read other list before)
  · change Outstanding _ ((panel.setPhase save .committed).saves save)
    rw [setPhase_self]
    trivial

/-- A replacement in order brings the live list up to date, or another save is
still outstanding. -/
theorem InStep.replace
    {panel : AdminPanel}
    {config : Config}
    (inStep : InStep codec parse environment panel config)
    {save : Nat}
    {list : OriginList}
    (hasRead : panel.saves save = .read list)
    (inOrder : panel.live.commits ≤ list.commits) :
    InStep codec parse environment
      { panel.setPhase save .returned with live := list } config := by
  have reflects := inStep.read save list hasRead
  refine ⟨inStep.stores, ⟨reflects.bound, reflects.current⟩,
    fun other otherList found => ?_, ?_⟩
  · rcases read_setPhase found with isPhase | before
    · cases isPhase
    · exact ⟨(inStep.read other otherList before).bound,
        (inStep.read other otherList before).current⟩
  · rcases Nat.eq_or_lt_of_le reflects.bound with current | behind
    · exact .inl current
    · right
      rcases inStep.upToDate with liveCurrent | ⟨other, outstanding⟩
      · rw [liveCurrent] at inOrder
        exact absurd behind (Nat.not_lt.mpr inOrder)
      · have distinct : other ≠ save := by
          rintro rfl
          rw [hasRead] at outstanding
          exact absurd outstanding (Nat.ne_of_lt behind)
        refine ⟨other, ?_⟩
        change Outstanding _ ((panel.setPhase save .returned).saves other)
        rw [setPhase_of_ne distinct]
        exact outstanding

theorem InStep.start (valid : environment.Valid parse) :
    InStep codec parse environment (.start environment) environment where
  stores := ⟨[], .empty valid⟩
  live := ⟨Nat.le_refl 0, fun _ => rfl⟩
  read _ _ found := by cases found
  upToDate := .inl rfl

/-- Every step that is in order keeps the lists in step. -/
theorem InStep.step
    (roundTrip : ∀ policy, codec.fromText (codec.toText policy) = some policy)
    {panel next : AdminPanel}
    {config : Config}
    (inStep : InStep codec parse environment panel config)
    {action : Nat × SaveStep}
    (inOrder : panel.InOrder action)
    (taken : panel.step codec parse environment action.1 action.2 =
      some next) :
    ∃ config, InStep codec parse environment next config := by
  obtain ⟨save, step⟩ := action
  have failing : InStep codec parse environment
      (panel.setPhase save .failed) config :=
    inStep.setPhase save .failed trivial (fun _ isRead => by cases isRead)
  cases step with
  | commit edit =>
      simp only [AdminPanel.step] at taken
      split at taken
      case h_2 => cases taken
      case h_1 idle =>
        obtain ⟨journal, stored⟩ := inStep.stores
        obtain ⟨edited, stores⟩ :=
          stored.respond roundTrip (.updatePolicy edit)
        have responded : (administration codec parse environment).respond
            panel.database (.updatePolicy edit) =
              updatePolicy codec parse environment edit panel.database := rfl
        rw [responded] at stores
        split at taken
        case h_1 database saved =>
          cases taken
          rw [saved] at stores
          exact ⟨edited, inStep.commit ⟨_, stores⟩ save⟩
        case h_2 =>
          cases taken
          exact ⟨config, failing⟩
  | read =>
      simp only [AdminPanel.step] at taken
      split at taken
      case h_2 => cases taken
      case h_1 =>
        obtain ⟨journal, stored⟩ := inStep.stores
        obtain ⟨effective, loaded, sameOrigins⟩ := stored.effectiveOrigins
        rw [loaded] at taken
        cases taken
        refine ⟨config, inStep.setPhase save _ rfl fun list isRead => ?_⟩
        cases isRead
        exact ⟨Nat.le_refl _, fun _ => sameOrigins⟩
  | replace =>
      simp only [AdminPanel.step] at taken
      split at taken
      case h_2 => cases taken
      case h_1 list hasRead =>
        cases taken
        exact ⟨config, inStep.replace hasRead (inOrder list hasRead)⟩
  | fail =>
      simp only [AdminPanel.step] at taken
      split at taken
      case h_1 =>
        cases taken
        exact ⟨config, failing⟩
      case h_2 =>
        cases taken
        exact ⟨config, failing⟩
      case h_3 => cases taken

end AdminPanel

end InStep

/-- The live list follows the stored policy. In every run of saves in which no
list replaces one that reflects more commits, once every save has returned the
live list is the list of the effective policy's origins. -/
theorem live_origins_follow
    (codec : PolicyCodec)
    (parse : String → Option Url)
    (environment : Config)
    (roundTrip : ∀ policy, codec.fromText (codec.toText policy) = some policy)
    (accepted : environment.validate parse = .ok ())
    (actions : List (Nat × SaveStep))
    (inOrder : (adminPanel codec parse environment).EveryStep
      AdminPanel.InOrder (.start environment) actions)
    (panel : AdminPanel)
    (reached : (adminPanel codec parse environment).run actions = some panel)
    (returned : panel.AllReturned) :
    ∃ effective,
      effectiveConfig codec parse environment panel.database =
          .ok effective ∧
        panel.live.origins = effective.origins ∧
        ∀ origin, panel.live.allows origin = true ↔
          origin ∈ effective.origins := by
  have valid := Config.validate_eq_ok_iff.mp accepted
  obtain ⟨config, inStep⟩ := Machine.stable_of_everyStep
    (motive := fun panel => ∃ config,
      AdminPanel.InStep codec parse environment panel config)
    (fun _ _ _ ⟨_, held⟩ met taken => held.step roundTrip met taken)
    ⟨environment, .start valid⟩ inOrder reached
  obtain ⟨journal, stored⟩ := inStep.stores
  obtain ⟨effective, loaded, sameOrigins⟩ := stored.effectiveOrigins
  have current : panel.live.commits = panel.commits := by
    rcases inStep.upToDate with current | ⟨save, outstanding⟩
    · exact current
    · rcases returned save with idle | finished
      · rw [idle] at outstanding
        exact outstanding.elim
      · rw [finished] at outstanding
        exact outstanding.elim
  have follows : panel.live.origins = effective.origins :=
    (inStep.live.current current).trans sameOrigins.symm
  refine ⟨effective, loaded, follows, fun origin => ?_⟩
  simp [OriginList.allows, follows]

/-! ## Two saves of one origin -/

/-- The only URL that is asked about here. -/
def originUrl : Url where
  scheme := "https"
  hostStr := some "a.example"
  username := ""
  password := none
  path := "/"
  query := none
  fragment := none
  origin := "https://a.example"

def parseOrigin (raw : String) : Option Url :=
  if raw = "https://a.example" then some originUrl else none

/-- An edit that adds or removes that origin. -/
def originEdit (kind : String) : EditPolicy :=
  { shopEdit with
    kind
    origin := "https://a.example" }

def shopConfigWithOrigin : Config :=
  { shopConfig with origins := ["https://a.example"] }

/-- The database with the document of a configuration. -/
def savedDatabase (codec : PolicyCodec) (config : Config) : Database :=
  { Database.empty with
    adminPolicy := some (codec.toText (.fromConfig config)) }

/-- What the steps of the two saves come to. -/
structure OriginSaves (codec : PolicyCodec) : Prop where
  added : updatePolicy codec parseOrigin shopConfig (originEdit "origin_add")
    .empty = (.ok (), savedDatabase codec shopConfigWithOrigin)
  removed : updatePolicy codec parseOrigin shopConfig
    (originEdit "origin_remove") (savedDatabase codec shopConfigWithOrigin) =
      (.ok (), savedDatabase codec shopConfig.explicit)
  addedRead : effectiveConfig codec parseOrigin shopConfig
    (savedDatabase codec shopConfigWithOrigin) =
      .ok shopConfigWithOrigin.explicit
  removedRead : effectiveConfig codec parseOrigin shopConfig
    (savedDatabase codec shopConfig.explicit) = .ok shopConfig.explicit

theorem originSaves
    (codec : PolicyCodec)
    (roundTrip : ∀ policy,
      codec.fromText (codec.toText policy) = some policy) :
    OriginSaves codec := by
  have addApplies : (originEdit "origin_add").apply parseOrigin shopConfig =
      .ok shopConfigWithOrigin := by decide
  have removeApplies : (originEdit "origin_remove").apply parseOrigin
      shopConfigWithOrigin.explicit = .ok shopConfig.explicit := by decide
  have withOriginLoads : (Policy.fromConfig shopConfigWithOrigin).apply
      parseOrigin shopConfig = .ok shopConfigWithOrigin.explicit := by decide
  have withoutOriginLoads : (Policy.fromConfig shopConfig.explicit).apply
      parseOrigin shopConfig = .ok shopConfig.explicit := by decide
  constructor
  · exact updatePolicy_of_ok codec parseOrigin shopConfig rfl addApplies
  · refine updatePolicy_of_ok codec parseOrigin shopConfig ?_ removeApplies
    simp [savedDatabase, baseConfig, PolicyCodec.read, roundTrip,
      withOriginLoads, bind, Except.bind]
  · simp [savedDatabase, effectiveConfig, loadPolicy, PolicyCodec.read,
      roundTrip, withOriginLoads, bind, Except.bind]
  · simp [savedDatabase, effectiveConfig, loadPolicy, PolicyCodec.read,
      roundTrip, -Policy.fromConfig_explicit, withoutOriginLoads, bind,
      Except.bind]

/-- The panel after both saves, with the list that was put last. -/
def bothReturned (codec : PolicyCodec) (live : OriginList) : AdminPanel where
  database := savedDatabase codec shopConfig.explicit
  commits := 2
  live := live
  saves save := if save < 2 then .returned else .idle

theorem allReturned_bothReturned (codec : PolicyCodec) (live : OriginList) :
    (bothReturned codec live).AllReturned := by
  intro save
  by_cases both : save < 2
  · exact .inr (if_pos both)
  · exact .inl (if_neg both)

/-- When both saves return, no other one was started. -/
theorem update_returned
    {phases : Nat → SavePhase}
    (others : ∀ save, phases (save + 2) = .idle) :
    Function.update (Function.update phases 0 .returned) 1 .returned =
      fun save => if save < 2 then .returned else .idle := by
  funext save
  rcases save with _ | _ | save
  · rfl
  · rfl
  · have notBoth : ¬ save + 1 + 1 < 2 := by omega
    simpa [Function.update, notBoth] using others save

/-- The steps of two saves of which the first reads the origin it added before
the second removes it, and the replacements in their order. -/
def replacingLast (first second : Nat) : List (Nat × SaveStep) :=
  [(0, .commit (originEdit "origin_add")), (0, .read),
    (1, .commit (originEdit "origin_remove")), (1, .read),
    (first, .replace), (second, .replace)]

namespace OriginSaves

variable
  {codec : PolicyCodec}
  (saves : OriginSaves codec)

include saves

theorem run_secondLast :
    (adminPanel codec parseOrigin shopConfig).run (replacingLast 0 1) =
      some (bothReturned codec ⟨[], 2⟩) := by
  obtain ⟨added, removed, addedRead, removedRead⟩ := saves
  simp [replacingLast, Machine.run, adminPanel, AdminPanel.step,
    AdminPanel.start, AdminPanel.setPhase, added, removed, addedRead,
    removedRead]
  exact congrArg (AdminPanel.mk _ _ _) (update_returned fun _ => rfl)

theorem inOrder_secondLast :
    (adminPanel codec parseOrigin shopConfig).EveryStep AdminPanel.InOrder
      (.start shopConfig) (replacingLast 0 1) := by
  obtain ⟨added, removed, addedRead, removedRead⟩ := saves
  simp [replacingLast, Machine.EveryStep, adminPanel, AdminPanel.step,
    AdminPanel.start, AdminPanel.setPhase, AdminPanel.InOrder, added,
    removed, addedRead, removedRead]

theorem run_firstLast :
    (adminPanel codec parseOrigin shopConfig).run (replacingLast 1 0) =
      some (bothReturned codec ⟨["https://a.example"], 1⟩) := by
  obtain ⟨added, removed, addedRead, removedRead⟩ := saves
  simp [replacingLast, Machine.run, adminPanel, AdminPanel.step,
    AdminPanel.start, AdminPanel.setPhase, added, removed, addedRead,
    removedRead]
  rw [Function.update_comm Nat.one_ne_zero]
  exact congrArg (AdminPanel.mk _ _ _) (update_returned fun _ => rfl)

end OriginSaves

/-- When the second save replaces the list last, the origin is gone. -/
theorem live_origins_follow_two_saves :
    (adminPanel shopCodec parseOrigin shopConfig).run (replacingLast 0 1) =
        some (bothReturned shopCodec ⟨[], 2⟩) ∧
      ∃ effective,
        effectiveConfig shopCodec parseOrigin shopConfig
            (savedDatabase shopCodec shopConfig.explicit) = .ok effective ∧
          (bothReturned shopCodec ⟨[], 2⟩).live.origins =
            effective.origins := by
  have saves := originSaves shopCodec shopCodec_roundTrip
  obtain ⟨effective, loaded, follows, -⟩ :=
    live_origins_follow shopCodec parseOrigin shopConfig shopCodec_roundTrip
      (by decide) (replacingLast 0 1) saves.inOrder_secondLast _
      saves.run_secondLast (allReturned_bothReturned shopCodec ⟨[], 2⟩)
  exact ⟨saves.run_secondLast, effective, loaded, follows⟩

/-- When the first save replaces the list last, the origin stays allowed though
the policy no longer has it. -/
theorem live_origins_stale :
    shopConfig.validate parseOrigin = .ok () ∧
      ∃ panel,
        (adminPanel shopCodec parseOrigin shopConfig).run
            (replacingLast 1 0) = some panel ∧
          panel.AllReturned ∧
          effectiveConfig shopCodec parseOrigin shopConfig panel.database =
            .ok shopConfig.explicit ∧
          shopConfig.explicit.origins = [] ∧
          panel.live.allows "https://a.example" = true := by
  have saves := originSaves shopCodec shopCodec_roundTrip
  exact ⟨by decide, bothReturned shopCodec ⟨["https://a.example"], 1⟩,
    saves.run_firstLast, allReturned_bothReturned shopCodec _,
    saves.removedRead, rfl, rfl⟩

end AsystantGateway
