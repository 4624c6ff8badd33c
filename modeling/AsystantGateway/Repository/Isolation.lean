import AsystantGateway.Repository.Tenancy

/-!
# Tenant isolation

To one tenancy two databases look alike when they agree on every key that its
operations can reach: the names its calls use, its login texts and its account
keys. Every statement of a call of the tenancy reads and writes under those
keys only, and no statement of another call writes under one of them. So the
tenancy cannot tell a run from the run of its own calls, and hence not from the
run with the calls of any one other tenancy deleted.
-/

namespace AsystantGateway

open Fallible

/-- The names that calls of a tenancy use. -/
def OwnName
    (calls : List TenantCall)
    (tenancy : Tenancy)
    (name : Name) : Prop :=
  ∃ call ∈ calls, call.tenancy = tenancy ∧ name ∈ call.uses

/-- The keys of tickets that calls of a tenancy use. -/
def OwnTicket
    (calls : List TenantCall)
    (tenancy : Tenancy)
    (key : String) : Prop :=
  ∃ iss jti, key = ticketKey iss jti ∧
    OwnName calls tenancy (.ticket iss jti)

/-- Two databases that a tenancy cannot tell apart. -/
structure Alike
    (calls : List TenantCall)
    (tenancy : Tenancy)
    (first second : Database) : Prop where
  firstWritten : Written calls first
  secondWritten : Written calls second
  sessions : Table.AgreeOn
    (fun hash => OwnName calls tenancy (.token hash))
    first.sessions second.sessions
  consumedTickets : Table.AgreeOn (OwnTicket calls tenancy)
    first.consumedTickets second.consumedTickets
  revokedSessions : Table.AgreeOn tenancy.ownsIdentity
    first.revokedSessions second.revokedSessions
  registrations : Table.AgreeOn
    (fun id => OwnName calls tenancy (.registration id))
    first.registrations second.registrations
  accounts : Table.AgreeOn tenancy.ownsAccount
    first.accounts second.accounts
  requests : Table.AgreeOn
    (fun id => OwnName calls tenancy (.request id))
    first.requests second.requests

theorem Alike.empty
    (calls : List TenantCall)
    (tenancy : Tenancy) :
    Alike calls tenancy .empty .empty where
  firstWritten := .empty calls
  secondWritten := .empty calls
  sessions := .refl _
  consumedTickets := .refl _
  revokedSessions := .refl _
  registrations := .refl _
  accounts := .refl _
  requests := .refl _

namespace Written

variable
  {calls : List TenantCall}
  {call : TenantCall}
  {database : Database}

theorem insertSession
    (written : Written calls database)
    (member : call ∈ calls)
    {row : Session}
    (ofCall : SessionOf call row)
    {sessions : Table Session.tokenHash}
    (inserted : database.sessions.insert row = some sessions) :
    Written calls { database with sessions } :=
  { written with
    sessions := Table.forall_rows_insert inserted ⟨call, member, ofCall⟩
      written.sessions }

theorem insertRegistration
    (written : Written calls database)
    (member : call ∈ calls)
    {row : Registration}
    (ofCall : RegistrationOf call row)
    {registrations : Table Registration.id}
    (inserted : database.registrations.insert row = some registrations) :
    Written calls { database with registrations } :=
  { written with
    registrations := Table.forall_rows_insert inserted
      ⟨call, member, ofCall⟩ written.registrations }

theorem insertRequest
    (written : Written calls database)
    (member : call ∈ calls)
    {row : Request}
    (ofCall : RequestOf call row)
    {requests : Table Request.id}
    (inserted : database.requests.insert row = some requests) :
    Written calls { database with requests } :=
  { written with
    requests := Table.forall_rows_insert inserted ⟨call, member, ofCall⟩
      written.requests }

theorem settleRequest
    (written : Written calls database)
    (id : String)
    (charge : Int64) :
    Written calls { database with
      requests := database.requests.update id
        (fun request => { request with
          charged := some charge, status := .settled })
        fun _ => rfl } :=
  { written with
    requests := Table.forall_rows_update
      (fun request => { request with
        charged := some charge, status := .settled })
      (fun _ => rfl) (fun _ ofCall => ofCall) written.requests }

end Written

section Statements

variable
  {calls : List TenantCall}
  {tenancy : Tenancy}
  {call : TenantCall}

/-- Whose a generated name is. -/
theorem ownName_of_generates
    (unshared : Unshared calls)
    (member : call ∈ calls)
    {name : Name}
    (generated : name ∈ call.generates) :
    OwnName calls tenancy name ↔ call.tenancy = tenancy := by
  constructor
  · rintro ⟨user, userMember, rfl, used⟩
    by_contra different
    exact unshared call member user userMember different name generated used
  · intro same
    exact ⟨call, member, same, TenantCall.uses_of_generates generated⟩

/-! ## Statements of the tenancy itself -/

theorem agrees_countRevoked
    {key : String}
    (owned : tenancy.ownsIdentity key) :
    Agrees (Alike calls tenancy) (fun _ => True) (countRevoked key) := by
  intro first second alike
  have sameRow := alike.revokedSessions key owned
  right
  cases found : second.revokedSessions.find key with
  | none =>
      refine ⟨0, first, second, ?_, ?_, alike, trivial⟩ <;>
        simp [countRevoked, StateT.run, sameRow, found]
  | some row =>
      refine ⟨1, first, second, ?_, ?_, alike, trivial⟩ <;>
        simp [countRevoked, StateT.run, sameRow, found]

theorem agrees_insertConsumedTicket
    {id : String}
    (owned : OwnTicket calls tenancy id)
    (expiresAt : Instant) :
    Agrees (Alike calls tenancy) (fun _ => True)
      (insertConsumedTicket id expiresAt) := by
  intro first second alike
  rcases alike.consumedTickets.insert { id, expiresAt } owned with
    ⟨firstTaken, secondTaken⟩ |
    ⟨firstAfter, secondAfter, firstAdds, secondAdds, agree⟩
  · refine .inl ⟨.sql .uniqueViolation, ?_, ?_⟩ <;>
      simp [insertConsumedTicket, StateT.run, firstTaken, secondTaken]
  · refine .inr ⟨(), { first with consumedTickets := firstAfter },
      { second with consumedTickets := secondAfter }, ?_, ?_,
      { alike with
        firstWritten := { alike.firstWritten with }
        secondWritten := { alike.secondWritten with }
        consumedTickets := agree }, trivial⟩ <;>
      simp [insertConsumedTicket, StateT.run, firstAdds, secondAdds]

theorem agrees_insertSession
    (member : call ∈ calls)
    {row : Session}
    (ofCall : SessionOf call row)
    (owned : OwnName calls tenancy (.token row.tokenHash)) :
    Agrees (Alike calls tenancy) (fun _ => True) (insertSession row) := by
  intro first second alike
  rcases alike.sessions.insert row owned with
    ⟨firstTaken, secondTaken⟩ |
    ⟨firstAfter, secondAfter, firstAdds, secondAdds, agree⟩
  · refine .inl ⟨.sql .uniqueViolation, ?_, ?_⟩ <;>
      simp [insertSession, StateT.run, firstTaken, secondTaken]
  · refine .inr ⟨(), { first with sessions := firstAfter },
      { second with sessions := secondAfter }, ?_, ?_,
      { alike with
        firstWritten :=
          alike.firstWritten.insertSession member ofCall firstAdds
        secondWritten :=
          alike.secondWritten.insertSession member ofCall secondAdds
        sessions := agree }, trivial⟩ <;>
      simp [insertSession, StateT.run, firstAdds, secondAdds]

theorem agrees_insertRegistration
    (member : call ∈ calls)
    (row : Registration)
    (ofCall : RegistrationOf call row)
    (owned : OwnName calls tenancy (.registration row.id)) :
    Agrees (Alike calls tenancy) (fun _ => True) (insertRegistration row) := by
  intro first second alike
  rcases alike.registrations.insert row owned with
    ⟨firstTaken, secondTaken⟩ |
    ⟨firstAfter, secondAfter, firstAdds, secondAdds, agree⟩
  · refine .inl ⟨.sql .uniqueViolation, ?_, ?_⟩ <;>
      simp [insertRegistration, StateT.run, firstTaken, secondTaken]
  · refine .inr ⟨(), { first with registrations := firstAfter },
      { second with registrations := secondAfter }, ?_, ?_,
      { alike with
        firstWritten :=
          alike.firstWritten.insertRegistration member ofCall firstAdds
        secondWritten :=
          alike.secondWritten.insertRegistration member ofCall secondAdds
        registrations := agree }, trivial⟩ <;>
      simp [insertRegistration, StateT.run, firstAdds, secondAdds]

theorem agrees_insertRequest
    (member : call ∈ calls)
    {id : String}
    (generated : .request id ∈ call.generates)
    (owned : OwnName calls tenancy (.request id))
    (amount : Int64)
    (day : String) :
    Agrees (Alike calls tenancy) (fun _ => True)
      (insertRequest id call.session.identity (call.session.tenantAccount day)
        (call.session.userAccount day) amount) := by
  intro first second alike
  by_cases check : 0 ≤ amount.toInt
  · have ofCall : RequestOf call
        (call.session.pendingRequest id amount day check) :=
      ⟨generated, rfl, day, rfl, rfl⟩
    rcases alike.requests.insert
        (call.session.pendingRequest id amount day check) owned with
      ⟨firstTaken, secondTaken⟩ |
      ⟨firstAfter, secondAfter, firstAdds, secondAdds, agree⟩
    · unfold Session.pendingRequest at firstTaken secondTaken
      refine .inl ⟨.sql .uniqueViolation, ?_, ?_⟩ <;>
        simp [insertRequest, StateT.run, check, firstTaken, secondTaken]
    · refine .inr ⟨(), { first with requests := firstAfter },
        { second with requests := secondAfter }, ?_, ?_,
        { alike with
          firstWritten :=
            alike.firstWritten.insertRequest member ofCall firstAdds
          secondWritten :=
            alike.secondWritten.insertRequest member ofCall secondAdds
          requests := agree }, trivial⟩
      all_goals
        unfold Session.pendingRequest at firstAdds secondAdds
        simp [insertRequest, StateT.run, check, firstAdds, secondAdds]
  · refine .inl ⟨.sql .checkViolation, ?_, ?_⟩ <;>
      simp [insertRequest, StateT.run, check]

theorem agrees_insertAccountOrIgnore (id : String) :
    Agrees (Alike calls tenancy) (fun _ => True)
      (insertAccountOrIgnore id) := by
  intro first second alike
  exact .inr ⟨(), _, _, rfl, rfl,
    { alike with
      firstWritten := { alike.firstWritten with }
      secondWritten := { alike.secondWritten with }
      accounts := alike.accounts.insertOrIgnore _ }, trivial⟩

theorem agrees_selectHeldMicros
    {id : String}
    (owned : tenancy.ownsAccount id) :
    Agrees (Alike calls tenancy) (fun _ => True) (selectHeldMicros id) := by
  intro first second alike
  have sameRow := alike.accounts id owned
  cases found : second.accounts.find id with
  | none =>
      refine .inl ⟨.sql .notFound, ?_, ?_⟩ <;>
        simp [selectHeldMicros, StateT.run, sameRow, found]
  | some row =>
      refine .inr ⟨row.heldMicros, first, second, ?_, ?_, alike, trivial⟩ <;>
        simp [selectHeldMicros, StateT.run, sameRow, found]

theorem agrees_updateHeldMicros
    {id : String}
    (owned : tenancy.ownsAccount id)
    (next : Int64) :
    Agrees (Alike calls tenancy) (fun _ => True)
      (updateHeldMicros id next) := by
  intro first second alike
  by_cases check : 0 ≤ next.toInt
  · have firstRan : (updateHeldMicros id next).run first = .ok ((), _) :=
      dif_pos check
    have secondRan : (updateHeldMicros id next).run second = .ok ((), _) :=
      dif_pos check
    exact .inr ⟨(), _, _, firstRan, secondRan,
      { alike with
        firstWritten := { alike.firstWritten with }
        secondWritten := { alike.secondWritten with }
        accounts := alike.accounts.update id
          (fun account => { account with heldMicros := next, check })
          fun _ => rfl }, trivial⟩
  · have sameRow := alike.accounts id owned
    cases found : second.accounts.find id with
    | none =>
        refine .inr ⟨(), first, second, ?_, ?_, alike, trivial⟩ <;>
          simp [updateHeldMicros, StateT.run, check, sameRow, found]
    | some row =>
        refine .inl ⟨.sql .checkViolation, ?_, ?_⟩ <;>
          simp [updateHeldMicros, StateT.run, check, sameRow, found]

/-- Both accounts of a request are as a predicate says. -/
def Request.onAccounts (holds : String → Prop) (request : Request) : Prop :=
  holds request.tenantAccount ∧ holds request.userAccount

/-- A request with an own name is on own accounts. -/
theorem agrees_selectRequest
    (unshared : Unshared calls)
    {id : String}
    (owned : OwnName calls tenancy (.request id)) :
    Agrees (Alike calls tenancy) (Request.onAccounts tenancy.ownsAccount)
      (selectRequest id) := by
  intro first second alike
  have sameRow := alike.requests id owned
  cases found : second.requests.find id with
  | none =>
      refine .inl ⟨.sql .notFound, ?_, ?_⟩ <;>
        simp [selectRequest, StateT.run, sameRow, found]
  | some row =>
      obtain rfl := Table.key_of_find found
      obtain ⟨writer, member, generated, -, day, tenantAccount,
        userAccount⟩ := alike.secondWritten.requests row
          (Table.mem_of_find found)
      have writerOwn : writer.tenancy = tenancy :=
        (ownName_of_generates unshared member generated).mp owned
      have onAccounts : row.onAccounts tenancy.ownsAccount := by
        rw [Request.onAccounts, tenantAccount, userAccount,
          writer.ownsAccount_tenantAccount_iff,
          writer.ownsAccount_userAccount_iff]
        exact ⟨writerOwn, writerOwn⟩
      refine .inr ⟨row, first, second, ?_, ?_, alike, onAccounts⟩ <;>
        simp [selectRequest, StateT.run, sameRow, found]

theorem agrees_settleRequest (id : String) (charge : Int64) :
    Agrees (Alike calls tenancy) (fun _ => True)
      (settleRequest id charge) := by
  intro first second alike
  have agree := alike.requests.update id
    (fun request => { request with
      charged := some charge, status := .settled })
    fun _ => rfl
  exact .inr ⟨(), _, _, rfl, rfl,
    { alike with
      firstWritten := alike.firstWritten.settleRequest id charge
      secondWritten := alike.secondWritten.settleRequest id charge
      requests := agree }, trivial⟩

/-! ## Statements of other tenancies -/

section Foreign

variable {second : Database}

theorem keeps_countRevoked (key : String) :
    Keeps (fun first => Alike calls tenancy first second) (fun _ => True)
      (countRevoked key) := by
  intro first count after alike ran
  simp only [countRevoked, StateT.run] at ran
  split at ran <;> cases ran <;> exact ⟨alike, trivial⟩

theorem keeps_insertConsumedTicket
    {id : String}
    (foreign : ¬ OwnTicket calls tenancy id)
    (expiresAt : Instant) :
    Keeps (fun first => Alike calls tenancy first second) (fun _ => True)
      (insertConsumedTicket id expiresAt) := by
  intro first value after alike ran
  simp only [insertConsumedTicket, StateT.run] at ran
  split at ran
  case h_1 => cases ran
  case h_2 consumedTickets inserted =>
    cases ran
    exact ⟨{ alike with
      firstWritten := { alike.firstWritten with }
      consumedTickets := alike.consumedTickets.insert_left foreign inserted },
      trivial⟩

theorem keeps_insertSession
    (member : call ∈ calls)
    {row : Session}
    (ofCall : SessionOf call row)
    (foreign : ¬ OwnName calls tenancy (.token row.tokenHash)) :
    Keeps (fun first => Alike calls tenancy first second) (fun _ => True)
      (insertSession row) := by
  intro first value after alike ran
  simp only [insertSession, StateT.run] at ran
  split at ran
  case h_1 => cases ran
  case h_2 sessions inserted =>
    cases ran
    exact ⟨{ alike with
      firstWritten := alike.firstWritten.insertSession member ofCall inserted
      sessions := alike.sessions.insert_left foreign inserted }, trivial⟩

theorem keeps_insertRegistration
    (member : call ∈ calls)
    (row : Registration)
    (ofCall : RegistrationOf call row)
    (foreign : ¬ OwnName calls tenancy (.registration row.id)) :
    Keeps (fun first => Alike calls tenancy first second) (fun _ => True)
      (insertRegistration row) := by
  intro first value after alike ran
  simp only [insertRegistration, StateT.run] at ran
  split at ran
  case h_1 => cases ran
  case h_2 registrations inserted =>
    cases ran
    exact ⟨{ alike with
      firstWritten :=
        alike.firstWritten.insertRegistration member ofCall inserted
      registrations := alike.registrations.insert_left foreign inserted },
      trivial⟩

theorem keeps_insertRequest
    (member : call ∈ calls)
    {id : String}
    (generated : .request id ∈ call.generates)
    (foreign : ¬ OwnName calls tenancy (.request id))
    (amount : Int64)
    (day : String) :
    Keeps (fun first => Alike calls tenancy first second) (fun _ => True)
      (insertRequest id call.session.identity (call.session.tenantAccount day)
        (call.session.userAccount day) amount) := by
  intro first value after alike ran
  simp only [insertRequest, StateT.run] at ran
  split at ran
  case isFalse => cases ran
  case isTrue check =>
    split at ran
    case h_1 => cases ran
    case h_2 requests inserted =>
      cases ran
      have ofCall : RequestOf call
          (call.session.pendingRequest id amount day check) :=
        ⟨generated, rfl, day, rfl, rfl⟩
      exact ⟨{ alike with
        firstWritten :=
          alike.firstWritten.insertRequest member ofCall inserted
        requests := alike.requests.insert_left foreign inserted }, trivial⟩

theorem keeps_insertAccountOrIgnore
    {id : String}
    (foreign : ¬ tenancy.ownsAccount id) :
    Keeps (fun first => Alike calls tenancy first second) (fun _ => True)
      (insertAccountOrIgnore id) := by
  intro first value after alike ran
  cases ran
  exact ⟨{ alike with
    firstWritten := { alike.firstWritten with }
    accounts := alike.accounts.insertOrIgnore_left foreign }, trivial⟩

theorem keeps_selectHeldMicros (id : String) :
    Keeps (fun first => Alike calls tenancy first second) (fun _ => True)
      (selectHeldMicros id) := by
  intro first value after alike ran
  simp only [selectHeldMicros, StateT.run] at ran
  split at ran <;> cases ran
  exact ⟨alike, trivial⟩

theorem keeps_updateHeldMicros
    {id : String}
    (foreign : ¬ tenancy.ownsAccount id)
    (next : Int64) :
    Keeps (fun first => Alike calls tenancy first second) (fun _ => True)
      (updateHeldMicros id next) := by
  intro first value after alike ran
  simp only [updateHeldMicros, StateT.run] at ran
  split at ran
  case isTrue check =>
    cases ran
    exact ⟨{ alike with
      firstWritten := { alike.firstWritten with }
      accounts := alike.accounts.update_left foreign
        (fun account => { account with heldMicros := next, check })
        fun _ => rfl }, trivial⟩
  case isFalse =>
    split at ran <;> cases ran
    exact ⟨alike, trivial⟩

/-- A request that another tenancy names was reserved for another tenancy. -/
theorem keeps_selectRequest
    (unshared : Unshared calls)
    (member : call ∈ calls)
    (isForeign : call.tenancy ≠ tenancy)
    {id : String}
    (used : .request id ∈ call.uses) :
    Keeps (fun first => Alike calls tenancy first second)
      (fun request =>
        request.onAccounts (fun account => ¬ tenancy.ownsAccount account) ∧
          ¬ OwnName calls tenancy (.request id))
      (selectRequest id) := by
  intro first value after alike ran
  simp only [selectRequest, StateT.run] at ran
  split at ran
  case h_1 => cases ran
  case h_2 row found =>
    cases ran
    obtain rfl := Table.key_of_find found
    obtain ⟨writer, writerMember, generated, -, day, tenantAccount,
      userAccount⟩ := alike.firstWritten.requests value
        (Table.mem_of_find found)
    have writerForeign : writer.tenancy ≠ tenancy := by
      rintro rfl
      exact unshared writer writerMember call member isForeign.symm _
        generated used
    refine ⟨alike, ?_, ?_⟩
    · rw [Request.onAccounts, tenantAccount, userAccount,
        writer.ownsAccount_tenantAccount_iff,
        writer.ownsAccount_userAccount_iff]
      exact ⟨writerForeign, writerForeign⟩
    · rw [ownName_of_generates unshared writerMember generated]
      exact writerForeign

theorem keeps_settleRequest
    {id : String}
    (foreign : ¬ OwnName calls tenancy (.request id))
    (charge : Int64) :
    Keeps (fun first => Alike calls tenancy first second) (fun _ => True)
      (settleRequest id charge) := by
  intro first value after alike ran
  cases ran
  exact ⟨{ alike with
    firstWritten := alike.firstWritten.settleRequest id charge
    requests := alike.requests.update_left foreign
      (fun request => { request with
        charged := some charge, status := .settled })
      fun _ => rfl }, trivial⟩

end Foreign

end Statements

/-! ## Whole transactions and operations -/

section Transactions

variable
  {calls : List TenantCall}
  {tenancy : Tenancy}
  {call : TenantCall}
  {second : Database}

theorem agrees_exchangeBody
    (unshared : Unshared calls)
    (member : call ∈ calls)
    (exchanges : call.operation = .exchange)
    (own : call.tenancy = tenancy) :
    Agrees (Alike calls tenancy) (fun _ => True)
      (exchangeBody call.claims call.session) := by
  have generates : call.generates =
      [.token call.tokenHash, .ticket call.claims.iss call.claims.jti] := by
    simp [TenantCall.generates, exchanges]
  have ownToken : OwnName calls tenancy (.token call.tokenHash) :=
    (ownName_of_generates unshared member (by simp [generates])).mpr own
  have ownTicket : OwnName calls tenancy
      (.ticket call.claims.iss call.claims.jti) :=
    (ownName_of_generates unshared member (by simp [generates])).mpr own
  unfold exchangeBody
  refine (agrees_countRevoked (call.ownsIdentity_iff.mpr own)).bind
    fun revoked _ => ?_
  split
  · exact .throw _
  · refine (agrees_insertConsumedTicket ⟨_, _, rfl, ownTicket⟩ _).bind
      fun _ _ => ?_
    exact agrees_insertSession member ⟨by simp [generates,
      TenantCall.session, Session.ofClaims], rfl⟩ ownToken

theorem keeps_exchangeBody
    (unshared : Unshared calls)
    (member : call ∈ calls)
    (exchanges : call.operation = .exchange)
    (isForeign : call.tenancy ≠ tenancy) :
    Keeps (fun first => Alike calls tenancy first second) (fun _ => True)
      (exchangeBody call.claims call.session) := by
  have generates : call.generates =
      [.token call.tokenHash, .ticket call.claims.iss call.claims.jti] := by
    simp [TenantCall.generates, exchanges]
  have foreignToken : ¬ OwnName calls tenancy (.token call.tokenHash) :=
    (ownName_of_generates unshared member (by simp [generates])).not.mpr
      isForeign
  have foreignTicket : ¬ OwnName calls tenancy
      (.ticket call.claims.iss call.claims.jti) :=
    (ownName_of_generates unshared member (by simp [generates])).not.mpr
      isForeign
  unfold exchangeBody
  refine (keeps_countRevoked _).bind fun revoked _ => ?_
  split
  · exact .throw _
  · refine (keeps_insertConsumedTicket ?_ _).bind fun _ _ => ?_
    · rintro ⟨iss, jti, sameKey, owned⟩
      obtain ⟨rfl, rfl⟩ := ticketKey_inj.mp sameKey
      exact foreignTicket owned
    · exact keeps_insertSession member ⟨by simp [generates,
        TenantCall.session, Session.ofClaims], rfl⟩ foreignToken

theorem agrees_holdAmount
    {account : String}
    (owned : tenancy.ownsAccount account)
    (amount limit : Int64) :
    Agrees (Alike calls tenancy) (fun _ => True)
      (holdAmount amount account limit) := by
  unfold holdAmount
  refine (agrees_insertAccountOrIgnore account).bind fun _ _ => ?_
  refine (agrees_selectHeldMicros owned).bind fun held _ => ?_
  cases CheckedInt.checkedAdd held amount with
  | none => exact .throw _
  | some next =>
      by_cases exceeds : next > limit
      · simp only [exceeds, if_true]
        exact .throw _
      · simp only [exceeds, if_false]
        exact agrees_updateHeldMicros owned next

theorem keeps_holdAmount
    {account : String}
    (foreign : ¬ tenancy.ownsAccount account)
    (amount limit : Int64) :
    Keeps (fun first => Alike calls tenancy first second) (fun _ => True)
      (holdAmount amount account limit) := by
  unfold holdAmount
  refine (keeps_insertAccountOrIgnore foreign).bind fun _ _ => ?_
  refine (keeps_selectHeldMicros account).bind fun held _ => ?_
  cases CheckedInt.checkedAdd held amount with
  | none => exact .throw _
  | some next =>
      by_cases exceeds : next > limit
      · simp only [exceeds, if_true]
        exact .throw _
      · simp only [exceeds, if_false]
        exact keeps_updateHeldMicros foreign next

theorem agrees_reserveBody
    (unshared : Unshared calls)
    (member : call ∈ calls)
    {id : String}
    (generated : .request id ∈ call.generates)
    (own : call.tenancy = tenancy)
    (amount tenantLimit userLimit : Int64)
    (day : String) :
    Agrees (Alike calls tenancy) (fun _ => True)
      (reserveBody id call.session amount tenantLimit userLimit day) := by
  unfold reserveBody
  simp only [forM_pair]
  refine (agrees_insertRequest member generated
    ((ownName_of_generates unshared member generated).mpr own) amount
    day).bind fun _ _ => ?_
  refine (agrees_holdAmount
    ((call.ownsAccount_tenantAccount_iff day).mpr own) amount
    tenantLimit).bind fun _ _ => ?_
  exact agrees_holdAmount ((call.ownsAccount_userAccount_iff day).mpr own)
    amount userLimit

theorem keeps_reserveBody
    (unshared : Unshared calls)
    (member : call ∈ calls)
    {id : String}
    (generated : .request id ∈ call.generates)
    (isForeign : call.tenancy ≠ tenancy)
    (amount tenantLimit userLimit : Int64)
    (day : String) :
    Keeps (fun first => Alike calls tenancy first second) (fun _ => True)
      (reserveBody id call.session amount tenantLimit userLimit day) := by
  unfold reserveBody
  simp only [forM_pair]
  refine (keeps_insertRequest member generated
    ((ownName_of_generates unshared member generated).not.mpr isForeign)
    amount day).bind fun _ _ => ?_
  refine (keeps_holdAmount
    ((call.ownsAccount_tenantAccount_iff day).not.mpr isForeign) amount
    tenantLimit).bind fun _ _ => ?_
  exact keeps_holdAmount
    ((call.ownsAccount_userAccount_iff day).not.mpr isForeign) amount
    userLimit

theorem agrees_settleAccount
    {account : String}
    (owned : tenancy.ownsAccount account)
    (reservation charge : Int64) :
    Agrees (Alike calls tenancy) (fun _ => True)
      (settleAccount reservation charge account) := by
  unfold settleAccount
  refine (agrees_selectHeldMicros owned).bind fun held _ => ?_
  split
  · exact .throw _
  · exact agrees_updateHeldMicros owned _

theorem keeps_settleAccount
    {account : String}
    (foreign : ¬ tenancy.ownsAccount account)
    (reservation charge : Int64) :
    Keeps (fun first => Alike calls tenancy first second) (fun _ => True)
      (settleAccount reservation charge account) := by
  unfold settleAccount
  refine (keeps_selectHeldMicros account).bind fun held _ => ?_
  split
  · exact .throw _
  · exact keeps_updateHeldMicros foreign _

theorem agrees_settleBody
    (unshared : Unshared calls)
    {id : String}
    (owned : OwnName calls tenancy (.request id))
    (charge : Int64) :
    Agrees (Alike calls tenancy) (fun _ => True) (settleBody id charge) := by
  unfold settleBody
  refine (agrees_selectRequest unshared owned).bind fun request own => ?_
  split
  · exact .throw _
  · simp only [forM_pair, bind_assoc]
    refine (agrees_settleAccount own.1 _ charge).bind fun _ _ => ?_
    refine (agrees_settleAccount own.2 _ charge).bind fun _ _ => ?_
    exact agrees_settleRequest id charge

theorem keeps_settleBody
    (unshared : Unshared calls)
    (member : call ∈ calls)
    (isForeign : call.tenancy ≠ tenancy)
    {id : String}
    (used : .request id ∈ call.uses)
    (charge : Int64) :
    Keeps (fun first => Alike calls tenancy first second) (fun _ => True)
      (settleBody id charge) := by
  unfold settleBody
  refine (keeps_selectRequest unshared member isForeign used).bind
    fun request foreign => ?_
  split
  · exact .throw _
  · simp only [forM_pair, bind_assoc]
    refine (keeps_settleAccount foreign.1.1 _ charge).bind fun _ _ => ?_
    refine (keeps_settleAccount foreign.1.2 _ charge).bind fun _ _ => ?_
    exact keeps_settleRequest foreign.2 charge

end Transactions

section Operations

variable
  {calls : List TenantCall}
  {tenancy : Tenancy}
  {call : TenantCall}
  {first second : Database}

/-- A session found under an own token belongs to the tenancy. -/
theorem ownsIdentity_of_find
    (unshared : Unshared calls)
    (written : Written calls first)
    {hash : String}
    (owned : OwnName calls tenancy (.token hash))
    {session : Session}
    (found : first.sessions.find hash = some session) :
    tenancy.ownsIdentity session.sid := by
  obtain rfl := Table.key_of_find found
  obtain ⟨writer, member, generated, rfl⟩ :=
    written.sessions session (Table.mem_of_find found)
  rw [writer.session_sid, writer.ownsIdentity_iff]
  exact (ownName_of_generates unshared member generated).mp owned

theorem selectSession_agrees
    (alike : Alike calls tenancy first second)
    {hash : String}
    (owned : OwnName calls tenancy (.token hash))
    (now : Instant) :
    selectSession hash now first = selectSession hash now second := by
  unfold selectSession
  rw [alike.sessions hash owned]

theorem refuseRevoked_agrees
    (alike : Alike calls tenancy first second)
    {session : Session}
    (owned : tenancy.ownsIdentity session.sid) :
    refuseRevoked session first = refuseRevoked session second := by
  unfold refuseRevoked
  rw [alike.revokedSessions session.sid owned]

theorem authenticate_agrees
    (unshared : Unshared calls)
    (alike : Alike calls tenancy first second)
    {hash : String}
    (owned : OwnName calls tenancy (.token hash))
    (now : Instant) :
    authenticate hash now first = authenticate hash now second := by
  unfold authenticate authenticateAcross
  rw [selectSession_agrees alike owned now]
  cases selected : selectSession hash now second with
  | error error => rfl
  | ok session =>
      have found : second.sessions.find hash = some session := by
        unfold selectSession at selected
        split at selected
        case h_1 => cases selected
        case h_2 row rowFound =>
          split at selected <;> cases selected
          exact rowFound
      have ownSid := ownsIdentity_of_find unshared alike.secondWritten owned
        found
      change (do
          refuseRevoked session first
          return session) = do
        refuseRevoked session second
        return session
      rw [refuseRevoked_agrees alike ownSid]

/-- A registration that belongs to another tenancy reads as absent. -/
theorem manifest_agrees
    (fromStr : String → Option Manifest)
    (alike : Alike calls tenancy first second)
    (own : call.tenancy = tenancy)
    (id : String)
    (now : Instant) :
    manifest fromStr id call.session.identity now first =
      manifest fromStr id call.session.identity now second := by
  by_cases owned : OwnName calls tenancy (.registration id)
  · unfold manifest
    rw [alike.registrations id owned]
  · have refused : ∀ database, Written calls database →
        manifest fromStr id call.session.identity now database =
          .error .invalid := by
      intro database written
      unfold manifest
      cases found : database.registrations.find id with
      | none => rfl
      | some row =>
          obtain rfl := Table.key_of_find found
          obtain ⟨writer, member, generated, identity⟩ :=
            written.registrations row (Table.mem_of_find found)
          have different : row.identity ≠ call.session.identity := by
            intro same
            have sameTenancy : call.tenancy = writer.tenancy := by
              rw [← call.ownsIdentity_iff, ← same, identity,
                writer.ownsIdentity_iff]
            exact owned ⟨writer, member, sameTenancy.symm.trans own,
              TenantCall.uses_of_generates generated⟩
          simp [different]
    rw [refused first alike.firstWritten, refused second alike.secondWritten]

/-- A call of the tenancy answers alike on databases that look alike. -/
theorem perform_agrees
    (fromStr : String → Option Manifest)
    (unshared : Unshared calls)
    (member : call ∈ calls)
    (own : call.tenancy = tenancy)
    (alike : Alike calls tenancy first second) :
    (call.perform fromStr first).1 = (call.perform fromStr second).1 ∧
      Alike calls tenancy (call.perform fromStr first).2
        (call.perform fromStr second).2 := by
  have ownUse : ∀ name ∈ call.uses, OwnName calls tenancy name :=
    fun name used => ⟨call, member, own, used⟩
  unfold TenantCall.perform
  cases operation : call.operation with
  | exchange =>
      obtain ⟨sameResult, after⟩ := immediateTransaction_agrees
        (agrees_exchangeBody unshared member operation own) alike
      exact ⟨congrArg Answer.done sameResult, after⟩
  | authenticate now =>
      have owned := ownUse (.token call.tokenHash)
        (by simp [TenantCall.uses, operation])
      exact ⟨congrArg Answer.session
        (authenticate_agrees unshared alike owned now), alike⟩
  | selectSession now =>
      have owned := ownUse (.token call.tokenHash)
        (by simp [TenantCall.uses, operation])
      exact ⟨congrArg Answer.session
        (selectSession_agrees alike owned now), alike⟩
  | refuseRevoked =>
      exact ⟨congrArg Answer.done
        (refuseRevoked_agrees alike (call.ownsIdentity_iff.mpr own)), alike⟩
  | revoke =>
      exact ⟨rfl, { alike with
        firstWritten := { alike.firstWritten with }
        secondWritten := { alike.secondWritten with }
        revokedSessions := alike.revokedSessions.insertOrIgnore _ }⟩
  | register id manifest now =>
      have generated : .registration id ∈ call.generates := by
        simp [TenantCall.generates, operation]
      obtain ⟨sameResult, after⟩ := immediateTransaction_agrees
        (agrees_insertRegistration member
          { id
            identity := call.session.identity
            manifest := manifest.text
            expiresAt := now + dayNanos }
          ⟨generated, rfl⟩
          ((ownName_of_generates unshared member generated).mpr own)) alike
      exact ⟨congrArg Answer.done sameResult, after⟩
  | manifest id now =>
      exact ⟨congrArg Answer.manifest
        (manifest_agrees fromStr alike own id now), alike⟩
  | reserve id amount tenantLimit userLimit day =>
      have generated : .request id ∈ call.generates := by
        simp [TenantCall.generates, operation]
      by_cases refused : amount ≤ 0
      · simp only [reserve, refused, if_true]
        exact ⟨trivial, alike⟩
      · simp only [reserve, refused, if_false]
        obtain ⟨sameResult, after⟩ := immediateTransaction_agrees
          (agrees_reserveBody unshared member generated own amount
            tenantLimit userLimit day) alike
        exact ⟨congrArg Answer.done sameResult, after⟩
  | settle id charge =>
      have owned := ownUse (.request id)
        (by simp [TenantCall.uses, operation])
      by_cases refused : charge < 0
      · simp only [settle, refused, if_true]
        exact ⟨trivial, alike⟩
      · simp only [settle, refused, if_false]
        obtain ⟨sameResult, after⟩ := immediateTransaction_agrees
          (agrees_settleBody unshared owned charge) alike
        exact ⟨congrArg Answer.done sameResult, after⟩

/-- A call of another tenancy goes unnoticed. -/
theorem perform_foreign
    (fromStr : String → Option Manifest)
    (unshared : Unshared calls)
    (member : call ∈ calls)
    (isForeign : call.tenancy ≠ tenancy)
    (alike : Alike calls tenancy first second) :
    Alike calls tenancy (call.perform fromStr first).2 second := by
  unfold TenantCall.perform
  cases operation : call.operation with
  | exchange =>
      exact immediateTransaction_keeps
        (keeps_exchangeBody unshared member operation isForeign) alike
  | authenticate now => exact alike
  | selectSession now => exact alike
  | refuseRevoked => exact alike
  | revoke =>
      have foreignLogin : ¬ tenancy.ownsIdentity call.session.sid :=
        call.ownsIdentity_iff.not.mpr isForeign
      exact { alike with
        firstWritten := { alike.firstWritten with }
        revokedSessions :=
          alike.revokedSessions.insertOrIgnore_left foreignLogin }
  | register id manifest now =>
      have generated : .registration id ∈ call.generates := by
        simp [TenantCall.generates, operation]
      exact immediateTransaction_keeps
        (keeps_insertRegistration member
          { id
            identity := call.session.identity
            manifest := manifest.text
            expiresAt := now + dayNanos }
          ⟨generated, rfl⟩
          ((ownName_of_generates unshared member generated).not.mpr
            isForeign)) alike
  | manifest id now => exact alike
  | reserve id amount tenantLimit userLimit day =>
      have generated : .request id ∈ call.generates := by
        simp [TenantCall.generates, operation]
      by_cases refused : amount ≤ 0
      · simp only [reserve, refused, if_true]
        exact alike
      · simp only [reserve, refused, if_false]
        exact immediateTransaction_keeps
          (keeps_reserveBody unshared member generated isForeign amount
            tenantLimit userLimit day) alike
  | settle id charge =>
      have used : .request id ∈ call.uses := by
        simp [TenantCall.uses, operation]
      by_cases refused : charge < 0
      · simp only [settle, refused, if_true]
        exact alike
      · simp only [settle, refused, if_false]
        exact immediateTransaction_keeps
          (keeps_settleBody unshared member isForeign used charge) alike

end Operations

/-! ## Whole runs -/

/-- What a tenancy sees of a run is the run of its own calls. -/
theorem repository_purge
    (fromStr : String → Option Manifest)
    {calls : List TenantCall}
    (unshared : Unshared calls)
    (tenancy : Tenancy) :
    (((repository fromStr).journal calls).filter
        fun entry => entry.1.tenancy = tenancy) =
      (repository fromStr).journal
        (calls.filter fun call => call.tenancy = tenancy) ∧
    Alike calls tenancy ((repository fromStr).state calls)
      ((repository fromStr).state
        (calls.filter fun call => call.tenancy = tenancy)) :=
  Mealy.purge
    (fun call => decide (call.tenancy = tenancy))
    (Alike calls tenancy)
    (fun _ member own _ _ alike => perform_agrees fromStr unshared member
      (of_decide_eq_true own) alike)
    (fun _ member foreign _ _ alike => perform_foreign fromStr unshared
      member (of_decide_eq_false foreign) alike)
    (Alike.empty calls tenancy)

/-- The rows that belong to a tenancy are the same in two databases. -/
structure SameRows (tenancy : Tenancy) (first second : Database) : Prop where
  sessions : ∀ row : Session,
    row.issuer = tenancy.iss → row.tenant = tenancy.tenant →
      (row ∈ first.sessions.rows ↔ row ∈ second.sessions.rows)
  registrations : ∀ row : Registration, tenancy.ownsIdentity row.identity →
    (row ∈ first.registrations.rows ↔ row ∈ second.registrations.rows)
  requests : ∀ row : Request, tenancy.ownsIdentity row.identity →
    (row ∈ first.requests.rows ↔ row ∈ second.requests.rows)
  accounts : ∀ row : Account, tenancy.ownsAccount row.id →
    (row ∈ first.accounts.rows ↔ row ∈ second.accounts.rows)

namespace SameRows

variable {tenancy : Tenancy} {first second third : Database}

theorem symm (same : SameRows tenancy first second) :
    SameRows tenancy second first where
  sessions row issuer tenant := (same.sessions row issuer tenant).symm
  registrations row owned := (same.registrations row owned).symm
  requests row owned := (same.requests row owned).symm
  accounts row owned := (same.accounts row owned).symm

theorem trans
    (left : SameRows tenancy first second)
    (right : SameRows tenancy second third) :
    SameRows tenancy first third where
  sessions row issuer tenant :=
    (left.sessions row issuer tenant).trans (right.sessions row issuer tenant)
  registrations row owned :=
    (left.registrations row owned).trans (right.registrations row owned)
  requests row owned :=
    (left.requests row owned).trans (right.requests row owned)
  accounts row owned :=
    (left.accounts row owned).trans (right.accounts row owned)

end SameRows

/-- Rows under agreed keys are in both tables or in neither. -/
theorem Table.AgreeOn.mem_iff
    {key : ρ → κ}
    [DecidableEq κ]
    {own : κ → Prop}
    {first second : Table key}
    (agree : AgreeOn own first second)
    {row : ρ}
    (owned : own (key row)) :
    row ∈ first.rows ↔ row ∈ second.rows := by
  rw [Table.mem_rows_iff, Table.mem_rows_iff, agree (key row) owned]

/-- A tenancy finds its own rows unchanged in a database it cannot tell
apart. -/
theorem Alike.sameRows
    {calls : List TenantCall}
    {tenancy : Tenancy}
    {first second : Database}
    (alike : Alike calls tenancy first second) :
    SameRows tenancy first second where
  sessions row issuer tenant := by
    have owned : ∀ database, Written calls database →
        row ∈ database.sessions.rows →
          OwnName calls tenancy (.token row.tokenHash) := by
      intro database written present
      obtain ⟨writer, member, generated, rfl⟩ := written.sessions row present
      exact ⟨writer, member, congrArg₂ Tenancy.mk issuer tenant,
        TenantCall.uses_of_generates generated⟩
    constructor
    · intro present
      exact (alike.sessions.mem_iff
        (owned first alike.firstWritten present)).mp present
    · intro present
      exact (alike.sessions.mem_iff
        (owned second alike.secondWritten present)).mpr present
  registrations row ofTenancy := by
    have owned : ∀ database, Written calls database →
        row ∈ database.registrations.rows →
          OwnName calls tenancy (.registration row.id) := by
      intro database written present
      obtain ⟨writer, member, generated, identity⟩ :=
        written.registrations row present
      rw [identity, writer.ownsIdentity_iff] at ofTenancy
      exact ⟨writer, member, ofTenancy,
        TenantCall.uses_of_generates generated⟩
    constructor
    · intro present
      exact (alike.registrations.mem_iff
        (owned first alike.firstWritten present)).mp present
    · intro present
      exact (alike.registrations.mem_iff
        (owned second alike.secondWritten present)).mpr present
  requests row ofTenancy := by
    have owned : ∀ database, Written calls database →
        row ∈ database.requests.rows →
          OwnName calls tenancy (.request row.id) := by
      intro database written present
      obtain ⟨writer, member, generated, identity, -⟩ :=
        written.requests row present
      rw [identity, writer.ownsIdentity_iff] at ofTenancy
      exact ⟨writer, member, ofTenancy,
        TenantCall.uses_of_generates generated⟩
    constructor
    · intro present
      exact (alike.requests.mem_iff
        (owned first alike.firstWritten present)).mp present
    · intro present
      exact (alike.requests.mem_iff
        (owned second alike.secondWritten present)).mpr present
  accounts row ofTenancy := alike.accounts.mem_iff ofTenancy

/-- Deleting from a run every call performed for one tenancy changes neither
the answer to any call of another nor any session, registration, request or
account row that belongs to the other. -/
theorem tenant_isolation
    (fromStr : String → Option Manifest)
    (calls : List TenantCall)
    (unshared : Unshared calls)
    (observer deleted : Tenancy)
    (distinct : observer ≠ deleted) :
    (((repository fromStr).journal
        (calls.filter fun call => call.tenancy ≠ deleted)).filter
          fun entry => entry.1.tenancy = observer) =
      (((repository fromStr).journal calls).filter
        fun entry => entry.1.tenancy = observer) ∧
    SameRows observer
      ((repository fromStr).state
        (calls.filter fun call => call.tenancy ≠ deleted))
      ((repository fromStr).state calls) := by
  have keptUnshared :
      Unshared (calls.filter fun call => call.tenancy ≠ deleted) :=
    fun first firstKept second secondKept =>
      unshared first (List.mem_of_mem_filter firstKept)
        second (List.mem_of_mem_filter secondKept)
  have sameOwn :
      (calls.filter fun call => call.tenancy ≠ deleted).filter
          (fun call => call.tenancy = observer) =
        calls.filter fun call => call.tenancy = observer := by
    rw [List.filter_filter]
    apply List.filter_congr
    intro call _
    by_cases own : call.tenancy = observer
    · simp [own, distinct]
    · simp [own]
  obtain ⟨fullJournal, fullAlike⟩ :=
    repository_purge fromStr unshared observer
  obtain ⟨keptJournal, keptAlike⟩ :=
    repository_purge fromStr keptUnshared observer
  rw [sameOwn] at keptJournal keptAlike
  exact ⟨keptJournal.trans fullJournal.symm,
    keptAlike.sameRows.trans fullAlike.sameRows.symm⟩

/-- Logins of two tenants of one issuer whose texts differ only in where a
quotation mark stands. -/
def quotedLogin (tenant sub jti : String) : TicketClaims where
  iss := "shop"
  aud := "asystant-api"
  sub := sub
  tenant := tenant
  sid := "s"
  jti := jti
  iat := 1000
  exp := 1100
  sessionExp := 5000

/-- Each of the two tenants exchanges a ticket, reserves and revokes; the first
settles and authenticates after the second has revoked. -/
def twoTenants : List TenantCall :=
  let left := quotedLogin "a" "b\",\"c" "j1"
  let right := quotedLogin "a\",\"b" "c" "j2"
  [⟨left, "h1", 2000, .exchange⟩,
    ⟨right, "h2", 2000, .exchange⟩,
    ⟨left, "h1", 2000, .reserve "r1" 7 10 10 "2024-01-01"⟩,
    ⟨right, "h2", 2000, .reserve "r2" 9 10 10 "2024-01-01"⟩,
    ⟨right, "h2", 2000, .revoke⟩,
    ⟨left, "h1", 2000, .settle "r1" 4⟩,
    ⟨left, "h1", 2000, .authenticate 1500⟩]

theorem tenant_isolation_two_tenants :
    Unshared twoTenants ∧
    (((repository fun _ => none).journal
        (twoTenants.filter fun call =>
          call.tenancy ≠ ⟨"shop", "a\",\"b"⟩)).filter
            fun entry => entry.1.tenancy = ⟨"shop", "a"⟩) =
      (((repository fun _ => none).journal twoTenants).filter
        fun entry => entry.1.tenancy = ⟨"shop", "a"⟩) ∧
    SameRows ⟨"shop", "a"⟩
      ((repository fun _ => none).state
        (twoTenants.filter fun call =>
          call.tenancy ≠ ⟨"shop", "a\",\"b"⟩))
      ((repository fun _ => none).state twoTenants) :=
  have unshared : Unshared twoTenants := by
    unfold Unshared
    decide
  ⟨unshared, tenant_isolation _ twoTenants unshared _ _ (by decide)⟩

end AsystantGateway
