import AsystantGateway.Repository.Database

/-!
# Reservation and settlement

`reserve` records a pending request and holds its amount on the tenant account
and on the user account of the day; `settle` replaces the held amount by the
charge on the two accounts the request was recorded with. Each is one
transaction over several statements that can fail between the two account
updates.

For both operations there is one lemma that says what success does and one
that says when success happens. Later modules never unfold them.
-/

namespace AsystantGateway

open CheckedInt Fallible

/-- Hold an amount on one account, within its limit. -/
def holdAmount
    (amount : Int64)
    (account : String)
    (limit : Int64) : Transaction Unit := do
  insertAccountOrIgnore account
  let held ← selectHeldMicros account
  match checkedAdd held amount with
  | none => throw (.app .budget)
  | some next =>
      if next > limit then throw (.app .budget)
      else updateHeldMicros account next

/-- The body of the reservation transaction. -/
def reserveBody
    (id : String)
    (session : Session)
    (amount tenantLimit userLimit : Int64)
    (day : String) : Transaction Unit := do
  let tenant := tenantAccount session.issuer session.tenant day
  let user := userAccount session.issuer session.tenant session.subject day
  insertRequest id session.identity tenant user amount
  [(tenant, tenantLimit), (user, userLimit)].forM fun (account, limit) =>
    holdAmount amount account limit

/-- Reserve an amount for a request on the accounts of a UTC day. -/
def reserve
    (id : String)
    (session : Session)
    (amount tenantLimit userLimit : Int64)
    (day : String)
    (database : Database) : Except AppError Unit × Database :=
  if amount ≤ 0 then
    (.error .invalid, database)
  else
    immediateTransaction
      (reserveBody id session amount tenantLimit userLimit day) database

/-- Replace a reservation by a charge on one account. -/
def settleAccount
    (reservation charge : Int64)
    (account : String) : Transaction Unit := do
  let held ← selectHeldMicros account
  match (checkedSub held reservation).bind fun rest =>
      checkedAdd rest charge with
  | none => throw (.app .internal)
  | some next => updateHeldMicros account next

/-- The body of the settlement transaction. -/
def settleBody (id : String) (charge : Int64) : Transaction Unit := do
  let request ← selectRequest id
  if request.status ≠ .pending then throw (.app .conflict)
  else
    [request.tenantAccount, request.userAccount].forM
      (settleAccount request.reservation charge)
    settleRequest id charge

/-- Settle a pending request with the charge that is now known. -/
def settle
    (id : String)
    (charge : Int64)
    (database : Database) : Except AppError Unit × Database :=
  if charge < 0 then
    (.error .invalid, database)
  else
    immediateTransaction (settleBody id charge) database

/-- The database with a given sum held on one account, which is created when
it does not exist. -/
def Database.setHeld
    (database : Database)
    (account : String)
    (next : Int64)
    (check : 0 ≤ next.toInt) : Database :=
  { database with
    accounts := (database.accounts.insertOrIgnore
      { id := account, heldMicros := 0, check := Account.check_zero }).update account
        (fun row => { row with heldMicros := next, check })
        (Account.id_set next check) }

theorem Database.find_setHeld
    (database : Database)
    (account other : String)
    (next : Int64)
    (check : 0 ≤ next.toInt) :
    (database.setHeld account next check).accounts.find other =
      if other = account then some ⟨account, next, check⟩
      else database.accounts.find other := by
  rw [setHeld, Table.find_update, Table.find_insertOrIgnore]
  by_cases isAccount : other = account
  · subst isAccount
    cases found : database.accounts.find other with
    | none => simp
    | some row =>
        have sameId := Table.key_of_find found
        simp [← sameId]
  · have notAccount : ¬ account = other := fun equal => isAccount equal.symm
    simp [isAccount, notAccount]

theorem Database.held_setHeld
    (database : Database)
    (account other : String)
    (next : Int64)
    (check : 0 ≤ next.toInt) :
    (database.setHeld account next check).held other =
      if other = account then next.toInt else database.held other := by
  unfold held
  rw [find_setHeld]
  by_cases isAccount : other = account <;> simp [isAccount]

theorem run_selectHeldMicros
    {database : Database}
    {account : String}
    {row : Account}
    (found : database.accounts.find account = some row) :
    (selectHeldMicros account).run database =
      .ok (row.heldMicros, database) := by
  simp [selectHeldMicros, StateT.run, found]

/-- After the account is created on demand, its sum is what was held. -/
theorem Database.exists_row_after_insertOrIgnore
    (database : Database)
    (account : String) :
    ∃ row, (database.accounts.insertOrIgnore
        { id := account, heldMicros := 0, check := Account.check_zero }).find account =
          some row ∧ row.heldMicros.toInt = database.held account := by
  rw [Table.find_insertOrIgnore, if_pos rfl]
  cases found : database.accounts.find account with
  | none => exact ⟨_, rfl, (Database.held_of_absent found).symm⟩
  | some row => exact ⟨row, rfl, (Database.held_of_find found).symm⟩

/-- Holding an amount raises the account by it when the limit allows. -/
theorem run_holdAmount_of_le
    (database : Database)
    {amount : Int64}
    (limit : Int64)
    {account : String}
    (positive : 0 < amount.toInt)
    (within : database.held account + amount.toInt ≤ limit.toInt) :
    ∃ next check,
      next.toInt = database.held account + amount.toInt ∧
        (holdAmount amount account limit).run database =
          .ok ((), database.setHeld account next check) := by
  obtain ⟨row, found, rowHeld⟩ :=
    database.exists_row_after_insertOrIgnore account
  have nonneg := database.held_nonneg account
  have limitBound := limit.toInt_lt
  obtain ⟨next, fitted⟩ :
      ∃ next, fit (database.held account + amount.toInt) = some next :=
    exists_fit (by omega) (by omega)
  have nextValue := fit_eq_some_iff.mp fitted
  have added : checkedAdd row.heldMicros amount = some next := by
    rw [checkedAdd_eq_some_iff, nextValue, rowHeld]
  have notOver : ¬ next > limit := by
    rw [gt_iff_lt, Int64.lt_iff_toInt_lt]
    omega
  have check : 0 ≤ next.toInt := by omega
  refine ⟨next, check, nextValue, ?_⟩
  unfold holdAmount insertAccountOrIgnore
  rw [run_bind_of_ok rfl, run_bind_of_ok (run_selectHeldMicros found)]
  simp only [added, notOver, if_false]
  simp only [updateHeldMicros, StateT.run, check, dite_true]
  rfl

/-- Holding an amount beyond the limit is refused. -/
theorem run_holdAmount_of_lt
    {database : Database}
    {amount limit : Int64}
    {account : String}
    (exceeds : limit.toInt < database.held account + amount.toInt) :
    (holdAmount amount account limit).run database =
      .error (.app .budget) := by
  obtain ⟨row, found, rowHeld⟩ :=
    database.exists_row_after_insertOrIgnore account
  unfold holdAmount insertAccountOrIgnore
  rw [run_bind_of_ok rfl, run_bind_of_ok (run_selectHeldMicros found)]
  cases added : checkedAdd row.heldMicros amount with
  | none => rfl
  | some next =>
      have nextValue := checkedAdd_eq_some_iff.mp added
      have isOver : next > limit := by
        rw [gt_iff_lt, Int64.lt_iff_toInt_lt]
        omega
      simp only [isOver, if_true]
      rfl

/-- Settling one account moves it by the charge less the reservation. -/
theorem run_settleAccount_of_fits
    {database : Database}
    {reservation : Int64}
    (charge : Int64)
    {account : String}
    (exists_ : database.accounts.find account ≠ none)
    (reservationNonneg : 0 ≤ reservation.toInt)
    (covered : 0 ≤ database.held account - reservation.toInt + charge.toInt)
    (fits : database.held account - reservation.toInt + charge.toInt <
      2 ^ 63) :
    ∃ next check,
      next.toInt = database.held account - reservation.toInt + charge.toInt ∧
        (settleAccount reservation charge account).run database =
          .ok ((), database.setHeld account next check) := by
  obtain ⟨row, found⟩ := Option.ne_none_iff_exists'.mp exists_
  have rowHeld := Database.held_of_find found
  have nonneg := database.held_nonneg account
  have rowBound := row.heldMicros.toInt_lt
  have reservationBound := reservation.toInt_lt
  obtain ⟨rest, restFits⟩ :
      ∃ rest, fit (row.heldMicros.toInt - reservation.toInt) = some rest :=
    exists_fit (by omega) (by omega)
  have restValue := fit_eq_some_iff.mp restFits
  obtain ⟨next, nextFits⟩ :
      ∃ next, fit (rest.toInt + charge.toInt) = some next :=
    exists_fit (by omega) (by omega)
  have nextValue := fit_eq_some_iff.mp nextFits
  have computed : (checkedSub row.heldMicros reservation).bind
      (fun rest => checkedAdd rest charge) = some next := by
    rw [Option.bind_eq_some_iff]
    exact ⟨rest, restFits, nextFits⟩
  have check : 0 ≤ next.toInt := by omega
  refine ⟨next, check, by omega, ?_⟩
  unfold settleAccount
  rw [run_bind_of_ok (run_selectHeldMicros found)]
  simp only [computed, updateHeldMicros, StateT.run, check, dite_true]
  have present : database.accounts.insertOrIgnore
      { id := account, heldMicros := 0, check := Account.check_zero } =
        database.accounts := by
    unfold Table.insertOrIgnore
    rw [Table.insert_eq_none_iff.mpr (by simp [found])]
    rfl
  simp only [Database.setHeld, present]

/-- Settling one account overflows when the sum leaves 64 bits. -/
theorem run_settleAccount_of_overflow
    {database : Database}
    {reservation charge : Int64}
    {account : String}
    (exists_ : database.accounts.find account ≠ none)
    (overflows : 2 ^ 63 ≤
      database.held account - reservation.toInt + charge.toInt) :
    (settleAccount reservation charge account).run database =
      .error (.app .internal) := by
  obtain ⟨row, found⟩ := Option.ne_none_iff_exists'.mp exists_
  have rowHeld := Database.held_of_find found
  have refused : (checkedSub row.heldMicros reservation).bind
      (fun rest => checkedAdd rest charge) = none := by
    cases subtracted : checkedSub row.heldMicros reservation with
    | none => rfl
    | some rest =>
        have restValue := checkedSub_eq_some_iff.mp subtracted
        exact fit_eq_none_iff.mpr (by omega)
  unfold settleAccount
  rw [run_bind_of_ok (run_selectHeldMicros found)]
  simp only [refused]
  rfl

/-- The database after an operation that moves two accounts by the same sum
and changes no other account row. -/
structure Moves
    (before after : Database)
    (tenant user : String)
    (difference : Int) : Prop where
  tenantExists : after.accounts.find tenant ≠ none
  userExists : after.accounts.find user ≠ none
  held : ∀ account, after.held account = before.held account +
    if account = tenant ∨ account = user then difference else 0
  others : ∀ account, account ≠ tenant → account ≠ user →
    after.accounts.find account = before.accounts.find account

/-- Setting two different accounts to sums that differ from what they held by
the same amount moves both. -/
theorem Moves.of_setHeld
    {before after : Database}
    {tenant user : String}
    {difference : Int}
    {tenantNext userNext : Int64}
    {tenantCheck : 0 ≤ tenantNext.toInt}
    {userCheck : 0 ≤ userNext.toInt}
    (distinct : tenant ≠ user)
    (tenantValue : tenantNext.toInt = before.held tenant + difference)
    (userValue : userNext.toInt = before.held user + difference)
    (accounts : after.accounts =
      ((before.setHeld tenant tenantNext tenantCheck).setHeld
        user userNext userCheck).accounts) :
    Moves before after tenant user difference := by
  have find : ∀ account, after.accounts.find account =
      if account = user then some ⟨user, userNext, userCheck⟩
      else if account = tenant then some ⟨tenant, tenantNext, tenantCheck⟩
      else before.accounts.find account := by
    intro account
    rw [accounts, Database.find_setHeld, Database.find_setHeld]
  refine ⟨?_, ?_, ?_, ?_⟩
  · rw [find tenant]
    simp [distinct]
  · rw [find user]
    simp
  · intro account
    unfold Database.held at tenantValue userValue ⊢
    rw [find account]
    by_cases isUser : account = user
    · simp [isUser, userValue]
    · by_cases isTenant : account = tenant
      · simp [isTenant, distinct, tenantValue]
      · simp [isUser, isTenant]
  · intro account notTenant notUser
    rw [find account, if_neg notUser, if_neg notTenant]

/-! ## Reservation -/

section Reservation

variable
  {id day : String}
  {session : Session}
  {amount tenantLimit userLimit : Int64}
  {database after : Database}

/-- The tenant account a session reserves on. -/
def Session.tenantAccount (session : Session) (day : String) : String :=
  AsystantGateway.tenantAccount session.issuer session.tenant day

/-- The user account a session reserves on. -/
def Session.userAccount (session : Session) (day : String) : String :=
  AsystantGateway.userAccount session.issuer session.tenant session.subject day

theorem Session.tenantAccount_ne_userAccount
    (session : Session)
    (day day' : String) :
    session.tenantAccount day ≠ session.userAccount day' :=
  AsystantGateway.tenantAccount_ne_userAccount _ _ _ _ _ _ _

/-- The row a reservation records. -/
@[simps] def Session.pendingRequest
    (session : Session)
    (id : String)
    (amount : Int64)
    (day : String)
    (check : 0 ≤ amount.toInt) : Request where
  id := id
  identity := session.identity
  tenantAccount := session.tenantAccount day
  userAccount := session.userAccount day
  reservation := amount
  charged := none
  status := .pending
  check := check

/-- When a reservation is granted: the amount is positive, the request is new
and both accounts stay within their limits. -/
structure Admits
    (database : Database)
    (id : String)
    (session : Session)
    (amount tenantLimit userLimit : Int64)
    (day : String) : Prop where
  positive : 0 < amount.toInt
  free : database.requests.find id = none
  tenantWithin : database.held (session.tenantAccount day) + amount.toInt ≤
    tenantLimit.toInt
  userWithin : database.held (session.userAccount day) + amount.toInt ≤
    userLimit.toInt

/-- What a granted reservation does: one pending request more, both accounts
raised by the amount, everything else as it was. -/
structure Reserves
    (before after : Database)
    (id : String)
    (session : Session)
    (amount : Int64)
    (day : String) : Prop where
  recorded : ∃ check, before.requests.insert
    (session.pendingRequest id amount day check) = some after.requests
  moved : Moves before after (session.tenantAccount day)
    (session.userAccount day) amount.toInt
  frame : { after with
    accounts := before.accounts, requests := before.requests } = before

private theorem run_reserveBody_of_inserted
    {requests : Table Request.id}
    {check : 0 ≤ amount.toInt}
    (inserted : database.requests.insert
      (session.pendingRequest id amount day check) = some requests) :
    (reserveBody id session amount tenantLimit userLimit day).run database =
      (do
        holdAmount amount (session.tenantAccount day) tenantLimit
        holdAmount amount (session.userAccount day) userLimit :
          Transaction Unit).run { database with requests } := by
  have ran : (insertRequest id session.identity (session.tenantAccount day)
      (session.userAccount day) amount).run database =
        .ok ((), { database with requests }) := by
    unfold Session.pendingRequest at inserted
    simp [insertRequest, StateT.run, check, inserted]
  unfold reserveBody
  simp only [forM_pair]
  exact run_bind_of_ok ran

theorem reserve_of_positive
    (positive : 0 < amount.toInt) :
    reserve id session amount tenantLimit userLimit day database =
      immediateTransaction
        (reserveBody id session amount tenantLimit userLimit day)
        database := by
  have notZero : ¬ amount ≤ 0 := by
    rw [Int64.le_iff_toInt_le]
    simpa using positive
  simp [reserve, notZero]

/-- A reservation that is admissible is granted. -/
theorem reserve_of_admits
    (admits : Admits database id session amount tenantLimit userLimit day) :
    ∃ after,
      reserve id session amount tenantLimit userLimit day database =
          (.ok (), after) ∧
        Reserves database after id session amount day := by
  obtain ⟨positive, free, tenantWithin, userWithin⟩ := admits
  have check : 0 ≤ amount.toInt := positive.le
  obtain ⟨requests, inserted⟩ := Table.exists_insert
    (session.pendingRequest id amount day check) free
  obtain ⟨tenantNext, tenantCheck, tenantValue, tenantRan⟩ :=
    run_holdAmount_of_le { database with requests } tenantLimit positive
      tenantWithin
  have distinct := session.tenantAccount_ne_userAccount day day
  have userHeld : (Database.setHeld { database with requests }
      (session.tenantAccount day) tenantNext tenantCheck).held
        (session.userAccount day) =
          database.held (session.userAccount day) := by
    rw [Database.held_setHeld, if_neg distinct.symm]
    rfl
  obtain ⟨userNext, userCheck, userValue, userRan⟩ :=
    run_holdAmount_of_le _ userLimit positive (userHeld ▸ userWithin)
  refine ⟨({ database with requests }.setHeld (session.tenantAccount day)
      tenantNext tenantCheck).setHeld (session.userAccount day)
        userNext userCheck, ?_, ⟨check, inserted⟩, ?_, rfl⟩
  · rw [reserve_of_positive positive]
    apply immediateTransaction_of_ok
    rw [run_reserveBody_of_inserted inserted, run_bind_of_ok tenantRan]
    exact userRan
  · exact Moves.of_setHeld distinct tenantValue
      (userValue.trans (by rw [userHeld])) rfl

/-- A request id that is taken is a conflict, whatever the balances. -/
theorem reserve_of_taken
    (positive : 0 < amount.toInt)
    (taken : database.requests.find id ≠ none) :
    reserve id session amount tenantLimit userLimit day database =
      (.error .conflict, database) := by
  have refused : database.requests.insert
      (session.pendingRequest id amount day positive.le) = none :=
    Table.insert_eq_none_iff.mpr taken
  have stopped :
      (reserveBody id session amount tenantLimit userLimit day).run database =
        .error (.sql .uniqueViolation) := by
    unfold Session.pendingRequest Session.tenantAccount Session.userAccount
      at refused
    unfold reserveBody
    apply run_bind_of_error
    simp [insertRequest, StateT.run, positive.le, refused]
  rw [reserve_of_positive positive]
  exact immediateTransaction_of_error stopped

/-- A new request beyond either limit is refused for lack of budget. -/
theorem reserve_of_over
    (positive : 0 < amount.toInt)
    (free : database.requests.find id = none)
    (exceeds : tenantLimit.toInt <
        database.held (session.tenantAccount day) + amount.toInt ∨
      userLimit.toInt <
        database.held (session.userAccount day) + amount.toInt) :
    reserve id session amount tenantLimit userLimit day database =
      (.error .budget, database) := by
  have check : 0 ≤ amount.toInt := positive.le
  obtain ⟨requests, inserted⟩ := Table.exists_insert
    (session.pendingRequest id amount day check) free
  have stopped :
      (reserveBody id session amount tenantLimit userLimit day).run database =
        .error (.app .budget) := by
    rw [run_reserveBody_of_inserted inserted]
    by_cases tenantOver : tenantLimit.toInt <
        database.held (session.tenantAccount day) + amount.toInt
    · exact run_bind_of_error (run_holdAmount_of_lt tenantOver)
    · have userOver := exceeds.resolve_left tenantOver
      obtain ⟨tenantNext, tenantCheck, -, tenantRan⟩ :=
        run_holdAmount_of_le { database with requests } tenantLimit positive
          (not_lt.mp tenantOver)
      rw [run_bind_of_ok tenantRan]
      apply run_holdAmount_of_lt
      rw [Database.held_setHeld,
        if_neg (session.tenantAccount_ne_userAccount day day).symm]
      exact userOver
  rw [reserve_of_positive positive]
  exact immediateTransaction_of_error stopped

theorem reserve_of_not_positive
    (notPositive : ¬ 0 < amount.toInt) :
    reserve id session amount tenantLimit userLimit day database =
      (.error .invalid, database) := by
  have refused : amount ≤ 0 := by
    rw [Int64.le_iff_toInt_le]
    simpa using notPositive
  simp [reserve, refused]

/-- A reservation that is not admissible fails and changes nothing. -/
theorem reserve_of_not_admits
    (refused : ¬ Admits database id session amount tenantLimit userLimit
      day) :
    ∃ error, reserve id session amount tenantLimit userLimit day database =
      (.error error, database) := by
  by_cases positive : 0 < amount.toInt
  · by_cases free : database.requests.find id = none
    · refine ⟨.budget, reserve_of_over positive free ?_⟩
      by_contra within
      rw [not_or, not_lt, not_lt] at within
      exact refused ⟨positive, free, within.1, within.2⟩
    · exact ⟨.conflict, reserve_of_taken positive free⟩
  · exact ⟨.invalid, reserve_of_not_positive positive⟩

/-- What is known of a reservation that answered `Ok`. -/
theorem reserve_ok
    (granted : reserve id session amount tenantLimit userLimit day database =
      (.ok (), after)) :
    Admits database id session amount tenantLimit userLimit day ∧
      Reserves database after id session amount day := by
  by_cases admits : Admits database id session amount tenantLimit userLimit
      day
  · obtain ⟨result, ran, reserves⟩ := reserve_of_admits admits
    rw [granted] at ran
    obtain rfl := (Prod.mk.inj ran).2
    exact ⟨admits, reserves⟩
  · obtain ⟨error, failed⟩ := reserve_of_not_admits admits
    rw [granted] at failed
    simp at failed

/-- A reservation that reports an error has changed nothing. -/
theorem reserve_error
    {error : AppError}
    (failed : reserve id session amount tenantLimit userLimit day database =
      (.error error, after)) :
    after = database := by
  unfold reserve at failed
  split at failed
  · exact (Prod.mk.inj failed).2.symm
  · exact immediateTransaction_error failed

/-- An account can take an amount: the sum stays within 64 bits and within the
limit. -/
def Database.Affords
    (database : Database)
    (account : String)
    (amount limit : Int64) : Prop :=
  database.held account + amount.toInt < 2 ^ 63 ∧
    database.held account + amount.toInt ≤ limit.toInt

/-- A sum within a limit of 64 bits does not overflow. -/
theorem Database.affords_iff
    {account : String}
    {limit : Int64} :
    database.Affords account amount limit ↔
      database.held account + amount.toInt ≤ limit.toInt := by
  constructor
  · exact And.right
  · intro within
    have limitBound := limit.toInt_lt
    exact ⟨by omega, within⟩

/-- A reservation is granted exactly when its amount is positive, its id is new
and both accounts afford it. Granted, it adds one pending request and raises
the two accounts; refused, it changes no table. A taken id with a positive
amount is a conflict whatever the balances, and an amount that is not positive
is invalid whatever the id. -/
theorem reserve_exact
    (id : String)
    (session : Session)
    (amount tenantLimit userLimit : Int64)
    (day : String)
    (database : Database) :
    ((reserve id session amount tenantLimit userLimit day database).1 =
        .ok () ↔
      0 < amount.toInt ∧ database.requests.find id = none ∧
        database.Affords (session.tenantAccount day) amount tenantLimit ∧
        database.Affords (session.userAccount day) amount userLimit) ∧
    ((∃ after,
        reserve id session amount tenantLimit userLimit day database =
          (.ok (), after) ∧ Reserves database after id session amount day) ∨
      ∃ error, reserve id session amount tenantLimit userLimit day database =
        (.error error, database)) ∧
    (reserve id session amount tenantLimit userLimit day database =
        (.error .conflict, database) ↔
      0 < amount.toInt ∧ database.requests.find id ≠ none) ∧
    (amount.toInt ≤ 0 →
      reserve id session amount tenantLimit userLimit day database =
        (.error .invalid, database)) := by
  simp only [Database.affords_iff]
  have unpaid : amount.toInt ≤ 0 →
      reserve id session amount tenantLimit userLimit day database =
        (.error .invalid, database) :=
    fun notPositive => reserve_of_not_positive (not_lt.mpr notPositive)
  by_cases admits : Admits database id session amount tenantLimit userLimit
      day
  · obtain ⟨after, ran, reserves⟩ := reserve_of_admits admits
    obtain ⟨positive, free, tenantWithin, userWithin⟩ := admits
    refine ⟨?_, .inl ⟨after, ran, reserves⟩, ?_, unpaid⟩
    · rw [ran]
      exact iff_of_true rfl ⟨positive, free, tenantWithin, userWithin⟩
    · rw [ran]
      exact iff_of_false (fun conflict => by simp at conflict)
        fun taken => taken.2 free
  · obtain ⟨error, failed⟩ := reserve_of_not_admits admits
    refine ⟨?_, .inr ⟨error, failed⟩, ?_, unpaid⟩
    · rw [failed]
      apply iff_of_false (fun granted => by cases granted)
      rintro ⟨positive, free, tenantWithin, userWithin⟩
      exact admits ⟨positive, free, tenantWithin, userWithin⟩
    · constructor
      · intro conflict
        by_cases positive : 0 < amount.toInt
        · refine ⟨positive, fun free => ?_⟩
          have exceeds : tenantLimit.toInt <
                database.held (session.tenantAccount day) + amount.toInt ∨
              userLimit.toInt <
                database.held (session.userAccount day) + amount.toInt := by
            by_contra within
            rw [not_or, not_lt, not_lt] at within
            exact admits ⟨positive, free, within.1, within.2⟩
          rw [reserve_of_over positive free exceeds] at conflict
          simp at conflict
        · rw [reserve_of_not_positive positive] at conflict
          simp at conflict
      · rintro ⟨positive, taken⟩
        exact reserve_of_taken positive taken

/-- The sign of the amount is looked at before the id: when an id that has been
reserved comes again with no amount, the answer is `Invalid`. -/
theorem reserve_taken_without_amount :
    let session : Session :=
      { tokenHash := "token", identity := "user", sid := "login",
        issuer := "host", tenant := "tenant", subject := "user",
        expiresAt := 10 }
    ∃ database,
      reserve "request" session 1 1 1 "2024-01-01" .empty =
          (.ok (), database) ∧
        database.requests.find "request" ≠ none ∧
        reserve "request" session 0 1 1 "2024-01-01" database =
          (.error .invalid, database) := by
  intro session
  have admits : Admits .empty "request" session 1 1 1 "2024-01-01" :=
    ⟨by decide, rfl, by decide, by decide⟩
  obtain ⟨database, ran, reserves⟩ := reserve_of_admits admits
  obtain ⟨check, inserted⟩ := reserves.recorded
  refine ⟨database, ran, ?_, reserve_of_not_positive (by decide)⟩
  rw [Table.find_insert inserted]
  simp

end Reservation

/-! ## Settlement -/

section Settlement

variable
  {id : String}
  {charge : Int64}
  {request : Request}
  {database after : Database}

/-- What a settlement does: the request is settled with the charge, its two
accounts move by the charge less the reservation, everything else is as it
was. -/
structure Settles
    (before after : Database)
    (request : Request)
    (charge : Int64) : Prop where
  requests : after.requests = before.requests.update request.id
    (fun row => { row with charged := some charge, status := .settled })
    fun _ => rfl
  moved : Moves before after request.tenantAccount request.userAccount
    (charge.toInt - request.reservation.toInt)
  frame : { after with
    accounts := before.accounts, requests := before.requests } = before

theorem settle_of_nonneg
    (nonneg : 0 ≤ charge.toInt) :
    settle id charge database =
      immediateTransaction (settleBody id charge) database := by
  have notNegative : ¬ charge < 0 := by
    rw [Int64.lt_iff_toInt_lt]
    simpa using nonneg
  simp [settle, notNegative]

private theorem run_settleBody_of_pending
    (found : database.requests.find id = some request)
    (pending : request.status = .pending) :
    (settleBody id charge).run database =
      (do
        settleAccount request.reservation charge request.tenantAccount
        settleAccount request.reservation charge request.userAccount
        settleRequest id charge : Transaction Unit).run database := by
  have ran : (selectRequest id).run database = .ok (request, database) := by
    simp [selectRequest, StateT.run, found]
  unfold settleBody
  rw [run_bind_of_ok ran]
  simp only [pending, ne_eq, not_true_eq_false, if_false, forM_pair,
    bind_assoc]

/-- A pending request whose accounts can take the charge is settled. -/
theorem settle_of_fits
    (found : database.requests.find id = some request)
    (pending : request.status = .pending)
    (nonneg : 0 ≤ charge.toInt)
    (distinct : request.tenantAccount ≠ request.userAccount)
    (tenantExists : database.accounts.find request.tenantAccount ≠ none)
    (userExists : database.accounts.find request.userAccount ≠ none)
    (covered : ∀ account,
      account = request.tenantAccount ∨ account = request.userAccount →
        request.reservation.toInt ≤ database.held account)
    (fits : ∀ account,
      account = request.tenantAccount ∨ account = request.userAccount →
        database.held account - request.reservation.toInt + charge.toInt <
          2 ^ 63) :
    ∃ after, settle id charge database = (.ok (), after) ∧
      Settles database after request charge := by
  have tenantCovered := covered request.tenantAccount (.inl rfl)
  have userCovered := covered request.userAccount (.inr rfl)
  obtain ⟨tenantNext, tenantCheck, tenantValue, tenantRan⟩ :=
    run_settleAccount_of_fits charge tenantExists request.check (by omega)
      (fits request.tenantAccount (.inl rfl))
  have userFind := Database.find_setHeld database request.tenantAccount
    request.userAccount tenantNext tenantCheck
  have userHeld := Database.held_setHeld database request.tenantAccount
    request.userAccount tenantNext tenantCheck
  rw [if_neg distinct.symm] at userFind userHeld
  obtain ⟨userNext, userCheck, userValue, userRan⟩ :=
    run_settleAccount_of_fits charge (userFind ▸ userExists) request.check
      (by rw [userHeld]; omega)
      (by rw [userHeld]; exact fits request.userAccount (.inr rfl))
  obtain rfl := Table.key_of_find found
  refine ⟨{ (database.setHeld request.tenantAccount tenantNext
      tenantCheck).setHeld request.userAccount userNext userCheck with
    requests := database.requests.update request.id
      (fun row => { row with charged := some charge, status := .settled })
      fun _ => rfl }, ?_, rfl, ?_, rfl⟩
  · rw [settle_of_nonneg nonneg]
    apply immediateTransaction_of_ok
    rw [run_settleBody_of_pending found pending, run_bind_of_ok tenantRan,
      run_bind_of_ok userRan]
    rfl
  · exact Moves.of_setHeld distinct (by omega) (by omega) rfl

/-- A charge that would take one of the two accounts out of 64 bits stops the
transaction before any row changes. -/
theorem run_settleBody_of_overflow
    (found : database.requests.find id = some request)
    (pending : request.status = .pending)
    (nonneg : 0 ≤ charge.toInt)
    (distinct : request.tenantAccount ≠ request.userAccount)
    (tenantExists : database.accounts.find request.tenantAccount ≠ none)
    (userExists : database.accounts.find request.userAccount ≠ none)
    (covered : request.reservation.toInt ≤
      database.held request.tenantAccount)
    (overflows : ∃ account,
      (account = request.tenantAccount ∨ account = request.userAccount) ∧
        2 ^ 63 ≤ database.held account - request.reservation.toInt +
          charge.toInt) :
    (settleBody id charge).run database = .error (.app .internal) := by
  rw [run_settleBody_of_pending found pending]
  by_cases tenantFits : database.held request.tenantAccount -
      request.reservation.toInt + charge.toInt < 2 ^ 63
  · obtain ⟨tenantNext, tenantCheck, -, tenantRan⟩ :=
      run_settleAccount_of_fits charge tenantExists request.check (by omega)
        tenantFits
    have userFind := Database.find_setHeld database request.tenantAccount
      request.userAccount tenantNext tenantCheck
    have userHeld := Database.held_setHeld database request.tenantAccount
      request.userAccount tenantNext tenantCheck
    rw [if_neg distinct.symm] at userFind userHeld
    obtain ⟨account, rfl | rfl, exceeds⟩ := overflows
    · omega
    · rw [run_bind_of_ok tenantRan]
      apply run_bind_of_error
      exact run_settleAccount_of_overflow (userFind ▸ userExists)
        (userHeld ▸ exceeds)
  · apply run_bind_of_error
    exact run_settleAccount_of_overflow tenantExists (not_lt.mp tenantFits)

theorem run_settleBody_of_unknown
    (unknown : database.requests.find id = none) :
    (settleBody id charge).run database = .error (.sql .notFound) := by
  unfold settleBody
  apply run_bind_of_error
  simp [selectRequest, StateT.run, unknown]

theorem run_settleBody_of_settled
    (found : database.requests.find id = some request)
    (settled : request.status = .settled) :
    (settleBody id charge).run database = .error (.app .conflict) := by
  have ran : (selectRequest id).run database = .ok (request, database) := by
    simp [selectRequest, StateT.run, found]
  unfold settleBody
  rw [run_bind_of_ok ran]
  simp only [settled, ne_eq, reduceCtorEq, not_false_eq_true, if_true]
  rfl

/-- Only a known pending request can be settled, with a nonnegative charge. -/
theorem settle_ok_pending
    (settled : settle id charge database = (.ok (), after)) :
    0 ≤ charge.toInt ∧ ∃ request,
      database.requests.find id = some request ∧
        request.status = .pending := by
  by_cases nonneg : 0 ≤ charge.toInt
  · refine ⟨nonneg, ?_⟩
    rw [settle_of_nonneg nonneg] at settled
    cases found : database.requests.find id with
    | none =>
        rw [immediateTransaction_of_error (run_settleBody_of_unknown found)]
          at settled
        simp at settled
    | some request =>
        refine ⟨request, rfl, ?_⟩
        cases status : request.status with
        | pending => rfl
        | settled =>
            rw [immediateTransaction_of_error
              (run_settleBody_of_settled found status)] at settled
            simp at settled
  · have negative : charge < 0 := by
      rw [Int64.lt_iff_toInt_lt]
      simpa using nonneg
    simp [settle, negative] at settled

/-- A settlement that reports an error has changed nothing. -/
theorem settle_error
    {error : AppError}
    (failed : settle id charge database = (.error error, after)) :
    after = database := by
  unfold settle at failed
  split at failed
  · exact (Prod.mk.inj failed).2.symm
  · exact immediateTransaction_error failed

end Settlement

end AsystantGateway
