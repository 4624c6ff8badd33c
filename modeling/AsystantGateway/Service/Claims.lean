import AsystantGateway.Library.Replace
import AsystantGateway.Repository.Ledger

/-!
# Claims on the ledger

What concurrent parties may rely on when each of them has put at most one
request into the ledger. A claim is what one party knows of its request. The
claims are backed by the ledger when every claim describes its row, no two
claims are about one row and every row is claimed.

Only two events concern the claims. A granted reservation turns the party
without a claim into one with a pending claim, and a settlement adds the charge
to the claim of its party.
-/

namespace AsystantGateway

open Replace

/-- What a party knows of its request: a charge once it is settled. -/
structure Claim where
  id : String
  identity : String
  amount : Int64
  charge : Option Int64
  deriving DecidableEq

/-- A row is what a claim says. -/
structure Claim.Describes (claim : Claim) (row : Request) : Prop where
  identity : row.identity = claim.identity
  reservation : row.reservation = claim.amount
  charged : row.charged = claim.charge
  status : row.status = if claim.charge.isSome then .settled else .pending

/-- The claims of all parties agree with the rows of the ledger. -/
structure Backed
    (database : Database)
    (claims : List (Option Claim)) : Prop where
  row : ∀ claim, some claim ∈ claims →
    ∃ row, database.requests.find claim.id = some row ∧ claim.Describes row
  distinct : ∀ (index other : Nat) (claim another : Claim),
    claims[index]? = some (some claim) → claims[other]? = some (some another) →
      claim.id = another.id → index = other
  complete : ∀ row ∈ database.requests.rows,
    ∃ claim, some claim ∈ claims ∧ claim.id = row.id

namespace Backed

variable
  {database after : Database}
  {claims : List (Option Claim)}
  {index : Nat}

theorem empty : Backed .empty [] where
  row _ member := by simp at member
  distinct _ _ _ _ found := by simp at found
  complete _ member := by simp [Database.empty] at member

/-- A party without a claim changes nothing. -/
theorem arrive (backed : Backed database claims) :
    Backed database (claims ++ [none]) where
  row claim member := backed.row claim (by simpa using member)
  distinct index other claim another found otherFound sameId := by
    have inClaims : ∀ (place : Nat) (claim : Claim),
        (claims ++ [none])[place]? = some (some claim) →
          claims[place]? = some (some claim) := by
      intro place claim found
      rw [List.getElem?_append] at found
      split at found
      · exact found
      · rw [List.getElem?_singleton] at found
        split at found <;> simp at found
    exact backed.distinct index other claim another (inClaims _ _ found)
      (inClaims _ _ otherFound) sameId
  complete row member := by
    obtain ⟨claim, claimed, sameId⟩ := backed.complete row member
    exact ⟨claim, by simpa using claimed, sameId⟩

/-- No claim is about an id that is free. -/
theorem id_ne_of_free
    (backed : Backed database claims)
    {id : String}
    (free : database.requests.find id = none)
    {claim : Claim}
    (claimed : some claim ∈ claims) :
    claim.id ≠ id := by
  rintro rfl
  obtain ⟨row, found, -⟩ := backed.row claim claimed
  rw [free] at found
  cases found

/-- A granted reservation backs the pending claim of its party. -/
theorem reserve
    {id day : String}
    {session : Session}
    {amount : Int64}
    (backed : Backed database claims)
    (unclaimed : claims[index]? = some none)
    (free : database.requests.find id = none)
    (effect : Reserves database after id session amount day) :
    Backed after (claims.set index (some {
      id
      identity := session.identity
      amount
      charge := none })) := by
  obtain ⟨⟨check, inserted⟩, -, -⟩ := effect
  have find := Table.find_insert inserted
  have otherId : ∀ (other : Nat) (claim : Claim),
      claims[other]? = some (some claim) → claim.id ≠ id :=
    fun _ _ found => backed.id_ne_of_free free (List.mem_of_getElem? found)
  refine ⟨?_, ?_, ?_⟩
  · intro claim member
    rcases (mem_set_iff unclaimed).mp member with isNew | ⟨other, -, found⟩
    · cases isNew
      refine ⟨_, (find id).trans (if_pos rfl), rfl, rfl, rfl, rfl⟩
    · obtain ⟨row, rowFound, describes⟩ :=
        backed.row claim (List.mem_of_getElem? found)
      refine ⟨row, ?_, describes⟩
      rw [find claim.id]
      exact (if_neg (otherId other claim found).symm).trans rowFound
  · intro first second claim another found otherFound sameId
    rcases (getElem?_set_eq_some_iff unclaimed).mp found with
      ⟨isFirst, isNew⟩ | ⟨-, old⟩
    · rcases (getElem?_set_eq_some_iff unclaimed).mp otherFound with
        ⟨isSecond, -⟩ | ⟨-, otherOld⟩
      · exact isFirst.trans isSecond.symm
      · cases isNew
        exact absurd sameId.symm (otherId second another otherOld)
    · rcases (getElem?_set_eq_some_iff unclaimed).mp otherFound with
        ⟨-, isNew⟩ | ⟨-, otherOld⟩
      · cases isNew
        exact absurd sameId (otherId first claim old)
      · exact backed.distinct first second claim another old otherOld sameId
  · intro row member
    rcases (Table.mem_rows_insert inserted).mp member with rfl | prior
    · exact ⟨_, (mem_set_iff unclaimed).mpr (.inl rfl), rfl⟩
    · obtain ⟨claim, claimed, sameId⟩ := backed.complete row prior
      obtain ⟨other, found⟩ := List.mem_iff_getElem?.mp claimed
      refine ⟨claim, (mem_set_iff unclaimed).mpr (.inr ⟨other, ?_, found⟩),
        sameId⟩
      rintro rfl
      rw [unclaimed] at found
      cases found

/-- A settlement adds the charge to the claim of its party. -/
theorem settle
    {claim : Claim}
    {request : Request}
    {charge : Int64}
    (backed : Backed database claims)
    (claimed : claims[index]? = some (some claim))
    (isRequest : request.id = claim.id)
    (effect : Settles database after request charge) :
    Backed after (claims.set index (some { claim with
      charge := some charge })) := by
  have requests := effect.requests
  have find : ∀ id, after.requests.find id =
      if id = claim.id then (database.requests.find id).map fun row =>
        { row with charged := some charge, status := .settled }
      else database.requests.find id := by
    intro id
    rw [requests, Table.find_update, isRequest]
  refine ⟨?_, ?_, ?_⟩
  · intro other member
    rcases (mem_set_iff claimed).mp member with isNew | ⟨place, notHere, found⟩
    · cases isNew
      obtain ⟨row, rowFound, describes⟩ :=
        backed.row claim (List.mem_of_getElem? claimed)
      refine ⟨{ row with charged := some charge, status := .settled }, ?_,
        describes.identity, describes.reservation, rfl, rfl⟩
      rw [find claim.id, if_pos rfl, rowFound]
      rfl
    · obtain ⟨row, rowFound, describes⟩ :=
        backed.row other (List.mem_of_getElem? found)
      refine ⟨row, ?_, describes⟩
      rw [find other.id, if_neg, rowFound]
      intro sameId
      exact notHere (backed.distinct place index other claim found claimed
        sameId)
  · have before : ∀ (place : Nat) (other : Claim),
        (claims.set index (some { claim with charge := some charge }))[place]? =
            some (some other) →
          ∃ old, claims[place]? = some (some old) ∧ old.id = other.id := by
      intro place other found
      rcases (getElem?_set_eq_some_iff claimed).mp found with
        ⟨rfl, isNew⟩ | ⟨-, old⟩
      · cases isNew
        exact ⟨claim, claimed, rfl⟩
      · exact ⟨other, old, rfl⟩
    intro first second one another found otherFound sameId
    obtain ⟨oldOne, oneBefore, oneId⟩ := before first one found
    obtain ⟨oldAnother, anotherBefore, anotherId⟩ :=
      before second another otherFound
    exact backed.distinct first second oldOne oldAnother oneBefore
      anotherBefore (by rw [oneId, anotherId, sameId])
  · intro row member
    rw [requests] at member
    obtain ⟨prior, present, isRow⟩ := Table.mem_rows_update.mp member
    have sameRowId : row.id = prior.id := by
      rw [isRow]
      split <;> rfl
    obtain ⟨other, otherClaimed, sameId⟩ := backed.complete prior present
    obtain ⟨place, found⟩ := List.mem_iff_getElem?.mp otherClaimed
    by_cases here : place = index
    · subst here
      rw [claimed] at found
      cases found
      exact ⟨_, (mem_set_iff claimed).mpr (.inl rfl),
        sameId.trans sameRowId.symm⟩
    · exact ⟨other, (mem_set_iff claimed).mpr (.inr ⟨place, here, found⟩),
        sameId.trans sameRowId.symm⟩

end Backed

end AsystantGateway
