import AsystantGateway.Library.Lookup
import Mathlib.Data.List.Forall2
import Mathlib.Data.List.Nodup

/-!
# Lists whose elements have keys

A list of records is edited by changing the first record with a given key.
Applying one such edit for every record, in order, changes all of them when no
two share a key.
-/

namespace AsystantGateway

namespace KeyedList

variable {α : Type u} {β : Type v} {κ : Type w}

/-- Change the first element that is wanted. -/
def modifyFirst
    (wanted : α → Bool)
    (change : α → α) : List α → List α
  | [] => []
  | head :: tail =>
      if wanted head then change head :: tail
      else head :: modifyFirst wanted change tail

/-- What a change keeps of the element it changes is kept of the list. -/
theorem map_modifyFirst
    {wanted : α → Bool}
    {change : α → α}
    {view : α → β}
    {items : List α}
    (keeps : ∀ item, items.find? wanted = some item →
      view (change item) = view item) :
    (modifyFirst wanted change items).map view = items.map view := by
  induction items with
  | nil => rfl
  | cons head tail inductionHypothesis =>
      cases isWanted : wanted head with
      | true => simp [modifyFirst, isWanted, keeps head (by simp [isWanted])]
      | false =>
          have tailKeeps := inductionHypothesis fun item found =>
            keeps item (by simpa [isWanted] using found)
          simp [modifyFirst, isWanted, tailKeeps]

/-- An element of the changed list is an element of the list, or the wanted one
after the change. -/
theorem mem_modifyFirst
    {wanted : α → Bool}
    {change : α → α}
    {items : List α}
    {changed : α}
    (member : changed ∈ modifyFirst wanted change items) :
    changed ∈ items ∨
      ∃ item ∈ items, wanted item = true ∧ changed = change item := by
  induction items with
  | nil => exact .inl member
  | cons head tail inductionHypothesis =>
      unfold modifyFirst at member
      split at member
      · rename_i isWanted
        rcases List.mem_cons.mp member with rfl | inTail
        · exact .inr ⟨head, List.mem_cons_self, isWanted, rfl⟩
        · exact .inl (List.mem_cons_of_mem _ inTail)
      · rcases List.mem_cons.mp member with rfl | inTail
        · exact .inl List.mem_cons_self
        · refine (inductionHypothesis inTail).imp
            (List.mem_cons_of_mem _) ?_
          rintro ⟨item, present, result⟩
          exact ⟨item, List.mem_cons_of_mem _ present, result⟩

/-- An element stays in the changed list, unless it is the first wanted one,
which is there after the change. -/
theorem mem_modifyFirst_of_mem
    {wanted : α → Bool}
    (change : α → α)
    {items : List α}
    {item : α}
    (member : item ∈ items) :
    item ∈ modifyFirst wanted change items ∨
      items.find? wanted = some item ∧
        change item ∈ modifyFirst wanted change items := by
  induction items with
  | nil => cases member
  | cons head tail inductionHypothesis =>
      cases isWanted : wanted head with
      | true =>
          simp only [modifyFirst, isWanted, if_true, List.find?_cons_of_pos]
          rcases List.mem_cons.mp member with rfl | inTail
          · exact .inr ⟨rfl, List.mem_cons_self⟩
          · exact .inl (List.mem_cons_of_mem _ inTail)
      | false =>
          simp only [modifyFirst, isWanted, Bool.false_eq_true, if_false,
            not_false_eq_true, List.find?_cons_of_neg]
          rcases List.mem_cons.mp member with rfl | inTail
          · exact .inl List.mem_cons_self
          · exact (inductionHypothesis inTail).imp (List.mem_cons_of_mem _)
              fun result => ⟨result.1, List.mem_cons_of_mem _ result.2⟩

/-- Changing an element commutes with a map that the change respects. -/
theorem modifyFirst_map
    (wanted : β → Bool)
    (change : α → α)
    (mapped : β → β)
    (image : α → β)
    (respects : ∀ item, wanted (image item) = true →
      mapped (image item) = image (change item))
    (items : List α) :
    modifyFirst wanted mapped (items.map image) =
      (modifyFirst (fun item => wanted (image item)) change items).map
        image := by
  induction items with
  | nil => rfl
  | cons head tail inductionHypothesis =>
      cases isWanted : wanted (image head) with
      | true => simp [modifyFirst, isWanted, respects head isWanted]
      | false => simp [modifyFirst, isWanted, inductionHypothesis]

/-- After a change that keeps an element wanted, the changed element is
found. -/
theorem find?_modifyFirst
    {wanted : α → Bool}
    {change : α → α}
    {items : List α}
    (stays : ∀ item, items.find? wanted = some item →
      wanted (change item) = true) :
    (modifyFirst wanted change items).find? wanted =
      (items.find? wanted).map change := by
  induction items with
  | nil => rfl
  | cons head tail inductionHypothesis =>
      cases isWanted : wanted head with
      | true => simp [modifyFirst, isWanted, stays head (by simp [isWanted])]
      | false =>
          have tailFound := inductionHypothesis fun item found =>
            stays item (by simpa [isWanted] using found)
          simp [modifyFirst, isWanted, tailFound]

/-- Two changes of one element are a single change. -/
theorem modifyFirst_modifyFirst
    {wanted : α → Bool}
    {first second both : α → α}
    {items : List α}
    (stays : ∀ item, items.find? wanted = some item →
      wanted (first item) = true)
    (combined : ∀ item, items.find? wanted = some item →
      second (first item) = both item) :
    modifyFirst wanted second (modifyFirst wanted first items) =
      modifyFirst wanted both items := by
  induction items with
  | nil => rfl
  | cons head tail inductionHypothesis =>
      cases isWanted : wanted head with
      | true =>
          have isFirst : (head :: tail).find? wanted = some head := by
            simp [isWanted]
          simp [modifyFirst, isWanted, stays head isFirst,
            combined head isFirst]
      | false =>
          have tailCombined := inductionHypothesis
            (fun item found => stays item (by simpa [isWanted] using found))
            (fun item found => combined item (by simpa [isWanted] using found))
          simp [modifyFirst, isWanted, tailCombined]

/-- Elements before the wanted one are passed over. -/
theorem modifyFirst_append_of_forall
    {wanted : α → Bool}
    {front : List α}
    (passed : ∀ item ∈ front, wanted item = false)
    (change : α → α)
    (items : List α) :
    modifyFirst wanted change (front ++ items) =
      front ++ modifyFirst wanted change items := by
  induction front with
  | nil => rfl
  | cons head tail inductionHypothesis =>
      have headPassed := passed head List.mem_cons_self
      have tailPassed := inductionHypothesis fun item member =>
        passed item (List.mem_cons_of_mem _ member)
      simp [modifyFirst, headPassed, tailPassed]

variable [DecidableEq κ]

/-- Among elements with distinct keys a change leaves all but one as they
are. -/
theorem forall₂_modifyFirst
    {key : α → κ}
    {wanted : κ}
    {change : α → α}
    {items : List α}
    (nodup : (items.map key).Nodup) :
    List.Forall₂ (fun before after =>
        key before ≠ wanted ∧ after = before ∨
          lookup key items wanted = some before ∧ after = change before)
      items (modifyFirst (fun item => key item = wanted) change items) := by
  induction items with
  | nil => exact .nil
  | cons head tail inductionHypothesis =>
      obtain ⟨headFresh, tailNodup⟩ := List.nodup_cons.mp nodup
      by_cases isWanted : key head = wanted
      · simp only [modifyFirst, isWanted, decide_true, if_true]
        refine .cons (.inr ⟨by simp [lookup, isWanted], rfl⟩) ?_
        refine List.forall₂_same.mpr fun item member => .inl ⟨?_, rfl⟩
        rintro sameKey
        rw [isWanted, ← sameKey] at headFresh
        exact headFresh (List.mem_map_of_mem member)
      · have tailLookup : lookup key (head :: tail) wanted =
            lookup key tail wanted := by
          simp [lookup, isWanted]
        simp only [modifyFirst, isWanted, decide_false, tailLookup]
        exact .cons (.inl ⟨isWanted, rfl⟩) (inductionHypothesis tailNodup)

/-- Merge every record of one list into the first element of another that has
its key. -/
def mergeByKey
    (key : α → κ)
    (recordKey : β → κ)
    (merge : β → α → α)
    (records : List β)
    (items : List α) : List α :=
  records.foldl (fun merged record =>
    modifyFirst (fun item => key item = recordKey record) (merge record)
      merged) items

section Merge

variable
  {key : α → κ}
  {recordKey : β → κ}
  {merge : β → α → α}

/-- What every merge keeps of an element is kept of the list, whatever the
records are. -/
theorem map_mergeByKey
    {ν : Type*}
    {view : α → ν}
    (keeps : ∀ record item, view (merge record item) = view item)
    (records : List β)
    (items : List α) :
    (mergeByKey key recordKey merge records items).map view =
      items.map view := by
  induction records generalizing items with
  | nil => rfl
  | cons record records inductionHypothesis =>
      refine (inductionHypothesis _).trans ?_
      apply map_modifyFirst
      intro item _
      exact keeps record item

/-- Merging commutes with a map of the elements that keys and merges
respect. -/
theorem mergeByKey_map
    {image : α → α}
    (sameKey : ∀ item, key (image item) = key item)
    (respects : ∀ record item,
      merge record (image item) = image (merge record item))
    (records : List β)
    (items : List α) :
    mergeByKey key recordKey merge records (items.map image) =
      (mergeByKey key recordKey merge records items).map image := by
  induction records generalizing items with
  | nil => rfl
  | cons record records inductionHypothesis =>
      have first := modifyFirst_map
        (fun item => decide (key item = recordKey record)) (merge record)
        (merge record) image (fun item _ => respects record item) items
      simp only [sameKey] at first
      simp only [mergeByKey, List.foldl_cons, first]
      exact inductionHypothesis _

/-- An element of the merged list is an element of the list, or one with a
record of its key merged into it, when a later merge hides an earlier one. -/
theorem mem_mergeByKey
    (keeps : ∀ record item, key (merge record item) = key item)
    (hides : ∀ record earlier item,
      merge record (merge earlier item) = merge record item)
    {records : List β}
    {items : List α}
    {merged : α}
    (member : merged ∈ mergeByKey key recordKey merge records items) :
    ∃ item ∈ items, merged = item ∨
      ∃ record ∈ records, recordKey record = key item ∧
        merged = merge record item := by
  induction records generalizing items with
  | nil => exact ⟨merged, member, .inl rfl⟩
  | cons record records inductionHypothesis =>
      obtain ⟨middle, isMiddle, outcome⟩ := inductionHypothesis member
      rcases mem_modifyFirst isMiddle with
        present | ⟨item, present, sameKey, rfl⟩
      · refine ⟨middle, present, outcome.imp_right ?_⟩
        rintro ⟨later, isLater, result⟩
        exact ⟨later, List.mem_cons_of_mem _ isLater, result⟩
      · refine ⟨item, present, .inr ?_⟩
        rcases outcome with rfl | ⟨later, isLater, laterKey, rfl⟩
        · exact ⟨record, List.mem_cons_self,
            (of_decide_eq_true sameKey).symm, rfl⟩
        · exact ⟨later, List.mem_cons_of_mem _ isLater,
            laterKey.trans (keeps record item), hides later record item⟩

end Merge

/-- Merging keeps the keys, so two lists with the same distinct keys are
merged element by element. -/
theorem mergeByKey_eq_zipWith
    {key : α → κ}
    {recordKey : β → κ}
    (merge : β → α → α)
    (keeps : ∀ record item, key (merge record item) = key item)
    {records : List β}
    {items : List α}
    (sameKeys : items.map key = records.map recordKey)
    (nodup : (items.map key).Nodup) :
    mergeByKey key recordKey merge records items =
      List.zipWith merge records items := by
  -- The elements merged so far stay in front and are passed over.
  suffices general : ∀ front : List α,
      (∀ item ∈ front, key item ∉ items.map key) →
        mergeByKey key recordKey merge records (front ++ items) =
          front ++ List.zipWith merge records items by
    simpa using general [] (by simp)
  induction records generalizing items with
  | nil =>
      obtain rfl : items = [] := by simpa using sameKeys
      simp [mergeByKey]
  | cons record records inductionHypothesis =>
      cases items with
      | nil => simp at sameKeys
      | cons head tail =>
          simp only [List.map_cons, List.cons.injEq] at sameKeys
          obtain ⟨sameHead, sameTail⟩ := sameKeys
          rw [List.map_cons, List.nodup_cons] at nodup
          obtain ⟨headFresh, tailNodup⟩ := nodup
          intro front fresh
          have passed : ∀ item ∈ front,
              decide (key item = recordKey record) = false := by
            intro item member
            have notIn := fresh item member
            simp only [List.map_cons, List.mem_cons, not_or] at notIn
            simpa [← sameHead] using notIn.1
          have merged : mergeByKey key recordKey merge (record :: records)
              (front ++ head :: tail) =
                mergeByKey key recordKey merge records
                  ((front ++ [merge record head]) ++ tail) := by
            simp only [mergeByKey, List.foldl_cons,
              modifyFirst_append_of_forall passed]
            simp [modifyFirst, sameHead]
          rw [merged, inductionHypothesis sameTail tailNodup]
          · simp
          · intro item member
            rcases List.mem_append.mp member with inFront | isMerged
            · have notIn := fresh item inFront
              simp only [List.map_cons, List.mem_cons, not_or] at notIn
              exact notIn.2
            · obtain rfl := List.mem_singleton.mp isMerged
              rw [keeps]
              exact headFresh

/-- Zipping a list of images with another list gives a list of images when it
does so for elements of one view. -/
theorem zipWith_map_eq_map
    {γ δ ν : Type*}
    {viewLeft : γ → ν}
    {viewRight : α → ν}
    {combine : δ → α → α}
    {project : γ → δ}
    {image : γ → α}
    (combines : ∀ left right, viewLeft left = viewRight right →
      combine (project left) right = image left)
    {lefts : List γ}
    {rights : List α}
    (sameViews : lefts.map viewLeft = rights.map viewRight) :
    List.zipWith combine (lefts.map project) rights = lefts.map image := by
  induction lefts generalizing rights with
  | nil => simp
  | cons left lefts inductionHypothesis =>
      cases rights with
      | nil => simp at sameViews
      | cons right rights =>
          simp only [List.map_cons, List.cons.injEq] at sameViews
          simp [combines left right sameViews.1,
            inductionHypothesis sameViews.2]

end KeyedList

end AsystantGateway
