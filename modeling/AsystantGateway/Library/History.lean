import Mathlib.Data.List.Basic

/-!
# Statements about the past of a run

A history is the list of what has happened, oldest first. `Earlier` says that
something happened after a past that had a property; `Since` says that
something happened and that nothing of another kind has happened after it. A
history that goes on keeps the first, and keeps the second unless the ending
event occurs, which is the step case of an induction over a run.
-/

namespace AsystantGateway

variable {ε : Type u}

/-- Some entry of the history stands in a relation to the entries before
it. -/
def Earlier
    (holds : List ε → ε → Prop)
    (history : List ε) : Prop :=
  ∃ before entry after, history = before ++ entry :: after ∧
    holds before entry

/-- Some entry of the history begins, and no entry after it ends. -/
def Since
    (begins ends : ε → Prop)
    (history : List ε) : Prop :=
  ∃ before entry after, history = before ++ entry :: after ∧
    begins entry ∧ ∀ other ∈ after, ¬ ends other

namespace Earlier

variable {holds other : List ε → ε → Prop} {history : List ε}

theorem last
    {entry : ε}
    (held : holds history entry) :
    Earlier holds (history ++ [entry]) :=
  ⟨history, entry, [], rfl, held⟩

theorem append
    (earlier : Earlier holds history)
    (more : List ε) :
    Earlier holds (history ++ more) := by
  obtain ⟨before, entry, after, split, held⟩ := earlier
  exact ⟨before, entry, after ++ more, by simp [split], held⟩

/-- The relation may be weakened on the entries of the history. -/
theorem imp
    (earlier : Earlier holds history)
    (weakens : ∀ before entry, before ⊆ history → entry ∈ history →
      holds before entry → other before entry) :
    Earlier other history := by
  obtain ⟨before, entry, after, rfl, held⟩ := earlier
  refine ⟨before, entry, after, rfl, weakens before entry ?_ ?_ held⟩
  · exact List.subset_append_left _ _
  · simp

end Earlier

namespace Since

variable {begins ends otherBegins otherEnds : ε → Prop} {history : List ε}

theorem last
    {entry : ε}
    (begun : begins entry) :
    Since begins ends (history ++ [entry]) :=
  ⟨history, entry, [], rfl, begun, by simp⟩

theorem concat
    (since : Since begins ends history)
    {entry : ε}
    (goesOn : ¬ ends entry) :
    Since begins ends (history ++ [entry]) := by
  obtain ⟨before, first, after, split, begun, never⟩ := since
  refine ⟨before, first, after ++ [entry], by simp [split], begun, ?_⟩
  intro other member
  rcases List.mem_append.mp member with earlier | isLast
  · exact never other earlier
  · rw [List.mem_singleton.mp isLast]
    exact goesOn

/-- What begins may be weakened, and what ends may be strengthened, on the
entries of the history. -/
theorem imp
    (since : Since begins ends history)
    (weakens : ∀ entry ∈ history, begins entry → otherBegins entry)
    (strengthens : ∀ entry ∈ history, otherEnds entry → ends entry) :
    Since otherBegins otherEnds history := by
  obtain ⟨before, first, after, rfl, begun, never⟩ := since
  refine ⟨before, first, after, rfl, weakens first (by simp) begun, ?_⟩
  intro other member ended
  exact never other member (strengthens other (by simp [member]) ended)

theorem exists_mem (since : Since begins ends history) :
    ∃ entry ∈ history, begins entry := by
  obtain ⟨before, first, after, rfl, begun, -⟩ := since
  exact ⟨first, by simp, begun⟩

end Since

end AsystantGateway
