import Mathlib.Data.List.Basic

/-!
# Lines of a text

A line ends with a newline, which a carriage return may precede. The last line
may lack its end, and there is none after the last end.
-/

namespace AsystantGateway
namespace Text

/-- A line in reverse, without a carriage return at its end. -/
def endLine : List Char → List Char
  | [] => []
  | last :: line => if last = '\r' then line else last :: line

/-- The lines of some characters after the line so far, which is in reverse. -/
def linesFrom : List Char → List Char → List (List Char)
  | [], line => if line = [] then [] else [line.reverse]
  | char :: rest, line =>
      if char = '\n' then (endLine line).reverse :: linesFrom rest []
      else linesFrom rest (char :: line)

/-- The lines of a text. -/
def lines (text : String) : List String :=
  (linesFrom text.toList []).map String.ofList

theorem linesFrom_append
    {text : List Char}
    (noEnd : ∀ char ∈ text, char ≠ '\n')
    (rest line : List Char) :
    linesFrom (text ++ '\n' :: rest) line =
      (endLine (text.reverse ++ line)).reverse :: linesFrom rest [] := by
  induction text generalizing line with
  | nil => exact if_pos rfl
  | cons char text inductionHypothesis =>
      obtain ⟨notEnd, noEnd⟩ := List.forall_mem_cons.mp noEnd
      rw [List.cons_append, linesFrom, if_neg notEnd,
        inductionHypothesis noEnd, List.reverse_cons, List.append_assoc,
        List.singleton_append]

theorem endLine_of_forall
    {line : List Char}
    (noReturn : ∀ char ∈ line, char ≠ '\r') :
    endLine line = line := by
  cases line with
  | nil => rfl
  | cons last line => exact if_neg (noReturn last List.mem_cons_self)

/-- A text without line ends is a line when a newline follows it. -/
theorem linesFrom_line
    {text : List Char}
    (plain : ∀ char ∈ text, char ≠ '\n' ∧ char ≠ '\r')
    (rest : List Char) :
    linesFrom (text ++ '\n' :: rest) [] = text :: linesFrom rest [] := by
  have noReturn : ∀ char ∈ text.reverse ++ [], char ≠ '\r' := by
    intro char present
    rw [List.append_nil, List.mem_reverse] at present
    exact (plain char present).2
  rw [linesFrom_append fun char present => (plain char present).1,
    endLine_of_forall noReturn, List.append_nil, List.reverse_reverse]

end Text
end AsystantGateway
