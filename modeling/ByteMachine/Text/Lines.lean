/-!
# Lines

A line ends with a line feed or with a carriage return and a line feed, and with nothing else. The
characters after the last line feed are a line too if there are any.

## Results

* `lines_cons`, `lines_return`: one character of the text.
* `lines_of_not_mem`: a text without a line feed is one line.
* `not_mem_of_mem_lines`: no line holds a line feed.
-/

namespace ByteMachine.Text

/-- Puts a character in front of the first line. -/
def consFirst (c : Char) : List (List Char) → List (List Char)
  | [] => [[c]]
  | l :: ls => (c :: l) :: ls

/-- The lines of a text, without their ends. -/
def lines : List Char → List (List Char)
  | [] => []
  | '\r' :: '\n' :: cs => [] :: lines cs
  | '\n' :: cs => [] :: lines cs
  | c :: cs => consFirst c (lines cs)

/-! ## One character of the text -/

@[simp] theorem lines_nil : lines [] = [] := rfl

theorem lines_cons {c : Char} (hn : c ≠ '\n') (hr : c ≠ '\r') (cs : List Char) :
    lines (c :: cs) = consFirst c (lines cs) := by
  rw [lines]
  · intro _ h
    exact absurd h hr
  · exact hn

/-- A carriage return is an ordinary character unless a line feed follows it. -/
theorem lines_return {cs : List Char} (h : cs.head? ≠ some '\n') :
    lines ('\r' :: cs) = consFirst '\r' (lines cs) := by
  rw [lines]
  · intro ds _ e
    exact absurd (by rw [e]; rfl) h
  · decide

/-! ## Whole lines -/

/-- A text without a line feed is one line, or none if it is empty. -/
theorem lines_of_not_mem {cs : List Char} (h : '\n' ∉ cs) (hne : cs ≠ []) : lines cs = [cs] := by
  induction cs with
  | nil => exact absurd rfl hne
  | cons c cs ih =>
    have hc : c ≠ '\n' := fun e => h (by simp [e])
    have hcs : '\n' ∉ cs := fun m => h (List.mem_cons_of_mem c m)
    have step : lines (c :: cs) = consFirst c (lines cs) := by
      by_cases hr : c = '\r'
      · subst hr
        refine lines_return fun e => hcs ?_
        exact List.mem_of_mem_head? e
      · exact lines_cons hc hr cs
    rw [step]
    cases cs with
    | nil => rfl
    | cons d ds => rw [ih hcs (by simp)]; rfl

/-- No line holds a line feed. -/
theorem not_mem_of_mem_lines {cs l : List Char} (h : l ∈ lines cs) : '\n' ∉ l := by
  fun_induction lines cs generalizing l with
  | case1 => simp at h
  | case2 cs ih =>
    rcases List.mem_cons.mp h with rfl | h
    · simp
    · exact ih h
  | case3 cs ih =>
    rcases List.mem_cons.mp h with rfl | h
    · simp
    · exact ih h
  | case4 c cs hr hn ih =>
    cases e : lines cs with
    | nil =>
      simp only [e, consFirst, List.mem_singleton] at h
      subst h
      simpa using Ne.symm hn
    | cons l' ls =>
      rw [e] at ih
      simp only [e, consFirst, List.mem_cons] at h
      rcases h with rfl | h
      · have := ih (List.mem_cons_self)
        simp [this, Ne.symm hn]
      · exact ih (List.mem_cons_of_mem _ h)

end ByteMachine.Text
