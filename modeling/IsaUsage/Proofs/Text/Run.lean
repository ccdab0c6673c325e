import Mathlib.Data.List.TakeWhile

namespace IsaUsage.Text

/-!
# Longest runs of one kind of characters

Taking a longest run of characters of one kind cuts a text in two: the run, and
a rest that cannot go on with it. No other cut is of that kind
(`takeWhile_dropWhile_iff`). A run never goes past a character of another kind
(`exists_tail_of_not_mem`).
-/

/-- A run of characters of one kind ends where another kind begins. -/
theorem dropWhile_append_of_run
    {kind : Char → Bool}
    {run rest : List Char}
    (inside : ∀ c ∈ run, kind c = true)
    (outside : ∀ c ∈ rest.head?, kind c = false) :
    (run ++ rest).dropWhile kind = rest := by
  rw [List.dropWhile_append_of_pos inside]
  cases rest with
  | nil =>
      rfl
  | cons c rest =>
      simp [outside c (by simp)]

theorem head?_dropWhile_eq_false
    (kind : Char → Bool)
    (text : List Char) :
    ∀ c ∈ (text.dropWhile kind).head?, kind c = false := by
  intro c first
  have notKind := List.head?_dropWhile_not kind text
  rw [Option.mem_def.mp first] at notKind
  simpa using notKind

/-- A longest run and what follows it are the only cut of their kind. -/
theorem takeWhile_dropWhile_iff
    {kind : Char → Bool}
    {text run rest : List Char} :
    (text.takeWhile kind = run ∧ text.dropWhile kind = rest) ↔
      (∀ c ∈ run, kind c = true) ∧
        (∀ c ∈ rest.head?, kind c = false) ∧ text = run ++ rest := by
  constructor
  · rintro ⟨rfl, rfl⟩
    exact ⟨fun c member => List.mem_takeWhile_imp member,
      head?_dropWhile_eq_false kind text,
      List.takeWhile_append_dropWhile.symm⟩
  · rintro ⟨inside, outside, rfl⟩
    have dropped := dropWhile_append_of_run inside outside
    have whole := @List.takeWhile_append_dropWhile _ kind (run ++ rest)
    rw [dropped] at whole
    exact ⟨List.append_cancel_right whole, dropped⟩

/-- A part without a character stands before the place of that character. -/
theorem exists_tail_of_not_mem
    {c : Char}
    {left right leading rest : List Char}
    (absent : c ∉ leading)
    (whole : left ++ c :: right = leading ++ rest) :
    ∃ tail, left = leading ++ tail ∧ rest = tail ++ c :: right := by
  rcases List.append_eq_append_iff.mp whole with
    ⟨tail, longer, separated⟩ | ⟨tail, same, rfl⟩
  · cases tail with
    | nil =>
        exact ⟨[], by simpa using longer.symm, by simpa using separated.symm⟩
    | cons first tail =>
        obtain ⟨rfl, -⟩ := List.cons.inj separated
        exact absurd (by simp [longer]) absent
  · exact ⟨tail, same, rfl⟩

end IsaUsage.Text
