namespace IsaUsage.Text

/-!
# Fixed spellings

Looking for a fixed spelling at the start of a text, and replacing it wherever
it occurs.
-/

/-- What follows a fixed spelling at the start of a text. -/
def afterLiteral? : List Char → List Char → Option (List Char)
  | [], text => some text
  | _ :: _, [] => none
  | expected :: literal, c :: text =>
      if expected = c then afterLiteral? literal text else none

/-- The spelling is there exactly when the text is it and what follows. -/
theorem afterLiteral?_eq_some_iff
    {literal text rest : List Char} :
    afterLiteral? literal text = some rest ↔ text = literal ++ rest := by
  induction literal generalizing text with
  | nil =>
      simp [afterLiteral?]
  | cons expected literal inductionHypothesis =>
      cases text with
      | nil =>
          simp [afterLiteral?]
      | cons c text =>
          by_cases same : expected = c
          · simp [afterLiteral?, same, inductionHypothesis]
          · have different : c ≠ expected := fun equal => same equal.symm
            simp [afterLiteral?, same, different]

/-- What follows a spelling is no longer than the text. -/
theorem length_of_afterLiteral?
    {literal text rest : List Char}
    (found : afterLiteral? literal text = some rest) :
    rest.length ≤ text.length := by
  rw [afterLiteral?_eq_some_iff] at found
  simp [found]

/-- Whether a spelling occurs in a text. -/
def occursIn (spelling : List Char) : List Char → Bool
  | [] => spelling.isEmpty
  | c :: rest =>
      (afterLiteral? spelling (c :: rest)).isSome || occursIn spelling rest

/--
Every occurrence of a spelling, from the left, gives way to another text. An
occurrence is looked for after the end of the one before it, and an empty
spelling occurs nowhere.
-/
def replaceAll (spelling replacement text : List Char) : List Char :=
  match text with
  | [] => []
  | c :: rest =>
      match _found : afterLiteral? spelling.tail rest with
      | some after =>
          if spelling.head? = some c then
            replacement ++ replaceAll spelling replacement after
          else
            c :: replaceAll spelling replacement rest
      | none => c :: replaceAll spelling replacement rest
termination_by text.length
decreasing_by
  all_goals
    have := @length_of_afterLiteral?
    grind

/-- `replaceAll` on strings. -/
def replace (spelling replacement text : String) : String :=
  String.ofList
    (replaceAll spelling.toList replacement.toList text.toList)

end IsaUsage.Text
