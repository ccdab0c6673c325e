namespace IsaUsage.Text

/-!
# Lines of a text

A text can be cut after every line feed, which loses nothing: the pieces
joined give the text back (`flatten_cutLines`). The lines themselves leave the
terminator out: the line feed and one carriage return directly before it.
-/

/-- The pieces of a text, each up to and including a line feed. -/
def cutLines : List Char → List (List Char)
  | [] => []
  | c :: rest =>
      if c = '\n' then
        [c] :: cutLines rest
      else
        match cutLines rest with
        | [] => [[c]]
        | line :: lines => (c :: line) :: lines

/-- Cutting loses nothing. -/
theorem flatten_cutLines (text : List Char) :
    (cutLines text).flatten = text := by
  induction text with
  | nil =>
      rfl
  | cons c rest inductionHypothesis =>
      by_cases newline : c = '\n'
      · simp [cutLines, newline, inductionHypothesis]
      · cases later : cutLines rest with
        | nil =>
            simp [later] at inductionHypothesis
            simp [cutLines, newline, inductionHypothesis]
        | cons line lines =>
            simp [later] at inductionHypothesis
            simp [cutLines, newline, later, inductionHypothesis]

/-- A piece without its terminator; a piece without a line feed stays whole. -/
def withoutTerminator (piece : List Char) : List Char :=
  match piece.reverse with
  | '\n' :: '\r' :: rest => rest.reverse
  | '\n' :: rest => rest.reverse
  | _ => piece

/-- The lines of a text, without their terminators. -/
def lines (text : String) : List String :=
  (cutLines text.toList).map fun piece =>
    String.ofList (withoutTerminator piece)

/-- The pieces of a text, with their terminators. -/
def pieces (text : String) : List String :=
  (cutLines text.toList).map String.ofList

end IsaUsage.Text
