import IsaUsage.Proofs.Kernel.Composition

namespace IsaUsage

/-!
# Line ends with a carriage return

A text is converted by putting a carriage return before every line feed of it. The
converted text has the lines of the text, each one converted, and a converted line
declares what the line declares: no carriage return can stand in a declaration, and
a name ends before one as it does before a line feed
(`Declaration.kernelName?_crlf`). So a text can be converted before it is divided or
after (`Document.split_crlf`).
-/

namespace Text

/-- Characters with a carriage return before every line feed. -/
def returnFeeds (text : List Char) : List Char :=
  text.flatMap fun c => if c = '\n' then ['\r', '\n'] else [c]

/-- A text with a carriage return before every line feed. -/
def crlf (text : String) : String :=
  String.ofList (returnFeeds text.toList)

@[simp] theorem returnFeeds_nil : returnFeeds [] = [] :=
  rfl

@[simp] theorem returnFeeds_newline (text : List Char) :
    returnFeeds ('\n' :: text) = '\r' :: '\n' :: returnFeeds text :=
  rfl

/-- Only a line feed is given a carriage return. -/
theorem returnFeeds_cons_of_ne
    {c : Char}
    (noFeed : c ≠ '\n')
    (text : List Char) :
    returnFeeds (c :: text) = c :: returnFeeds text := by
  simp [returnFeeds, noFeed]

/-- Line ends are converted one by one. -/
theorem returnFeeds_append (left right : List Char) :
    returnFeeds (left ++ right) = returnFeeds left ++ returnFeeds right :=
  List.flatMap_append

/-- A converted text is made of its converted parts. -/
theorem crlf_append (left right : String) :
    crlf (left ++ right) = crlf left ++ crlf right := by
  simp [crlf, String.toList_append, returnFeeds_append]

/-- Each line is converted for itself. -/
theorem cutLines_returnFeeds (text : List Char) :
    cutLines (returnFeeds text) = (cutLines text).map returnFeeds := by
  induction text with
  | nil =>
      rfl
  | cons c text inductionHypothesis =>
      by_cases newline : c = '\n'
      · subst newline
        simp [cutLines, inductionHypothesis]
      · rw [returnFeeds_cons_of_ne newline, cutLines, if_neg newline,
          inductionHypothesis, cutLines, if_neg newline]
        cases cutLines text <;> simp [returnFeeds_cons_of_ne newline]

/-- The pieces of a converted text are the converted pieces. -/
theorem pieces_crlf (text : String) :
    pieces (crlf text) = (pieces text).map crlf := by
  simp [pieces, crlf, cutLines_returnFeeds, Function.comp_def]

/-- What holds no part of a line end stands in the text as it was. -/
theorem returnFeeds_eq_append_iff
    {text leading tail : List Char}
    (noFeed : '\n' ∉ leading)
    (noReturn : '\r' ∉ leading) :
    returnFeeds text = leading ++ tail ↔
      ∃ rest, text = leading ++ rest ∧ tail = returnFeeds rest := by
  induction leading generalizing text with
  | nil =>
      simp [eq_comm]
  | cons c leading inductionHypothesis =>
      simp only [List.mem_cons, not_or] at noFeed noReturn
      have later {text : List Char} := @inductionHypothesis text noFeed.2
        noReturn.2
      have notNewline : c ≠ '\n' := noFeed.1 ∘ Eq.symm
      cases text with
      | nil =>
          simp
      | cons d text =>
          by_cases newline : d = '\n'
          · subst newline
            simp [Ne.symm notNewline, noReturn.1]
          · simp [returnFeeds_cons_of_ne newline, later, and_assoc]

end Text

namespace Declaration

/-- A declaration ends before a carriage return as before a line feed. -/
theorem endsName_returnFeeds_iff {rest : List Char} :
    EndsName (Text.returnFeeds rest) ↔ EndsName rest := by
  cases rest with
  | nil =>
      rfl
  | cons c rest =>
      by_cases newline : c = '\n'
      · subst newline
        simp only [EndsName, Text.returnFeeds_newline, List.head?_cons,
          Option.mem_some_iff, forall_eq']
        exact iff_of_true (by decide) (by decide)
      · simp [EndsName, Text.returnFeeds_cons_of_ne newline]

/-- What starts with a declaration starts with it in the converted text. -/
theorem startsWith_returnFeeds_iff {text name after : List Char} :
    StartsWith (Text.returnFeeds text) name after ↔
      ∃ rest, StartsWith text name rest ∧ after = Text.returnFeeds rest := by
  have noReturn {spelled : List Char} (spells : Spells spelled name) :
      '\r' ∉ spelled :=
    spells.not_mem (by decide) (by decide)
  constructor
  · intro starts
    obtain ⟨spelled, spells, endsName, whole⟩ := startsWith_iff.mp starts
    obtain ⟨rest, rfl, rfl⟩ := (Text.returnFeeds_eq_append_iff
      spells.newline_not_mem (noReturn spells)).mp whole
    exact ⟨rest, startsWith_iff.mpr ⟨spelled, spells,
      endsName_returnFeeds_iff.mp endsName, rfl⟩, rfl⟩
  · rintro ⟨rest, starts, rfl⟩
    obtain ⟨spelled, spells, endsName, rfl⟩ := startsWith_iff.mp starts
    exact startsWith_iff.mpr ⟨spelled, spells,
      endsName_returnFeeds_iff.mpr endsName,
      (Text.returnFeeds_eq_append_iff spells.newline_not_mem
        (noReturn spells)).mpr ⟨rest, rfl, rfl⟩⟩

/-- A reading of a text as a reading of the converted text. -/
def returnRest (reading : List Char × List Char) : List Char × List Char :=
  (reading.1, Text.returnFeeds reading.2)

/-- A declaration is read in a converted text as before. -/
theorem readHere?_returnFeeds (text : List Char) :
    readHere? (Text.returnFeeds text) = (readHere? text).map returnRest := by
  apply Option.ext
  rintro ⟨name, after⟩
  simp only [readHere?_eq_some_iff, startsWith_returnFeeds_iff,
    Option.map_eq_some_iff, Prod.exists, returnRest, Prod.mk.injEq]
  constructor
  · rintro ⟨rest, starts, rfl⟩
    exact ⟨name, rest, starts, rfl, rfl⟩
  · rintro ⟨_, rest, starts, rfl, rfl⟩
    exact ⟨rest, starts, rfl⟩

/-- The first declaration stays the first one. -/
theorem readFirst?_returnFeeds (text : List Char) :
    readFirst? (Text.returnFeeds text) = (readFirst? text).map returnRest := by
  induction text with
  | nil =>
      rfl
  | cons c text inductionHypothesis =>
      by_cases newline : c = '\n'
      · -- No declaration starts with either part of a line end.
        subst newline
        exact inductionHypothesis
      · have here := readHere?_returnFeeds (c :: text)
        rw [Text.returnFeeds_cons_of_ne newline] at here ⊢
        rw [readFirst?, here, readFirst?]
        cases readHere? (c :: text) with
        | some reading =>
            rfl
        | none =>
            exact inductionHypothesis

/-- A converted line declares the kernel that it declared before. -/
theorem kernelName?_crlf (line : String) :
    kernelName? (Text.crlf line) = kernelName? line := by
  simp only [kernelName?, Text.crlf, String.toList_ofList,
    readFirst?_returnFeeds, Option.map_map]
  rfl

end Declaration

/-- A block with all its line ends converted. -/
def KernelBlock.crlf (block : KernelBlock) : KernelBlock where
  name := block.name
  body := Text.crlf block.body

namespace Document

/-- A document with all its line ends converted. -/
def crlf (document : Document) : Document where
  preamble := Text.crlf document.preamble
  kernels := document.kernels.map KernelBlock.crlf

/-- A converted document is made of its converted parts. -/
theorem crlf_append (first second : Document) :
    (first ++ second).crlf = first.crlf ++ second.crlf := by
  rcases first with ⟨preamble, kernels⟩
  rcases List.eq_nil_or_concat' kernels with rfl | ⟨earlier, last, rfl⟩
  · simp [crlf, append_of_nil, Text.crlf_append]
  · simp [crlf, append_of_concat, KernelBlock.crlf, Text.crlf_append]

/-- A converted line makes a converted document. -/
theorem ofLine_crlf (line : String) :
    ofLine (Text.crlf line) = (ofLine line).crlf := by
  rw [ofLine, Declaration.kernelName?_crlf, ofLine]
  cases Declaration.kernelName? line <;> rfl

/-- Converted lines make a converted document. -/
theorem ofLines_crlf (lines : List String) :
    ofLines (lines.map Text.crlf) = (ofLines lines).crlf := by
  induction lines with
  | nil =>
      rfl
  | cons line lines inductionHypothesis =>
      rw [List.map_cons, ofLines_cons, inductionHypothesis, ofLine_crlf,
        ofLines_cons, crlf_append]

/-- Converting a document leaves the names alone. -/
theorem names_crlf (document : Document) :
    document.crlf.names = document.names := by
  simp [names, crlf, KernelBlock.crlf, Function.comp_def]

/-- What is noted of a document depends on its names alone. -/
theorem splitEvents_crlf (document : Document) :
    document.crlf.splitEvents = document.splitEvents := by
  have sameEmpty : document.crlf.isEmpty = document.isEmpty := by
    simp [isEmpty, crlf]
  rw [splitEvents, names_crlf, sameEmpty, splitEvents]

/-- The artifacts of a converted document are the converted artifacts. -/
theorem artifacts_crlf (document : Document) :
    document.crlf.artifacts =
      document.artifacts.map fun (name, text) => (name, Text.crlf text) := by
  simp [artifacts, crlf, KernelBlock.crlf, KernelBlock.artifact,
    Text.crlf_append, Function.comp_def]

/--
A converted text is divided into the converted preamble and the converted blocks,
under the same names and in the same order. The same is noted on the way, and the
stand-alone texts are those of the text, converted.
-/
theorem split_crlf (source : String) :
    split (Text.crlf source) =
        ⟨Text.crlf (split source).preamble,
          (split source).kernels.map fun block =>
            ⟨block.name, Text.crlf block.body⟩⟩ ∧
      (Division.ofText (Text.crlf source)).log =
        (Division.ofText source).log ∧
      (split (Text.crlf source)).artifacts =
        (split source).artifacts.map fun (name, text) =>
          (name, Text.crlf text) := by
  have converted : split (Text.crlf source) = (split source).crlf := by
    rw [split_eq_ofLines, Text.pieces_crlf, ofLines_crlf, split_eq_ofLines]
  refine ⟨converted, ?_, ?_⟩
  · rw [Division.log_ofText, converted, splitEvents_crlf, Division.log_ofText]
  · rw [converted, artifacts_crlf]

example :
    split (Text.crlf "//\n\n__kernel void a\n\r\n") =
      ⟨"//\r\n\r\n", [⟨"a", "__kernel void a\r\n\r\r\n"⟩]⟩ := by
  decide +kernel

end Document
end IsaUsage
