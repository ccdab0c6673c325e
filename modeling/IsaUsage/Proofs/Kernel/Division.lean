import IsaUsage.Kernel.Division
import IsaUsage.Proofs.Kernel.Declaration
import Mathlib.Data.List.Induction

namespace IsaUsage

/-!
# The division of a text

`Document.IsDivisionOf` says what a division of a text at its declarations is,
without saying how to find one. `Document.Gathers` says the same of lines that
are already cut. One step of a division keeps it for one more line
(`Division.gathers_step`), and lines that are gathered in some document are
divided into that document (`Division.closed_run_of_gathers`). So every text has
exactly one division, the one that `Document.split` finds. What a division notes
on its way depends on the names it finds alone (`Division.log_ofText`).
-/

/-- Lines that open with the declaration of a block and declare nothing more. -/
def KernelBlock.OpensLines (block : KernelBlock) (lines : List String) : Prop :=
  ∃ declaration rest,
    lines = declaration :: rest ∧
      Declaration.kernelName? declaration = some block.name ∧
      ∀ line ∈ rest, Declaration.kernelName? line = none

/-- Lines that are all of a block. -/
structure KernelBlock.MadeOf (block : KernelBlock) (lines : List String) :
    Prop where
  body_eq : block.body = String.join lines
  opens : block.OpensLines lines

namespace Document

/-- A division of a text at the lines that declare kernels. -/
structure IsDivisionOf (document : Document) (source : String) : Prop where
  /-- The preamble and the bodies are the whole text. -/
  text_eq : document.text = source
  /-- No line of the preamble declares a kernel. -/
  preamble_lines :
    ∀ line ∈ Text.pieces document.preamble,
      Declaration.kernelName? line = none
  /-- No declaration stands in the preamble, not even across its lines. -/
  preamble_free : ¬ Declaration.OccursIn document.preamble.toList
  /-- The first line of a body, and no other, declares the block's name. -/
  blocks :
    ∀ block ∈ document.kernels, block.OpensLines (Text.pieces block.body)
  /-- The preamble is cut off where a line ends. -/
  preamble_cut :
    document.kernels ≠ [] → Text.AtLineStart document.preamble.toList
  /-- Every body but the last is cut off where a line ends. -/
  body_cut :
    ∀ block ∈ document.kernels.dropLast, Text.EndsLine block.body.toList

/-- The preamble and the blocks of a document are made of lines, in order. -/
def Gathers (document : Document) (lines : List String) : Prop :=
  ∃ leading, ∃ groups : List (KernelBlock × List String),
    lines = leading ++ groups.flatMap Prod.snd ∧
      document.preamble = String.join leading ∧
      (∀ line ∈ leading, Declaration.kernelName? line = none) ∧
      document.kernels = groups.map Prod.fst ∧
      ∀ group ∈ groups, group.1.MadeOf group.2

end Document

namespace Division

/-- A division under way is made of the lines taken so far. -/
structure Gathers (division : Division) (lines : List String) : Prop where
  document : division.closed.Gathers lines
  /-- As long as no block is open, there is none. -/
  noBlock : division.openBlock = none → division.finished.kernels = []

/-- At the start nothing is gathered. -/
theorem gathers_start : start.Gathers [] where
  document := ⟨[], [], rfl, rfl, by simp, rfl, by simp⟩
  noBlock := fun _ => rfl

/-- A declaration starts a group of lines of its own. -/
theorem gathers_declare
    {division : Division}
    {lines : List String}
    {name line : String}
    (gathered : division.Gathers lines)
    (declares : Declaration.kernelName? line = some name) :
    (division.declare name line).Gathers (lines ++ [line]) := by
  obtain ⟨leading, groups, rfl, preamble, none, kernels, made⟩ :=
    gathered.document
  refine ⟨⟨leading, groups ++ [(⟨name, line⟩, [line])], ?_, preamble, none,
    ?_, ?_⟩, fun closed => nomatch closed⟩
  · simp
  · simp [closed, declare, ← kernels]
  · intro group member
    rcases List.mem_append.mp member with earlier | last
    · exact made group earlier
    · rw [List.mem_singleton.mp last]
      exact ⟨by simp, line, [], rfl, declares, by simp⟩

/-- Any other line joins the last group, or the leading lines. -/
theorem gathers_extend
    {division : Division}
    {lines : List String}
    {line : String}
    (gathered : division.Gathers lines)
    (declaresNone : Declaration.kernelName? line = none) :
    (division.extend line).Gathers (lines ++ [line]) := by
  obtain ⟨leading, groups, rfl, preamble, none, kernels, made⟩ :=
    gathered.document
  cases isOpen : division.openBlock with
  | none =>
      have noGroups : groups = [] := by
        simpa [closed, isOpen, gathered.noBlock isOpen] using kernels
      subst noGroups
      refine ⟨⟨leading ++ [line], [], by simp, ?_, ?_, ?_, by simp⟩, ?_⟩
      · simp only [closed, isOpen] at preamble
        simp [closed, extend, isOpen, preamble]
      · intro other member
        rcases List.mem_append.mp member with earlier | last
        · exact none other earlier
        · rw [List.mem_singleton.mp last]
          exact declaresNone
      · simpa [closed, extend, isOpen] using kernels
      · simpa [extend, isOpen] using gathered.noBlock
  | some block =>
      obtain ⟨finished, lastGroup, rfl, finishedKernels, lastKernel⟩ :
          ∃ finished lastGroup,
            groups = finished ++ [lastGroup] ∧
              finished.map Prod.fst = division.finished.kernels ∧
              lastGroup.1 = block := by
        simp only [closed, isOpen] at kernels
        obtain ⟨finished, last, rfl, finishedKernels, lastKernel⟩ :=
          List.map_eq_append_iff.mp kernels.symm
        obtain ⟨lastGroup, rfl, rfl⟩ := List.map_eq_singleton_iff.mp lastKernel
        exact ⟨finished, lastGroup, rfl, finishedKernels, rfl⟩
      subst lastKernel
      have lastMade := made lastGroup (by simp)
      obtain ⟨declaration, rest, linesShape, declares, silent⟩ :=
        lastMade.opens
      let grown : KernelBlock × List String :=
        ({ lastGroup.1 with body := lastGroup.1.body ++ line },
          lastGroup.2 ++ [line])
      refine ⟨⟨leading, finished ++ [grown], ?_, ?_, none, ?_, ?_⟩, ?_⟩
      · simp [grown]
      · simpa [closed, extend, isOpen] using preamble
      · simp [closed, extend, isOpen, grown, finishedKernels]
      · intro group member
        rcases List.mem_append.mp member with earlier | last
        · exact made group (by simp [earlier])
        · rw [List.mem_singleton.mp last]
          refine ⟨by simp [grown, lastMade.body_eq], declaration,
            rest ++ [line], by simp [grown, linesShape], declares, ?_⟩
          intro other member
          rcases List.mem_append.mp member with inRest | isLine
          · exact silent other inRest
          · rw [List.mem_singleton.mp isLine]
            exact declaresNone
      · simp [extend, isOpen]

/-- One step gathers one line more. -/
theorem gathers_step
    {division : Division}
    {lines : List String}
    (gathered : division.Gathers lines)
    (line : String) :
    (division.step line).Gathers (lines ++ [line]) := by
  unfold step
  cases declares : Declaration.kernelName? line with
  | some name =>
      exact gathers_declare gathered declares
  | none =>
      exact gathers_extend gathered declares

/-- A run over further lines gathers these too. -/
theorem gathers_run
    {division : Division}
    {earlier : List String}
    (gathered : division.Gathers earlier)
    (lines : List String) :
    (division.run lines).Gathers (earlier ++ lines) := by
  induction lines generalizing division earlier with
  | nil =>
      simpa [run] using gathered
  | cons line lines inductionHypothesis =>
      have further := inductionHypothesis (gathers_step gathered line)
      simpa [run] using further

/-- Lines before the first declaration go to the preamble. -/
theorem run_leading
    {division : Division}
    {lines : List String}
    (noneOpen : division.openBlock = none)
    (silent : ∀ line ∈ lines, Declaration.kernelName? line = none) :
    (division.run lines).openBlock = none ∧
      (division.run lines).finished =
        { division.finished with
          preamble := division.finished.preamble ++ String.join lines } := by
  induction lines generalizing division with
  | nil =>
      simp [run, noneOpen]
  | cons line lines inductionHypothesis =>
      have silentLine := silent line (by simp)
      have stepped : division.step line = division.extend line := by
        rw [step, silentLine]
      have stillNone : (division.extend line).openBlock = none := by
        simp [extend, noneOpen]
      have further := inductionHypothesis stillNone
        fun other member => silent other (by simp [member])
      rw [run, List.foldl_cons, stepped]
      refine ⟨further.1, further.2.trans ?_⟩
      simp [extend, noneOpen, String.append_assoc]

/-- Lines without a declaration go to the open block. -/
theorem closed_run_rest
    {division : Division}
    {block : KernelBlock}
    {lines : List String}
    (isOpen : division.openBlock = some block)
    (silent : ∀ line ∈ lines, Declaration.kernelName? line = none) :
    (division.run lines).closed =
      { division.finished with
        kernels := division.finished.kernels ++
          [{ block with body := block.body ++ String.join lines }] } := by
  induction lines generalizing division block with
  | nil =>
      simp [run, closed, isOpen]
  | cons line lines inductionHypothesis =>
      have silentLine := silent line (by simp)
      have stepped : division.step line = division.extend line := by
        rw [step, silentLine]
      have grown : (division.extend line).openBlock =
          some { block with body := block.body ++ line } := by
        simp [extend, isOpen]
      have further := inductionHypothesis grown
        fun other member => silent other (by simp [member])
      rw [run, List.foldl_cons, stepped]
      refine further.trans ?_
      simp [extend, isOpen, String.append_assoc]

/-- The lines of a block become this block. -/
theorem closed_run_block
    (division : Division)
    {block : KernelBlock}
    {lines : List String}
    (made : block.MadeOf lines) :
    (division.run lines).closed =
      { division.closed with
        kernels := division.closed.kernels ++ [block] } := by
  obtain ⟨declaration, rest, rfl, declares, silent⟩ := made.opens
  have stepped : division.step declaration =
      division.declare block.name declaration := by
    rw [step, declares]
  have isOpen : (division.declare block.name declaration).openBlock =
      some ⟨block.name, declaration⟩ :=
    rfl
  have whole := closed_run_rest isOpen silent
  rw [run, List.foldl_cons, stepped]
  refine whole.trans ?_
  have body := made.body_eq
  rw [String.join_cons] at body
  simp [declare, ← body]

/-- The lines of several blocks become these blocks. -/
theorem closed_run_blocks
    (division : Division)
    {groups : List (KernelBlock × List String)}
    (made : ∀ group ∈ groups, group.1.MadeOf group.2) :
    (division.run (groups.flatMap Prod.snd)).closed =
      { division.closed with
        kernels := division.closed.kernels ++ groups.map Prod.fst } := by
  induction groups generalizing division with
  | nil =>
      simp [run]
  | cons group groups inductionHypothesis =>
      have first := closed_run_block division (made group (by simp))
      have further := inductionHypothesis (division.run group.2)
        fun other member => made other (by simp [member])
      rw [List.flatMap_cons, run, List.foldl_append]
      refine further.trans ?_
      simp [first]

/-- Lines are divided into any document in which they are gathered. -/
theorem closed_run_of_gathers
    {document : Document}
    {lines : List String}
    (gathered : document.Gathers lines) :
    (start.run lines).closed = document := by
  rcases gathered with ⟨leading, groups, rfl, preamble, silent, kernels, made⟩
  obtain ⟨noneOpen, finished⟩ :=
    @run_leading start leading rfl silent
  rw [run, List.foldl_append]
  refine (closed_run_blocks (start.run leading) made).trans ?_
  cases document
  simp_all [closed, start]

/-- One more name adds its events after those of the names before it. -/
theorem divisionEvents_concat (earlier names : List String) (name : String) :
    divisionEvents earlier (names ++ [name]) =
      divisionEvents earlier names ++ .declarationFound name ::
        if name ∈ earlier ++ names then [.nameRepeated name] else [] := by
  induction names generalizing earlier with
  | nil =>
      simp [divisionEvents]
  | cons first names inductionHypothesis =>
      simp [divisionEvents, inductionHypothesis]

/-- After every line the log is that of the names so far. -/
theorem events_step
    {division : Division}
    (noted : division.events = divisionEvents [] division.closed.names)
    (line : String) :
    (division.step line).events =
      divisionEvents [] (division.step line).closed.names := by
  unfold step
  cases Declaration.kernelName? line with
  | some name =>
      have names : (division.declare name line).closed.names =
          division.closed.names ++ [name] := by
        simp [declare, closed, Document.names]
      rw [names, divisionEvents_concat, ← noted]
      rfl
  | none =>
      have names :
          (division.extend line).closed.names = division.closed.names := by
        cases isOpen : division.openBlock <;>
          simp [extend, closed, Document.names, isOpen]
      have events : (division.extend line).events = division.events := by
        cases isOpen : division.openBlock <;> simp [extend, isOpen]
      rw [names, events, noted]

/-- A division notes what the names of its document call for. -/
theorem log_ofText (source : String) :
    (ofText source).log = (Document.split source).splitEvents := by
  have noted (lines : List String) :
      (start.run lines).events =
        divisionEvents [] (start.run lines).closed.names := by
    induction lines using List.reverseRecOn with
    | nil =>
        rfl
    | append_singleton lines line inductionHypothesis =>
        have stepped := events_step inductionHypothesis line
        rw [run, List.foldl_append]
        exact stepped
  rw [log, ofText, noted]
  rfl

end Division

namespace KernelBlock

/-- The lines of a block are not empty. -/
theorem MadeOf.join_ne_nil
    {block : KernelBlock}
    {lines : List String}
    (made : block.MadeOf lines) :
    (String.join lines).toList ≠ [] := by
  obtain ⟨declaration, rest, rfl, declares, -⟩ := made.opens
  intro empty
  rw [String.join_cons, String.toList_append,
    List.append_eq_nil_iff] at empty
  simp [Declaration.kernelName?, empty.1, Declaration.readFirst?] at declares

end KernelBlock

namespace Document

/-- Bodies that end with their lines are cut one by one. -/
theorem pieces_join_bodies
    {kernels : List KernelBlock}
    (cut : ∀ block ∈ kernels.dropLast, Text.EndsLine block.body.toList) :
    Text.pieces (String.join (kernels.map KernelBlock.body)) =
      kernels.flatMap fun block => Text.pieces block.body := by
  induction kernels with
  | nil =>
      rfl
  | cons block kernels inductionHypothesis =>
      cases kernels with
      | nil =>
          simp
      | cons next kernels =>
          have bodyEnds : Text.EndsLine block.body.toList :=
            cut block (by simp)
          have others := inductionHypothesis
            fun other member => cut other (by simp [member])
          rw [List.map_cons, String.join_cons,
            Text.pieces_append (Or.inr bodyEnds), others]
          rfl

/-- A division of a text gathers its pieces. -/
theorem IsDivisionOf.gathers
    {document : Document}
    {source : String}
    (division : document.IsDivisionOf source) :
    document.Gathers (Text.pieces source) := by
  refine ⟨Text.pieces document.preamble,
    document.kernels.map fun block => (block, Text.pieces block.body),
    ?_, (Text.join_pieces _).symm, division.preamble_lines, ?_, ?_⟩
  · rw [← division.text_eq, text, List.flatMap_map]
    cases kernels : document.kernels with
    | nil =>
        simp
    | cons block others =>
        have atStart := division.preamble_cut (by simp [kernels])
        rw [Text.pieces_append atStart, ← kernels,
          pieces_join_bodies division.body_cut]
  · simp [Function.comp_def]
  · intro group member
    obtain ⟨block, inKernels, rfl⟩ := List.mem_map.mp member
    exact ⟨(Text.join_pieces _).symm, division.blocks block inKernels⟩

/-- A text is divided as any division of it says. -/
theorem IsDivisionOf.split_eq
    {document : Document}
    {source : String}
    (division : document.IsDivisionOf source) :
    split source = document :=
  Division.closed_run_of_gathers division.gathers

/-- Groups of lines are lines each, and all but the last are finished. -/
theorem areLines_groups
    {groups : List (KernelBlock × List String)}
    (made : ∀ group ∈ groups, group.1.MadeOf group.2)
    (lines : Text.AreLines (groups.flatMap Prod.snd)) :
    (∀ group ∈ groups, Text.AreLines group.2) ∧
      ∀ group ∈ groups.dropLast,
        Text.EndsLine (String.join group.2).toList := by
  induction groups with
  | nil =>
      simp
  | cons group groups inductionHypothesis =>
      rw [List.flatMap_cons] at lines
      obtain ⟨groupLines, othersLines, finished⟩ := lines.of_append
      obtain ⟨eachLines, eachEnds⟩ := inductionHypothesis
        (fun other member => made other (by simp [member])) othersLines
      refine ⟨by simpa using ⟨groupLines, by simpa using eachLines⟩, ?_⟩
      cases groups with
      | nil =>
          simp
      | cons next groups =>
          have more : (next :: groups).flatMap Prod.snd ≠ [] := by
            obtain ⟨declaration, rest, nextShape, -⟩ :=
              (made next (by simp)).opens
            simp [nextShape]
          have groupEnds : Text.EndsLine (String.join group.2).toList :=
            (finished more).resolve_left (made group (by simp)).join_ne_nil
          intro other member
          rw [List.dropLast_cons_cons, List.mem_cons] at member
          rcases member with rfl | later
          · exact groupEnds
          · exact eachEnds other later

/-- The bodies of blocks are their lines. -/
theorem join_bodies
    {groups : List (KernelBlock × List String)}
    (made : ∀ group ∈ groups, group.1.MadeOf group.2) :
    String.join ((groups.map Prod.fst).map KernelBlock.body) =
      String.join (groups.flatMap Prod.snd) := by
  induction groups with
  | nil =>
      rfl
  | cons group groups inductionHypothesis =>
      have others := inductionHypothesis
        fun other member => made other (by simp [member])
      rw [List.map_cons, List.map_cons, String.join_cons, others,
        (made group (by simp)).body_eq, List.flatMap_cons, String.join_append]

/-- A document that gathers the pieces of a text is a division of it. -/
theorem Gathers.isDivisionOf
    {document : Document}
    {source : String}
    (gathered : document.Gathers (Text.pieces source)) :
    document.IsDivisionOf source := by
  rcases gathered with ⟨leading, groups, pieces, preamble, silent, kernels, made⟩
  have lines : Text.AreLines (leading ++ groups.flatMap Prod.snd) := by
    rw [← pieces]
    exact Text.areLines_pieces source
  obtain ⟨leadingLines, groupLines, finished⟩ := lines.of_append
  obtain ⟨eachLines, eachEnds⟩ := areLines_groups made groupLines
  have preamblePieces : Text.pieces document.preamble = leading := by
    rw [preamble]
    exact leadingLines
  refine ⟨?_, ?_, ?_, ?_, ?_, ?_⟩
  · have whole := congrArg String.join pieces
    rw [Text.join_pieces, String.join_append] at whole
    rw [text, kernels, preamble, join_bodies made, whole]
  · rw [preamblePieces]
    exact silent
  · apply Declaration.not_occursIn_of_pieces
    rw [preamblePieces]
    exact silent
  · intro block member
    rw [kernels] at member
    obtain ⟨group, inGroups, rfl⟩ := List.mem_map.mp member
    have groupMade := made group inGroups
    have bodyPieces : Text.pieces group.1.body = group.2 := by
      rw [groupMade.body_eq]
      exact eachLines group inGroups
    rw [bodyPieces]
    exact groupMade.opens
  · intro some
    rw [preamble]
    apply finished
    obtain ⟨group, others, groupsShape⟩ :
        ∃ group others, groups = group :: others := by
      apply List.exists_cons_of_ne_nil
      rintro rfl
      exact some kernels
    obtain ⟨declaration, rest, groupShape, -⟩ :=
      (made group (by simp [groupsShape])).opens
    simp [groupsShape, groupShape]
  · intro block member
    rw [kernels, ← List.map_dropLast] at member
    obtain ⟨group, inGroups, rfl⟩ := List.mem_map.mp member
    rw [(made group (List.dropLast_subset groups inGroups)).body_eq]
    exact eachEnds group inGroups

/-- Splitting a source gathers its pieces. -/
theorem gathers_split (source : String) :
    (split source).Gathers (Text.pieces source) :=
  (Division.gathers_run Division.gathers_start (Text.pieces source)).document

/-- Dividing a text loses nothing of it. -/
theorem text_split (source : String) : (split source).text = source :=
  (gathers_split source).isDivisionOf.text_eq

/-- The blocks of a division are called by names. -/
theorem isName_of_mem_split
    {source : String}
    {block : KernelBlock}
    (member : block ∈ (split source).kernels) :
    Declaration.IsName block.name.toList := by
  obtain ⟨leading, groups, -, -, -, kernels, made⟩ := gathers_split source
  have inGroups : block ∈ groups.map Prod.fst := by
    rw [← kernels]
    exact member
  obtain ⟨group, groupMember, rfl⟩ := List.mem_map.mp inGroups
  obtain ⟨declaration, rest, -, declares, -⟩ := (made group groupMember).opens
  exact Declaration.isName_of_kernelName?_eq_some declares

/-- The name of every kernel of a source is a name. -/
theorem isName_of_mem_names
    {source name : String}
    (member : name ∈ (split source).names) :
    Declaration.IsName name.toList := by
  obtain ⟨block, isBlock, rfl⟩ := List.mem_map.mp member
  exact isName_of_mem_split isBlock

/-- Every text has exactly one division at its declarations. -/
theorem isDivisionOf_iff_eq_split {document : Document} {source : String} :
    document.IsDivisionOf source ↔ document = split source := by
  constructor
  · intro division
    exact (Division.closed_run_of_gathers division.gathers).symm
  · rintro rfl
    have gathered := Division.gathers_run Division.gathers_start
      (Text.pieces source)
    rw [List.nil_append] at gathered
    exact gathered.document.isDivisionOf

end Document
end IsaUsage
