import IsaUsage.Json.Reader
import IsaUsage.Proofs.Json.Token

namespace IsaUsage.Json

/-!
# Values are read off their tokens

A reader that takes the tokens of a value for something takes them whatever
follows (`Reads`). Lists are read item by item. A record is read field by field
from an object that holds its fields in order, each one changing the record in the
making (`RecordFormat.reads_read`).
-/

/-- A reader takes a value from the front of some tokens and leaves the rest. -/
def Takes
    (reader : Reader α)
    (input : List Token)
    (value : α)
    (rest : List Token) :
    Prop :=
  ∃ shorter, reader input = .ok ⟨value, rest, shorter⟩

/-- A reader takes certain tokens for a value, whatever follows them. -/
def Reads (reader : Reader α) (cut : List Token) (value : α) : Prop :=
  ∀ rest, Takes reader (cut ++ rest) value rest

section Single

/-- A written text is read as this text. -/
theorem reads_readText (wanted : Wanted) (text : String) :
    Reads (readText wanted) (Value.string text).tokens text :=
  fun _ => ⟨_, rfl⟩

/-- The numeral of a count is a natural number, without any loss. -/
theorem value?_of_count (count : Count) :
    NumberLiteral.value? ⟨false, Decimal.write count.toNat, none, none⟩ =
      some (.natural count.toNat) := by
  have small : count.toNat < NumberLiteral.significandBound :=
    Nat.lt_of_le_of_lt count.le_limit (by decide)
  simp [NumberLiteral.value?, Decimal.read_write, small]

/-- A written count is read as this count. -/
theorem reads_readCount (count : Count) :
    Reads readCount (Value.number count).tokens count := by
  intro rest
  refine ⟨Nat.lt_succ_self _, ?_⟩
  simp [Value.tokens, readCount, value?_of_count, Count.ofNat?, count.le_limit]

/-- A value that is used further is read as before. -/
theorem Reads.map
    {reader : Reader α}
    {cut : List Token}
    {value : α}
    (reads : Reads reader cut value)
    (use : α → β) :
    Reads (reader.map use) cut (use value) := by
  intro rest
  obtain ⟨shorter, taken⟩ := reads rest
  refine ⟨shorter, ?_⟩
  rw [Reader.map, taken]
  rfl

end Single

section Lists

variable {item : Reader α} {input after rest : List Token} {first : α}
  {others : List α}

/-- A value does not begin like the end of a list or record. -/
theorem Value.tokens_eq_cons (value : Value) :
    ∃ token others,
      value.tokens = token :: others ∧ token ≠ .closeList := by
  cases value <;> simp [Value.tokens]

theorem itemTokens_cons_cons (first next : Value) (items : List Value) :
    itemTokens (first :: next :: items) =
      first.tokens ++ .comma :: itemTokens (next :: items) :=
  rfl

/-- The tokens of a list of items begin with no closing bracket. -/
theorem itemTokens_eq_cons (item : Value) (items : List Value) :
    ∃ token others,
      itemTokens (item :: items) = token :: others ∧ token ≠ .closeList := by
  obtain ⟨token, others, shape, notClose⟩ := item.tokens_eq_cons
  cases items with
  | nil =>
      exact ⟨token, others, shape, notClose⟩
  | cons next items =>
      exact ⟨token, _, by rw [itemTokens_cons_cons, shape]; rfl, notClose⟩

/-- Before a closing bracket the items end. -/
theorem readItems_of_last
    (takes : Takes item input first (.closeList :: after)) :
    Takes (readItems item) input [first] after := by
  obtain ⟨_, taken⟩ := takes
  rw [Takes, readItems, taken]
  exact ⟨_, rfl⟩

/-- After a comma the items go on. -/
theorem readItems_of_more
    (takes : Takes item input first (.comma :: after))
    (goesOn : after.head? ≠ some .closeList)
    (further : Takes (readItems item) after others rest) :
    Takes (readItems item) input (first :: others) rest := by
  obtain ⟨shorter, taken⟩ := takes
  obtain ⟨othersShorter, othersTaken⟩ := further
  have nearer : rest.length < input.length :=
    Nat.lt_trans othersShorter (Nat.lt_of_succ_lt shorter)
  refine ⟨nearer, ?_⟩
  rw [readItems, taken]
  cases after with
  | nil =>
      simp [bind, Except.bind, othersTaken, pure, Except.pure]
  | cons token after =>
      have notClose : token ≠ .closeList := by simpa using goesOn
      simp [bind, Except.bind, othersTaken, notClose, pure, Except.pure]

/-- Items are read one by one, up to the bracket. -/
theorem reads_readItems
    {first : Value × α}
    {members : List (Value × α)}
    (reads : ∀ member ∈ first :: members,
      Reads item member.1.tokens member.2) :
    Reads (readItems item)
      (itemTokens ((first :: members).map Prod.fst) ++ [.closeList])
      ((first :: members).map Prod.snd) := by
  induction members generalizing first with
  | nil =>
      intro rest
      have takes := reads first (by simp) (.closeList :: rest)
      simpa [itemTokens] using readItems_of_last takes
  | cons next members inductionHypothesis =>
      intro rest
      have further := inductionHypothesis
        (fun member isMember => reads member (List.mem_cons_of_mem _ isMember))
        rest
      obtain ⟨token, others, shape, notClose⟩ :=
        itemTokens_eq_cons next.1 (members.map Prod.fst)
      have goesOn : (itemTokens ((next :: members).map Prod.fst) ++
          [Token.closeList] ++ rest).head? ≠ some .closeList := by
        simpa [shape] using notClose
      have takes := reads first List.mem_cons_self
        (.comma :: (itemTokens ((next :: members).map Prod.fst) ++
          [.closeList] ++ rest))
      simpa [itemTokens_cons_cons] using
        readItems_of_more takes goesOn further

/-- A list is read item by item. -/
theorem reads_readList
    {members : List (Value × α)}
    (reads : ∀ member ∈ members, Reads item member.1.tokens member.2) :
    Reads (readList item) (Value.list (members.map Prod.fst)).tokens
      (members.map Prod.snd) := by
  intro rest
  cases members with
  | nil =>
      exact ⟨_, rfl⟩
  | cons first members =>
      have takes := reads_readItems reads rest
      obtain ⟨token, others, shape, notClose⟩ :=
        itemTokens_eq_cons first.1 (members.map Prod.fst)
      rw [Value.tokens]
      rw [List.map_cons, shape] at takes ⊢
      obtain ⟨shorter, taken⟩ := takes
      refine ⟨Nat.lt_succ_of_lt shorter, ?_⟩
      simp only [List.cons_append] at taken ⊢
      simp [readList, notClose, taken, bind, Except.bind, pure, Except.pure]

end Lists

/--
Values for the fields of a record, in order. Each one is read, under the name of its
field, as a change of the record in the making.
-/
inductive Fits : List (Field α) → List (String × Value) → List (α → α) → Prop where
  | nil : Fits [] [] []
  | cons {field : Field α} {value : Value} {change : α → α}
      {fields : List (Field α)} {entries : List (String × Value)}
      {changes : List (α → α)} :
      Reads field.set value.tokens change → Fits fields entries changes →
        Fits (field :: fields) ((field.name, value) :: entries)
          (change :: changes)

/-- What is read for a field is what it is set to. -/
theorem Fits.set
    {reader : Reader β}
    {value : Value}
    {content : β}
    (reads : Reads reader value.tokens content)
    {fields : List (Field α)}
    {entries : List (String × Value)}
    {changes : List (α → α)}
    (fits : Fits fields entries changes)
    {name : String}
    {use : β → α → α} :
    Fits (⟨name, reader.map use⟩ :: fields) ((name, value) :: entries)
      (use content :: changes) :=
  .cons (reads.map use) fits

/-- A record with changes made to it in order. -/
def changed (changes : List (α → α)) (record : α) : α :=
  changes.foldl (fun record change => change record) record

theorem fieldTokens_cons_cons
    (first next : String × Value)
    (fields : List (String × Value)) :
    fieldTokens (first :: next :: fields) =
      .string (some first.1) :: .colon :: first.2.tokens ++
        .comma :: fieldTokens (next :: fields) :=
  rfl

/-- The field of a name, where no two have the same name. -/
theorem find?_name
    {fields : List (Field α)}
    (nodup : (fields.map Field.name).Nodup)
    {field : Field α}
    (isField : field ∈ fields) :
    (fields.find? fun other => other.name == field.name) = some field := by
  induction fields with
  | nil =>
      contradiction
  | cons first fields inductionHypothesis =>
      rw [List.map_cons, List.nodup_cons] at nodup
      rcases List.mem_cons.mp isField with rfl | later
      · simp
      · have different : first.name ≠ field.name := by
          intro same
          exact nodup.1 (same ▸ List.mem_map_of_mem later)
        simpa [different] using inductionHypothesis nodup.2 later

namespace RecordFormat

variable {format : RecordFormat α} {draft next final : Draft α}
  {key : String} {input after rest : List Token}
  {entries : List (String × Value)} {changes : List (α → α)}

/-- The member of a field of the format changes the record as the field says. -/
theorem takes_readMember
    (nodup : (format.fields.map Field.name).Nodup)
    {field : Field α}
    (isField : field ∈ format.fields)
    {value : Value}
    {change : α → α}
    (reads : Reads field.set value.tokens change)
    (draft : Draft α)
    (rest : List Token) :
    Takes (format.readMember draft field.name)
      (.colon :: (value.tokens ++ rest))
      ⟨change draft.record, field.name :: draft.seen⟩ rest := by
  obtain ⟨shorter, taken⟩ := reads rest
  refine ⟨Nat.lt_succ_of_lt shorter, ?_⟩
  rw [readMember, find?_name nodup isField]
  simp [taken, bind, Except.bind, pure, Except.pure]

/-- Before a closing brace the members end. -/
theorem readMembers_of_last
    (fresh : key ∉ draft.seen)
    (takes : Takes (format.readMember draft key) input next
      (.closeObject :: after)) :
    Takes (format.readMembers draft) (.string (some key) :: input) next
      after := by
  obtain ⟨shorter, taken⟩ := takes
  refine ⟨Nat.lt_succ_of_lt (Nat.lt_of_succ_lt shorter), ?_⟩
  rw [readMembers]
  simp [fresh, taken, bind, Except.bind, pure, Except.pure]

/-- After a comma the members go on. -/
theorem readMembers_of_more
    (fresh : key ∉ draft.seen)
    (takes : Takes (format.readMember draft key) input next (.comma :: after))
    (further : Takes (format.readMembers next) after final rest) :
    Takes (format.readMembers draft) (.string (some key) :: input) final
      rest := by
  obtain ⟨shorter, taken⟩ := takes
  obtain ⟨furtherShorter, furtherTaken⟩ := further
  refine ⟨Nat.lt_succ_of_lt (Nat.lt_trans furtherShorter
    (Nat.lt_of_succ_lt shorter)), ?_⟩
  rw [readMembers]
  simp [fresh, taken, furtherTaken, bind, Except.bind, pure, Except.pure]

/-- Fields are read one by one, up to the brace. -/
theorem reads_readMembers
    (nodup : (format.fields.map Field.name).Nodup)
    {first : Field α}
    {fields : List (Field α)}
    (isField : ∀ field ∈ first :: fields, field ∈ format.fields)
    (fits : Fits (first :: fields) entries changes)
    (apart : ((first :: fields).map Field.name).Nodup)
    (fresh : ∀ field ∈ first :: fields, field.name ∉ draft.seen) :
    Reads (format.readMembers draft) (fieldTokens entries ++ [.closeObject])
      ⟨changed changes draft.record,
        ((first :: fields).map Field.name).reverse ++ draft.seen⟩ := by
  -- One field more is set with every step, under a name not seen before.
  induction fields generalizing first draft entries changes with
  | nil =>
      rcases fits with _ | ⟨reads, _ | _⟩
      intro rest
      have takes := takes_readMember nodup (isField first (by simp)) reads draft
        (.closeObject :: rest)
      simpa [fieldTokens, changed] using
        readMembers_of_last (fresh first (by simp)) takes
  | cons next fields inductionHypothesis =>
      rcases fits with _ | ⟨reads, others⟩
      rw [List.map_cons, List.nodup_cons] at apart
      have stillFresh : ∀ field ∈ next :: fields,
          field.name ∉ first.name :: draft.seen := by
        intro field isNext seen
        rcases List.mem_cons.mp seen with same | before
        · exact apart.1 (same ▸ List.mem_map_of_mem isNext)
        · exact fresh field (List.mem_cons_of_mem _ isNext) before
      intro rest
      have further (record : α) := @inductionHypothesis
        ⟨record, first.name :: draft.seen⟩ _ _ next
        (fun field isNext => isField field (List.mem_cons_of_mem _ isNext))
        others apart.2 stillFresh rest
      rcases others with _ | @⟨_, nextValue, _, _, entries⟩
      have takes := takes_readMember nodup (isField first List.mem_cons_self)
        reads draft (.comma :: (fieldTokens ((next.name, nextValue) :: entries) ++
          [.closeObject] ++ rest))
      simpa [fieldTokens_cons_cons, changed] using
        readMembers_of_more (fresh first List.mem_cons_self) takes (further _)

/-- A record with all fields seen is complete. -/
theorem finish_of_seen
    {seen : List String}
    (all : ∀ field ∈ format.fields, field.name ∈ seen)
    (record : α) :
    format.finish ⟨record, seen⟩ = .ok record := by
  have none : (format.fields.find? fun field =>
      !(seen.contains field.name)) = none := by
    simpa using all
  rw [finish, none]

/-- A record without fields is read from empty braces. -/
theorem read_of_nothing
    (seen : ∀ field ∈ format.fields, field.name ∈ ([] : List String)) :
    Takes format.read (.openObject :: .closeObject :: rest) format.blank
      rest := by
  refine ⟨Nat.lt_succ_of_lt (Nat.lt_succ_self _), ?_⟩
  rw [read, finish_of_seen seen]
  rfl

/-- A record is read from the members between the braces. -/
theorem read_of_members
    (goesOn : input.head? ≠ some .closeObject)
    (takes : Takes (format.readMembers ⟨format.blank, []⟩) input final rest)
    (seen : ∀ field ∈ format.fields, field.name ∈ final.seen) :
    Takes format.read (.openObject :: input) final.record rest := by
  obtain ⟨shorter, taken⟩ := takes
  refine ⟨Nat.lt_succ_of_lt shorter, ?_⟩
  cases input with
  | nil =>
      simp at shorter
  | cons token input =>
      have notClose : token ≠ .closeObject := by simpa using goesOn
      simp [read, notClose, taken, finish_of_seen seen final.record, bind,
        Except.bind, pure, Except.pure]

/-- A record is read off the values of all its fields in order. -/
theorem reads_read
    (format : RecordFormat α)
    (nodup : (format.fields.map Field.name).Nodup)
    (fits : Fits format.fields entries changes)
    {record : α}
    (made : changed changes format.blank = record) :
    Reads format.read (Value.record entries).tokens record := by
  subst made
  intro rest
  cases fields : format.fields with
  | nil =>
      rw [fields] at fits
      rcases fits with _ | _
      exact read_of_nothing (by simp [fields])
  | cons first others =>
      rw [fields] at fits
      have takes := @reads_readMembers _ format ⟨format.blank, []⟩ _ _ nodup
        first others (by simp [fields]) fits (fields ▸ nodup) (by simp) rest
      have goesOn : (fieldTokens entries ++ [Token.closeObject] ++
          rest).head? ≠ some .closeObject := by
        rcases fits with _ | ⟨_, _ | _⟩ <;> simp [fieldTokens]
      apply read_of_members goesOn takes
      intro field isField
      rw [fields] at isField
      rw [List.append_nil, List.mem_reverse]
      exact List.mem_map_of_mem isField

end RecordFormat

/-- A choice is read off its name. -/
theorem reads_readChoice
    {choose? : String → Option α}
    {name : String}
    {choice : α}
    (chosen : choose? name = some choice)
    (known : List String) :
    Reads (readChoice choose? known) (Value.string name).tokens choice := by
  intro rest
  refine ⟨Nat.lt_succ_self _, ?_⟩
  simp [Value.tokens, readChoice, chooseName, chosen, bind, Except.bind, pure,
    Except.pure]

/-- A text with certain tokens is read as what these are taken for. -/
theorem readAll_of_lexes
    {reader : Reader α}
    {text : List Char}
    {cut : List Token}
    {result : α}
    (lexes : Lexes text cut)
    (reads : Reads reader cut result) :
    readAll reader (String.ofList text) = .ok result := by
  have takes : Takes reader (tokens (String.ofList text).toList) result [] := by
    rw [String.toList_ofList, tokens_eq_of_lexes lexes]
    simpa using reads []
  obtain ⟨shorter, taken⟩ := takes
  rw [readAll, taken]
  rfl

/-- What was written is read back, from one line and from several. -/
theorem readAll_of_reads
    {reader : Reader α}
    {value : Value}
    {result : α}
    (reads : Reads reader value.tokens result) :
    readAll reader value.compactText = .ok result ∧
      readAll reader value.indentedText = .ok result :=
  ⟨readAll_of_lexes (lexes_compact value) reads,
    readAll_of_lexes (lexes_indented 0 value) reads⟩

end IsaUsage.Json
