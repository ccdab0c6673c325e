import IsaUsage.Proofs.Kernel.Division
import Mathlib.Data.Finset.Card

namespace IsaUsage

/-!
# Names that stand in a text before

A division warns of a name when a block before has it, finished or still open. So
what it notes of a name depends on the names before it alone
(`Division.log_eq`), and it warns as often as names are left over when every name is
counted once (`Division.countP_isRepetition_log`, `repeatCount_add_card`).
-/

/-- The items of a list, each with those that stand before it. -/
def withEarlier (items : List α) : List (List α × α) :=
  items.mapIdx fun place item => (items.take place, item)

/-- How many items of a list stand before already. -/
def repeatCount [DecidableEq α] (items : List α) : Nat :=
  (withEarlier items).countP fun (earlier, item) => item ∈ earlier

section Lists

@[simp] theorem withEarlier_nil : withEarlier ([] : List α) = [] :=
  rfl

@[simp] theorem withEarlier_cons (first : α) (items : List α) :
    withEarlier (first :: items) =
      ([], first) ::
        (withEarlier items).map fun (earlier, item) =>
          (first :: earlier, item) := by
  rw [withEarlier, List.mapIdx_cons]
  congr 1
  apply List.ext_getElem <;> simp [withEarlier]

/-- With its earlier ones or without, the items are the same. -/
theorem map_snd_withEarlier (items : List α) :
    (withEarlier items).map Prod.snd = items := by
  induction items with
  | nil =>
      rfl
  | cons item items inductionHypothesis =>
      simpa [Function.comp_def] using inductionHypothesis

/-- The earlier ones of changed items are changed too. -/
theorem withEarlier_map (f : α → β) (items : List α) :
    withEarlier (items.map f) =
      (withEarlier items).map fun (earlier, item) =>
        (earlier.map f, f item) := by
  apply List.ext_getElem <;> simp [withEarlier]

variable [DecidableEq α] [DecidableEq β]

/-- What tells items apart repeats as often as they do. -/
theorem repeatCount_map
    {f : α → β}
    (injective : Function.Injective f)
    (items : List α) :
    repeatCount (items.map f) = repeatCount items := by
  simp [repeatCount, withEarlier_map, List.countP_map, Function.comp_def,
    List.mem_map_of_injective injective]

/-- The items that stand before and the different ones are all the items. -/
theorem repeatCount_add_card (items : List α) :
    repeatCount items + items.toFinset.card = items.length := by
  have counted (earlier : List α) :
      ((withEarlier items).countP fun (between, item) =>
          item ∈ earlier ++ between) + (earlier ++ items).toFinset.card =
        items.length + earlier.toFinset.card := by
    induction items generalizing earlier with
    | nil =>
        simp
    | cons item items inductionHypothesis =>
        have further := inductionHypothesis (earlier ++ [item])
        by_cases again : item ∈ earlier <;>
          simp [again, List.countP_map, Function.comp_def] at further ⊢ <;>
          omega
  simpa [repeatCount] using counted []

end Lists

/-! ## What is noted -/

/-- Whether an event warns that a file is going to be written over. -/
def LogEvent.isRepetition : LogEvent → Bool
  | .nameRepeated _ => true
  | _ => false

/-- Every name is noted with a warning if one of the names before is the same. -/
theorem divisionEvents_eq (earlier names : List String) :
    divisionEvents earlier names =
      (withEarlier names).flatMap fun (between, name) =>
        .declarationFound name ::
          if name ∈ earlier ++ between then [.nameRepeated name] else [] := by
  induction names generalizing earlier with
  | nil =>
      rfl
  | cons name names inductionHypothesis =>
      simp [divisionEvents, inductionHypothesis, List.flatMap_map]

namespace Division

/-- A division notes every name, and once more if it stood before. -/
theorem log_eq (source : String) :
    (ofText source).log =
      ((withEarlier (Document.split source).names).flatMap
        fun (earlier, name) =>
          .declarationFound name ::
            if name ∈ earlier then [.nameRepeated name] else []) ++
        if (Document.split source).names = [] then [.noDeclarations]
        else [] := by
  simp [log_ofText, Document.splitEvents, divisionEvents_eq, Document.isEmpty,
    Document.names]

/-- A repetition is logged for every name that was there before. -/
theorem countP_isRepetition_log (source : String) :
    (ofText source).log.countP LogEvent.isRepetition =
      repeatCount (Document.split source).names := by
  have counted (names : List (List String × String)) :
      (names.flatMap fun (earlier, name) =>
          LogEvent.declarationFound name ::
            if name ∈ earlier then [.nameRepeated name] else []).countP
        LogEvent.isRepetition =
      names.countP fun (earlier, name) => name ∈ earlier := by
    induction names with
    | nil =>
        rfl
    | cons first names inductionHypothesis =>
        obtain ⟨earlier, name⟩ := first
        rw [List.flatMap_cons, List.countP_append, inductionHypothesis,
          List.countP_cons, Nat.add_comm]
        by_cases again : name ∈ earlier <;>
          simp [again, LogEvent.isRepetition]
  have none : (if (Document.split source).names = [] then
      [LogEvent.noDeclarations] else []).countP LogEvent.isRepetition = 0 := by
    split <;> rfl
  rw [log_eq, List.countP_append, counted, none]
  rfl

end Division
end IsaUsage
