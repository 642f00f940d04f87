import Campus.Markup.Element
import Mathlib.Data.List.SplitBy
/-!
# Words of class attributes

The words of a text are its runs of characters that are not blank. So a class attribute lists a word
exactly if the word stands in it between blanks or the ends.
-/

namespace Campus.Markup.Node

open Text (isBlank)

/-- A word of a text: characters that are not blank, between blanks or the ends of the text. -/
structure IsWord (word text : List Char) : Prop where
  notEmpty : word ≠ []
  notBlank : ∀ c ∈ word, isBlank c = false
  apart : ∃ before after, text = before ++ word ++ after ∧
    (∀ c ∈ before.getLast?, isBlank c = true) ∧ ∀ c ∈ after.head?, isBlank c = true

/-- Neighbours in a run are both blank or both not. -/
def alike (c d : Char) : Bool := isBlank c == isBlank d

/-- In a run all characters are like the first. -/
theorem isBlank_of_isChain {c d : Char} {rest : List Char}
    (run : (c :: rest).IsChain fun x y => alike x y = true) (member : d ∈ c :: rest) :
    isBlank d = isBlank c := by
  induction rest generalizing c with
  | nil => rw [List.mem_singleton.1 member]
  | cons next rest ih =>
    obtain ⟨same, later⟩ := List.isChain_cons_cons.1 run
    rcases List.mem_cons.1 member with rfl | member
    · rfl
    · rw [ih later member]
      exact (beq_iff_eq.1 same).symm

/-- Characters that are not blank are one run. -/
theorem isChain_of_notBlank {word : List Char} (notBlank : ∀ c ∈ word, isBlank c = false) :
    word.IsChain fun x y => alike x y = true := by
  induction word with
  | nil => exact .nil
  | cons c rest ih =>
    obtain ⟨first, others⟩ := List.forall_mem_cons.1 notBlank
    refine List.isChain_cons.2 ⟨fun d isNext => ?_, ih others⟩
    rw [alike, first, others d (List.mem_of_mem_head? isNext)]
    rfl

/-- Words are runs of which the first character is not blank. -/
theorem mem_words_iff_splitBy {word text : List Char} :
    word ∈ words text ↔ word ∈ text.splitBy alike ∧ (!word.head?.elim true isBlank) = true := by
  rw [words, List.mem_filter]
  rfl

/-- The words that are found in a text are words of it. -/
theorem isWord_of_mem_words {word text : List Char} (found : word ∈ words text) :
    IsWord word text := by
  obtain ⟨isRun, kept⟩ := mem_words_iff_splitBy.1 found
  have notEmpty := List.ne_nil_of_mem_splitBy isRun
  obtain ⟨c, rest, rfl⟩ := List.exists_cons_of_ne_nil notEmpty
  have first : isBlank c = false := by simpa using kept
  have notBlank : ∀ d ∈ c :: rest, isBlank d = false := fun d member => by
    rw [isBlank_of_isChain (List.isChain_of_mem_splitBy isRun) member, first]
  obtain ⟨earlier, later, runs⟩ := List.append_of_mem isRun
  have whole := List.flatten_splitBy alike text
  have borders := List.isChain_getLast_head_splitBy alike text
  rw [runs, List.isChain_append] at borders
  obtain ⟨-, onwards, before⟩ := borders
  refine ⟨notEmpty, notBlank, earlier.flatten, later.flatten, ?_, ?_, ?_⟩
  · rw [← whole, runs, List.flatten_append, List.flatten_cons, List.append_assoc]
  · intro d isLast
    rcases List.eq_nil_or_concat earlier with rfl | ⟨front, last, rfl⟩
    · cases isLast
    · obtain ⟨lastNotEmpty, _, differs⟩ := before last (by simp) _ rfl
      rw [List.concat_eq_append, List.flatten_append, List.flatten_singleton,
        List.getLast?_append_of_ne_nil _ lastNotEmpty, List.getLast?_eq_getLast_of_ne_nil
        lastNotEmpty, Option.mem_some_iff] at isLast
      rw [isLast, List.head_cons, alike, first] at differs
      simpa using differs
  · intro d isNext
    cases later with
    | nil => cases isNext
    | cons next others =>
      obtain ⟨differs, -⟩ := List.isChain_cons_cons.1 onwards
      obtain ⟨_, nextNotEmpty, differs⟩ := differs
      rw [List.flatten_cons, List.head?_append_of_ne_nil _ nextNotEmpty,
        List.head?_eq_some_head nextNotEmpty, Option.mem_some_iff] at isNext
      rw [isNext, alike, notBlank _ (List.getLast_mem _)] at differs
      simpa using differs

/-- The words of a text are found. -/
theorem mem_words_of_isWord {word text : List Char} (isWord : IsWord word text) :
    word ∈ words text := by
  obtain ⟨notEmpty, notBlank, before, after, rfl, bordersBefore, bordersAfter⟩ := isWord
  rw [mem_words_iff_splitBy]
  obtain ⟨c, rest, rfl⟩ := List.exists_cons_of_ne_nil notEmpty
  refine ⟨?_, by simpa using notBlank c List.mem_cons_self⟩
  have last : ∀ d ∈ (before ++ c :: rest).getLast?, isBlank d = false := by
    intro d isLast
    rw [List.getLast?_append_of_ne_nil _ notEmpty] at isLast
    exact notBlank d (List.mem_of_getLast? isLast)
  rw [List.splitBy_append, List.splitBy_append, List.splitBy_of_isChain notEmpty
    (isChain_of_notBlank notBlank)]
  · simp
  · intro d isLast e isFirst
    rw [List.head?_cons, Option.mem_some_iff] at isFirst
    rw [alike, bordersBefore d isLast, ← isFirst, notBlank c List.mem_cons_self]
    rfl
  · intro d isLast e isFirst
    rw [alike, last d isLast, bordersAfter e isFirst]
    rfl

/-- The words of a text are the runs of characters that are not blank. -/
theorem mem_words_iff {word text : List Char} : word ∈ words text ↔ IsWord word text :=
  ⟨isWord_of_mem_words, mem_words_of_isWord⟩

/-- The class attribute of an element lists a word. -/
def Lists (node : Node) (word : String) : Prop :=
  ∃ value, node.attribute? "class" = some value ∧ IsWord word.toList value.toList

/-- Whether an element has a class is whether its class attribute lists it. -/
theorem hasClass_iff {node : Node} {word : String} :
    node.hasClass word = true ↔ node.Lists word := by
  rw [hasClass, Lists]
  cases node.attribute? "class" with
  | none => simp
  | some value => simp [mem_words_iff]

end Campus.Markup.Node
