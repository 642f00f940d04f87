import Campus.Proofs.Query.Keys
import Campus.Proofs.Query.Patterns
/-!
# Clauses of the query grammar

For every clause, the documents that are read and what each of them is read as. Columns, group keys,
aggregates and order keys are read from exactly the documents that write them; only the order of
members in an object and the members that may be left out give a clause several documents.
-/

namespace Campus
namespace Json

/-- Only a text has characters. -/
theorem text?_eq_some_iff {doc : Json} {text : String} :
    doc.text? = some text ↔ doc = .text text := by
  cases doc <;> simp [text?]

/-- Only a JSON number is a number. -/
theorem number?_eq_some_iff {doc : Json} {value : Binary64} :
    doc.number? = some value ↔
      ∃ number : JsonNumber, doc = .number number ∧ value = number.toBinary64 := by
  cases doc <;> simp [number?, eq_comm]

end Json

/-- The document of an aggregate. -/
def ApplyRule.toJson (rule : ApplyRule) : Json :=
  .object [(rule.name, .object [(rule.token.label, .text rule.target.text)])]

/-- An aggregate has a name that no record key has, and a target that it can be taken of. -/
structure ApplyRule.IsSound (rule : ApplyRule) : Prop where
  named : rule.name ≠ ""
  noUnderscore : '_' ∉ rule.name.toList
  target : rule.target.IsSound
  accepted : rule.token.acceptsClass rule.target.fieldClass = true

namespace Grammar

/-- Only an object is read as one. -/
theorem object_eq_ok_iff {part : String} {doc : Json} {members : Entries Json} :
    object part doc = .ok members ↔ doc = .object members := by
  cases doc <;> simp [object]

/-- Only an array is read as one. -/
theorem array_eq_ok_iff {part : String} {doc : Json} {items : List Json} :
    array part doc = .ok items ↔ doc = .array items := by
  cases doc <;> simp [array]

/-- Only an array that has items is read as one that must have some. -/
theorem nonEmptyArray_eq_ok_iff {part : String} {doc : Json} {items : List Json} :
    nonEmptyArray part doc = .ok items ↔ doc = .array items ∧ items ≠ [] := by
  unfold nonEmptyArray
  split
  · next empty =>
    obtain rfl := array_eq_ok_iff.1 empty
    simp only [reduceCtorEq, Json.array.injEq, false_iff, not_and, not_not]
    exact Eq.symm
  · next other =>
    rw [array_eq_ok_iff]
    constructor
    · rintro rfl
      exact ⟨rfl, fun empty => other (by rw [empty]; rfl)⟩
    · exact And.left

/-- Only an object with one member is read as a single entry. -/
theorem single_eq_ok_iff {part : String} {doc : Json} {entry : String × Json} :
    single part doc = .ok entry ↔ doc = .object [entry] := by
  unfold single
  split
  · simp
  · next members several =>
    simp only [reduceCtorEq, Json.object.injEq, false_iff]
    exact several entry
  · next different =>
    simp only [reduceCtorEq, false_iff]
    exact different _

/-- Members are admitted exactly if each has one of the keys. -/
theorem onlyKeys_eq_ok_iff {part : String} {allowed : List String} {members : Entries Json} :
    onlyKeys part allowed members = .ok () ↔ ∀ member ∈ members, member.1 ∈ allowed := by
  unfold onlyKeys
  cases found : members.find? fun member => !allowed.contains member.1 with
  | none =>
    rw [List.find?_eq_none] at found
    simpa using found
  | some member =>
    have refused := List.find?_some found
    have stands := List.mem_of_find?_eq_some found
    simp only [reduceCtorEq, false_iff]
    intro all
    simp [all member stands] at refused

/-- A non-empty array is read item by item, where only the written form of a sound result is read as
it. -/
theorem nonEmptyArray_items_iff {α : Type} {read : Json → Reading α} {write : α → Json}
    {sound : α → Prop} (part : String)
    (each : ∀ doc result, read doc = .ok result ↔ doc = write result ∧ sound result)
    {doc : Json} {results : List α} :
    (∃ items, nonEmptyArray part doc = .ok items ∧ items.mapM read = .ok results) ↔
      doc = .array (results.map write) ∧ results ≠ [] ∧ ∀ result ∈ results, sound result := by
  simp only [nonEmptyArray_eq_ok_iff, Reading.mapM_eq_ok_iff_of_written each]
  constructor
  · rintro ⟨items, ⟨rfl, nonEmpty⟩, rfl, sounds⟩
    exact ⟨rfl, fun empty => nonEmpty (by rw [empty, List.map_nil]), sounds⟩
  · rintro ⟨rfl, nonEmpty, sounds⟩
    exact ⟨_, ⟨rfl, fun empty => nonEmpty (List.map_eq_nil_iff.1 empty)⟩, rfl, sounds⟩

/-- A column is a non-empty text. -/
theorem column_eq_ok_iff {doc : Json} {name : String} :
    column doc = .ok name ↔ doc = .text name ∧ name ≠ "" := by
  unfold column
  split
  · next value found =>
    obtain rfl := Json.text?_eq_some_iff.1 found
    split
    · next empty =>
      obtain rfl := String.isEmpty_iff.1 empty
      simp only [reduceCtorEq, Json.text.injEq, false_iff, not_and, not_not]
      exact Eq.symm
    · next nonEmpty =>
      simp only [Except.ok.injEq, Json.text.injEq, iff_self_and]
      rintro rfl
      exact fun empty => nonEmpty (String.isEmpty_iff.2 empty)
  · next absent =>
    simp only [reduceCtorEq, false_iff]
    rintro ⟨rfl, -⟩
    cases absent

/-- The columns are a non-empty list of non-empty texts. -/
theorem columns_eq_ok_iff {options : Entries Json} {names : List String} :
    columns options = .ok names ↔
      Entries.get? "COLUMNS" options = some (.array (names.map .text)) ∧ names ≠ [] ∧
        ∀ name ∈ names, name ≠ "" := by
  unfold columns
  cases Entries.get? "COLUMNS" options with
  | none => simp
  | some doc =>
    rw [Option.some.injEq]
    exact Reading.bind_eq_ok_iff.trans (nonEmptyArray_items_iff _ fun _ _ => column_eq_ok_iff)

/-- A group key is the text of a key that is a column. -/
theorem groupKey_eq_ok_iff {columns : List String} {doc : Json} {found : FieldKey} :
    groupKey columns doc = .ok found ↔
      doc = .text found.text ∧ found.IsSound ∧ found.text ∈ columns := by
  unfold groupKey
  split
  · next absent =>
    simp only [reduceCtorEq, false_iff]
    rintro ⟨rfl, -⟩
    cases absent
  · next text written =>
    obtain rfl := Json.text?_eq_some_iff.1 written
    simp only [Reading.bind_eq_ok_iff, key_eq_ok_iff_text, Json.text.injEq]
    constructor
    · rintro ⟨key, ⟨rfl, sound⟩, listed⟩
      split at listed
      · next member =>
        cases listed
        exact ⟨rfl, sound, List.contains_iff_mem.1 member⟩
      · cases listed
    · rintro ⟨rfl, sound, member⟩
      exact ⟨found, ⟨rfl, sound⟩, by rw [if_pos (List.contains_iff_mem.2 member)]⟩

/-- An aggregate is found under its own name only. -/
theorem ofLabel?_eq_some_iff {label : String} {token : ApplyToken} :
    ApplyToken.ofLabel? label = some token ↔ label = token.label := by
  constructor
  · intro found
    unfold ApplyToken.ofLabel? at found
    split at found <;> cases found <;> rfl
  · rintro rfl
    cases token <;> rfl

/-- An aggregate is read from its own document only. -/
theorem applyRule_eq_ok_iff {doc : Json} {rule : ApplyRule} :
    applyRule doc = .ok rule ↔ doc = rule.toJson ∧ rule.IsSound := by
  unfold applyRule
  simp only [Reading.bind_eq_ok_iff, single_eq_ok_iff]
  constructor
  · rintro ⟨⟨name, body⟩, rfl, read⟩
    split at read
    · simp [bind, Except.bind] at read
    next named =>
    simp only [Reading.bind_eq_ok_iff, single_eq_ok_iff] at read
    obtain ⟨⟨label, target⟩, rfl, read⟩ := read
    split at read
    · cases read
    next token labelled =>
    obtain rfl := ofLabel?_eq_some_iff.1 labelled
    split at read
    · cases read
    next text written =>
    obtain rfl := Json.text?_eq_some_iff.1 written
    simp only [Reading.bind_eq_ok_iff, key_eq_ok_iff_text] at read
    obtain ⟨key, ⟨rfl, sound⟩, accepted⟩ := read
    split at accepted
    · next accepts =>
      cases accepted
      simp only [String.isEmpty_iff, List.contains_eq_mem, Bool.or_eq_true, not_or] at named
      exact ⟨rfl, named.1, by simpa using named.2, sound, accepts⟩
    · cases accepted
  · rintro ⟨rfl, sound⟩
    refine ⟨_, rfl, ?_⟩
    have named : ¬(rule.name.isEmpty || rule.name.toList.contains '_') = true := by
      simp [String.isEmpty_iff, sound.named, sound.noUnderscore]
    rw [if_neg named]
    simp only [Reading.bind_eq_ok_iff, single_eq_ok_iff]
    refine ⟨_, rfl, ?_⟩
    have labelled : ApplyToken.ofLabel? rule.token.label = some rule.token :=
      ofLabel?_eq_some_iff.2 rfl
    simp only [labelled, Json.text?, Reading.bind_eq_ok_iff, key_eq_ok_iff_text]
    exact ⟨rule.target, ⟨rfl, sound.target⟩, by rw [if_pos sound.accepted]⟩

/-- A further aggregate keeps names distinct exactly when its own is new. -/
theorem nodup_names_concat_iff {before : List ApplyRule} {rule : ApplyRule} :
    ((before ++ [rule]).map ApplyRule.name).Nodup ↔
      (before.map ApplyRule.name).Nodup ∧
        ¬(before.any fun earlier => earlier.name == rule.name) = true := by
  rw [List.map_append, List.map_singleton, List.nodup_append]
  simp only [List.any_eq_true, beq_iff_eq, not_exists, not_and]
  constructor
  · rintro ⟨distinct, -, apart⟩
    exact ⟨distinct, fun earlier member =>
      apart _ (List.mem_map_of_mem member) _ (List.mem_singleton.2 rfl)⟩
  · rintro ⟨distinct, fresh⟩
    refine ⟨distinct, by simp, ?_⟩
    rintro _ member _ single
    obtain ⟨earlier, stands, rfl⟩ := List.mem_map.1 member
    rw [List.mem_singleton.1 single]
    exact fresh earlier stands

/-- Aggregates are read one after another, and no name occurs twice. -/
theorem applyRules_eq_ok_iff {before rules : List ApplyRule} {docs : List Json}
    (distinct : (before.map ApplyRule.name).Nodup) :
    applyRules before docs = .ok rules ↔
      ∃ later, rules = before ++ later ∧ docs = later.map ApplyRule.toJson ∧
        (∀ rule ∈ later, rule.IsSound) ∧ (rules.map ApplyRule.name).Nodup := by
  induction docs generalizing before with
  | nil =>
    simp only [applyRules, Except.ok.injEq]
    constructor
    · rintro rfl
      exact ⟨[], by simp, rfl, by simp, distinct⟩
    · rintro ⟨later, rfl, none, -, -⟩
      rw [List.map_eq_nil_iff.1 none.symm, List.append_nil]
  | cons doc rest ih =>
    simp only [applyRules, Reading.bind_eq_ok_iff, applyRule_eq_ok_iff]
    constructor
    · rintro ⟨rule, ⟨rfl, sound⟩, read⟩
      split at read
      · cases read
      next fresh =>
      obtain ⟨later, rfl, rfl, sounds, nodup⟩ :=
        (ih (nodup_names_concat_iff.2 ⟨distinct, fresh⟩)).1 read
      exact ⟨rule :: later, by simp, rfl, List.forall_mem_cons.2 ⟨sound, sounds⟩, nodup⟩
    · rintro ⟨later, rfl, written, sounds, nodup⟩
      obtain ⟨rule, others, rfl, rfl, rfl⟩ := List.map_eq_cons_iff.1 written.symm
      obtain ⟨sound, sounds⟩ := List.forall_mem_cons.1 sounds
      have split : before ++ rule :: others = (before ++ [rule]) ++ others := by simp
      rw [split] at nodup
      have longer : ((before ++ [rule]).map ApplyRule.name).Nodup := by
        rw [List.map_append] at nodup
        exact (List.nodup_append.1 nodup).1
      refine ⟨rule, ⟨rfl, sound⟩, ?_⟩
      rw [if_neg (nodup_names_concat_iff.1 longer).2]
      exact (ih longer).2 ⟨others, split, rfl, sounds, by rwa [split]⟩

/-- Grouping and aggregates are read from an object of exactly these two. -/
theorem transformations_eq_ok_iff {columns : List String} {doc : Json} {t : Transformations} :
    transformations columns doc = .ok t ↔
      ∃ members, doc = .object members ∧ (∀ member ∈ members, member.1 ∈ ["GROUP", "APPLY"]) ∧
        Entries.get? "GROUP" members = some (.array (t.group.map fun key => .text key.text)) ∧
        Entries.get? "APPLY" members = some (.array (t.apply.map ApplyRule.toJson)) ∧
        t.group ≠ [] ∧ (∀ key ∈ t.group, key.IsSound ∧ key.text ∈ columns) ∧
        (∀ rule ∈ t.apply, rule.IsSound) ∧ (t.apply.map ApplyRule.name).Nodup := by
  unfold transformations
  simp only [Reading.bind_eq_ok_iff, object_eq_ok_iff]
  have noNames : (([] : List ApplyRule).map ApplyRule.name).Nodup := List.nodup_nil
  constructor
  · rintro ⟨members, rfl, ⟨⟩, allowed, read⟩
    refine ⟨members, rfl, onlyKeys_eq_ok_iff.1 allowed, ?_⟩
    split at read
    · cases read
    next groupDoc groupFound =>
    simp only [Reading.bind_eq_ok_iff] at read
    obtain ⟨items, isArray, group, readGroup, read⟩ := read
    obtain ⟨rfl, nonEmpty, keys⟩ :=
      (nonEmptyArray_items_iff _ fun _ _ => groupKey_eq_ok_iff).1 ⟨items, isArray, readGroup⟩
    split at read
    · cases read
    next applyDoc applyFound =>
    simp only [Reading.bind_eq_ok_iff, array_eq_ok_iff] at read
    obtain ⟨docs, rfl, rules, readRules, done⟩ := read
    cases done
    obtain ⟨later, rfl, rfl, sounds, distinct⟩ := (applyRules_eq_ok_iff noNames).1 readRules
    exact ⟨groupFound, applyFound, nonEmpty, keys, sounds, distinct⟩
  · rintro ⟨members, rfl, allowed, group, apply, nonEmpty, keys, rules, distinct⟩
    refine ⟨members, rfl, (), onlyKeys_eq_ok_iff.2 allowed, ?_⟩
    obtain ⟨items, isArray, readGroup⟩ :=
      (nonEmptyArray_items_iff "GROUP" fun _ _ => groupKey_eq_ok_iff).2 ⟨rfl, nonEmpty, keys⟩
    have readRules : applyRules [] (t.apply.map ApplyRule.toJson) = .ok t.apply :=
      (applyRules_eq_ok_iff noNames).2 ⟨t.apply, rfl, rfl, rules, distinct⟩
    simp only [group, apply, Reading.bind_eq_ok_iff, array_eq_ok_iff]
    exact ⟨items, isArray, t.group, readGroup, _, rfl, t.apply, readRules, rfl⟩

/-- A direction is found under its own name only. -/
theorem direction_ofLabel?_eq_some_iff {label : String} {direction : Direction} :
    Direction.ofLabel? label = some direction ↔ label = direction.label := by
  constructor
  · intro found
    unfold Direction.ofLabel? at found
    split at found <;> cases found <;> rfl
  · rintro rfl
    cases direction <;> rfl

/-- The documents of an order over some columns. -/
inductive OrderSpelled (columns : List String) : Json → OrderSpec → Prop
  | column {name : String} (member : name ∈ columns) :
    OrderSpelled columns (.text name) (.key name)
  | keys {members : Entries Json} {direction : Direction} {names : List String}
    (allowed : ∀ member ∈ members, member.1 ∈ ["dir", "keys"])
    (directed : Entries.get? "dir" members = some (.text direction.label))
    (listed : Entries.get? "keys" members = some (.array (names.map .text)))
    (nonEmpty : names ≠ []) (inColumns : ∀ name ∈ names, name ∈ columns) :
    OrderSpelled columns (.object members) (.keys direction names)

/-- An order key is the text of a column. -/
theorem orderKey_eq_ok_iff {columns : List String} {doc : Json} {name : String} :
    orderKey columns doc = .ok name ↔ doc = .text name ∧ name ∈ columns := by
  unfold orderKey
  split
  · next absent =>
    simp only [reduceCtorEq, false_iff]
    rintro ⟨rfl, -⟩
    cases absent
  · next text written =>
    obtain rfl := Json.text?_eq_some_iff.1 written
    split
    · next member =>
      simp only [Except.ok.injEq, Json.text.injEq, iff_self_and]
      rintro rfl
      exact List.contains_iff_mem.1 member
    · next outside =>
      simp only [reduceCtorEq, Json.text.injEq, false_iff, not_and]
      rintro rfl member
      exact outside (List.contains_iff_mem.2 member)

/-- An order is a column, or a direction with a list of columns. -/
theorem order_eq_ok_iff {columns : List String} {doc : Json} {spec : OrderSpec} :
    order columns doc = .ok spec ↔ OrderSpelled columns doc spec := by
  unfold order
  constructor
  · intro read
    split at read
    · next name =>
      split at read
      · next member =>
        cases read
        exact .column (List.contains_iff_mem.1 member)
      · cases read
    · next members =>
      simp only [Reading.bind_eq_ok_iff] at read
      obtain ⟨⟨⟩, allowed, read⟩ := read
      split at read
      · cases read
      next direction directed =>
      split at read
      · cases read
      next doc listed =>
      simp only [Reading.bind_eq_ok_iff] at read
      obtain ⟨items, isArray, names, readKeys, done⟩ := read
      cases done
      obtain ⟨rfl, nonEmpty, inColumns⟩ :=
        (nonEmptyArray_items_iff _ fun _ _ => orderKey_eq_ok_iff).1 ⟨items, isArray, readKeys⟩
      obtain ⟨label, found, labelled⟩ := Option.bind_eq_some_iff.1 directed
      obtain ⟨doc, found, written⟩ := Option.bind_eq_some_iff.1 found
      obtain rfl := Json.text?_eq_some_iff.1 written
      obtain rfl := direction_ofLabel?_eq_some_iff.1 labelled
      exact .keys (onlyKeys_eq_ok_iff.1 allowed) found listed nonEmpty inColumns
    · cases read
  · intro spelled
    cases spelled with
    | column member => simp [member]
    | @keys members direction names allowed directed listed nonEmpty inColumns =>
      obtain ⟨items, isArray, readKeys⟩ :=
        (nonEmptyArray_items_iff "ORDER keys" fun _ _ => orderKey_eq_ok_iff).2
          ⟨rfl, nonEmpty, inColumns⟩
      have labelled := direction_ofLabel?_eq_some_iff.2 (rfl : direction.label = _)
      simp only [directed, listed, Option.bind_some, Json.text?, labelled, Reading.bind_eq_ok_iff]
      exact ⟨(), onlyKeys_eq_ok_iff.2 allowed, items, isArray, names, readKeys, rfl⟩

/-- The documents of a comparison name a numeric field and give a number. -/
theorem comparison_eq_ok_iff {comparator : Comparator} {doc : Json} {found : Filter} :
    comparison comparator doc = .ok found ↔
      ∃ (key : FieldKey) (bound : JsonNumber), doc = .object [(key.text, .number bound)] ∧
        key.IsSound ∧ key.fieldClass = .numeric ∧
        found = .compares comparator key bound.toBinary64 := by
  unfold comparison
  simp only [Reading.bind_eq_ok_iff, single_eq_ok_iff, key_eq_ok_iff_text]
  constructor
  · rintro ⟨⟨text, value⟩, rfl, key, ⟨rfl, sound⟩, read⟩
    split at read
    · simp [bind, Except.bind] at read
    next numeric =>
    split at read
    · next number given =>
      cases read
      obtain ⟨bound, rfl, rfl⟩ := Json.number?_eq_some_iff.1 given
      exact ⟨key, bound, rfl, sound, not_not.1 numeric, rfl⟩
    · cases read
  · rintro ⟨key, bound, rfl, sound, numeric, rfl⟩
    refine ⟨_, rfl, key, ⟨rfl, sound⟩, ?_⟩
    rw [if_neg (not_not.2 numeric)]
    rfl

/-- The documents of a match name a textual field and give the literal of a pattern. -/
theorem pattern_eq_ok_iff {doc : Json} {found : Filter} :
    pattern doc = .ok found ↔
      ∃ (key : FieldKey) (literal : String) (pattern : Pattern),
        doc = .object [(key.text, .text literal)] ∧ key.IsSound ∧ key.fieldClass = .text ∧
        Pattern.ofLiteral literal = .ok pattern ∧ found = .matches key pattern := by
  unfold pattern
  simp only [Reading.bind_eq_ok_iff, single_eq_ok_iff, key_eq_ok_iff_text]
  constructor
  · rintro ⟨⟨text, value⟩, rfl, key, ⟨rfl, sound⟩, read⟩
    split at read
    · simp [bind, Except.bind] at read
    next textual =>
    split at read
    · cases read
    next literal given =>
    obtain rfl := Json.text?_eq_some_iff.1 given
    split at read
    · next pattern isPattern =>
      cases read
      exact ⟨key, literal, pattern, rfl, sound, not_not.1 textual, isPattern, rfl⟩
    · cases read
  · rintro ⟨key, literal, pattern, rfl, sound, textual, isPattern, rfl⟩
    refine ⟨_, rfl, key, ⟨rfl, sound⟩, ?_⟩
    rw [if_neg (not_not.2 textual)]
    simp only [Json.text?, isPattern]

/-- A column of a grouped query is a group key or the name of an aggregate. -/
def Produces (t : Transformations) (column : String) : Prop :=
  (∃ key ∈ t.group, key.text = column) ∨ ∃ rule ∈ t.apply, rule.name = column

/-- The check of a column of a grouped query. -/
theorem producedColumn_eq_ok_iff {t : Transformations} {column : String} :
    producedColumn t column = .ok () ↔ Produces t column := by
  unfold producedColumn Produces
  split
  · next produced => simpa using produced
  · next notProduced =>
    simp only [reduceCtorEq, false_iff]
    simpa using notProduced

/-- The check of all columns of a grouped query. -/
theorem forM_producedColumn_eq_ok_iff {t : Transformations} {columns : List String} :
    columns.forM (producedColumn t) = .ok () ↔ ∀ column ∈ columns, Produces t column := by
  induction columns with
  | nil => simp [List.forM_nil, pure, Except.pure]
  | cons column rest ih =>
    rw [List.forM_eq_forM, List.forM_cons, Reading.bind_eq_ok_iff, List.forall_mem_cons, ← ih]
    exact ⟨fun ⟨_, first, others⟩ => ⟨producedColumn_eq_ok_iff.1 first, others⟩,
      fun ⟨first, others⟩ => ⟨(), producedColumn_eq_ok_iff.2 first, others⟩⟩

/-- An optional part is read if it is there. -/
theorem optional_eq_ok_iff {α : Type} {read : Json → Reading α} {part : Option Json}
    {result : Option α} :
    part.mapM read = .ok result ↔
      Option.Rel (fun doc value => read doc = .ok value) part result := by
  cases part with
  | none =>
    constructor
    · intro done
      cases done
      exact .none
    · rintro ⟨⟩
      rfl
  | some doc =>
    constructor
    · intro done
      obtain ⟨value, readValue, same⟩ := Reading.bind_eq_ok_iff.1 done
      cases same
      exact .some readValue
    · rintro (readValue | _)
      exact Reading.bind_eq_ok_iff.2 ⟨_, readValue, rfl⟩

/-- The keys of columns: those of an ungrouped query are keys, those of a grouped one come from
group keys and aggregates and are not looked at again. -/
def ColumnsKeyed (columns : List String) (keys : List FieldKey) : Option Transformations → Prop
  | some t => (∀ column ∈ columns, Produces t column) ∧ keys = []
  | none => columns = keys.map FieldKey.text ∧ ∀ key ∈ keys, key.IsSound

/-- The members of a document and of its options that are read as some parts. -/
structure PartsSpelled (top options : Entries Json) (whereDoc : Json) (parts : Parts) : Prop where
  topKeys : ∀ member ∈ top, member.1 ∈ ["WHERE", "OPTIONS", "TRANSFORMATIONS"]
  hasWhere : Entries.get? "WHERE" top = some whereDoc
  hasOptions : Entries.get? "OPTIONS" top = some (.object options)
  filter : condition whereDoc = .ok parts.filter
  optionKeys : ∀ member ∈ options, member.1 ∈ ["COLUMNS", "ORDER"]
  columns : Entries.get? "COLUMNS" options = some (.array (parts.columns.map .text))
  someColumns : parts.columns ≠ []
  columnNames : ∀ column ∈ parts.columns, column ≠ ""
  transformations : Option.Rel (fun doc t => Grammar.transformations parts.columns doc = .ok t)
    (Entries.get? "TRANSFORMATIONS" top) parts.transformations
  columnKeys : ColumnsKeyed parts.columns parts.columnKeys parts.transformations
  order : Option.Rel (OrderSpelled parts.columns) (Entries.get? "ORDER" options) parts.order

/-- A document is read by reading its members. -/
theorem parts_eq_ok_iff {doc : Json} {found : Parts} :
    parts doc = .ok found ↔
      ∃ top options whereDoc, doc = .object top ∧ PartsSpelled top options whereDoc found := by
  unfold parts
  simp only [Reading.bind_eq_ok_iff, object_eq_ok_iff]
  constructor
  · rintro ⟨top, rfl, ⟨⟩, topKeys, read⟩
    split at read
    · cases read
    · cases read
    next whereDoc optionsDoc hasWhere hasOptions =>
    simp only [Reading.bind_eq_ok_iff, object_eq_ok_iff] at read
    obtain ⟨filter, readFilter, options, rfl, ⟨⟩, optionKeys, names, readNames, t, readT, read⟩ :=
      read
    obtain ⟨columns, someColumns, columnNames⟩ := columns_eq_ok_iff.1 readNames
    have spelled {keys : List FieldKey} {spec : Option OrderSpec}
        (keyed : ColumnsKeyed names keys t)
        (readOrder : (Entries.get? "ORDER" options).mapM (order names) = .ok spec) :
        PartsSpelled top options whereDoc ⟨filter, names, spec, t, keys⟩ := by
      refine ⟨onlyKeys_eq_ok_iff.1 topKeys, hasWhere, hasOptions, readFilter,
        onlyKeys_eq_ok_iff.1 optionKeys, columns, someColumns, columnNames,
        optional_eq_ok_iff.1 readT, keyed, ?_⟩
      simpa only [order_eq_ok_iff] using optional_eq_ok_iff.1 readOrder
    refine ⟨top, options, whereDoc, rfl, ?_⟩
    cases t with
    | none =>
      simp only [Reading.bind_eq_ok_iff] at read
      obtain ⟨keys, readKeys, spec, readOrder, done⟩ := read
      cases done
      have keyed := (Reading.mapM_eq_ok_iff_of_written fun _ _ => key_eq_ok_iff_text).1 readKeys
      exact spelled keyed readOrder
    | some t =>
      simp only [Reading.bind_eq_ok_iff] at read
      obtain ⟨⟨⟩, produced, keys, noKeys, spec, readOrder, done⟩ := read
      cases done
      cases noKeys
      exact spelled ⟨forM_producedColumn_eq_ok_iff.1 produced, rfl⟩ readOrder
  · rintro ⟨top, options, whereDoc, rfl, spelled⟩
    have readNames := columns_eq_ok_iff.2
      ⟨spelled.columns, spelled.someColumns, spelled.columnNames⟩
    have readOrder :
        (Entries.get? "ORDER" options).mapM (order found.columns) = .ok found.order := by
      apply optional_eq_ok_iff.2
      simpa only [order_eq_ok_iff] using spelled.order
    refine ⟨top, rfl, (), onlyKeys_eq_ok_iff.2 spelled.topKeys, ?_⟩
    simp only [spelled.hasWhere, spelled.hasOptions, Reading.bind_eq_ok_iff, object_eq_ok_iff]
    refine ⟨found.filter, spelled.filter, options, rfl, (), onlyKeys_eq_ok_iff.2 spelled.optionKeys,
      found.columns, readNames, found.transformations,
      optional_eq_ok_iff.2 spelled.transformations, ?_⟩
    have keyed := spelled.columnKeys
    obtain ⟨filter, names, spec, t, keys⟩ := found
    cases t with
    | none =>
      have readKeys := (Reading.mapM_eq_ok_iff_of_written fun _ _ => key_eq_ok_iff_text).2 keyed
      simp only [Reading.bind_eq_ok_iff]
      exact ⟨keys, readKeys, spec, readOrder, rfl⟩
    | some t =>
      obtain ⟨produced, noKeys⟩ := keyed
      obtain rfl : keys = [] := noKeys
      simp only [Reading.bind_eq_ok_iff]
      exact ⟨(), forM_producedColumn_eq_ok_iff.2 produced, [], rfl, spec, readOrder, rfl⟩

end Grammar
end Campus
