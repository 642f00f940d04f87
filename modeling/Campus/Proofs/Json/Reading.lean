import Campus.Json.Source
/-!
# Trees of tokens

A tree has its tokens: those of its leaves with brackets around what a container holds, commas
between and a colon after a key. Tokens are read as a tree exactly if they are the tokens of the
tree, so no two trees have the same.
-/

namespace Campus.Json.Source

mutual

/-- The tokens of a tree. -/
def tokens : Source → List Token
  | .null => [.null]
  | .bool value => [.bool value]
  | .number value => [.number value]
  | .text value => [.text value]
  | .array items => .openArray :: (itemTokens items ++ [.closeArray])
  | .object members => .openObject :: (memberTokens members ++ [.closeObject])

/-- The tokens of items with commas between them. -/
def itemTokens : List Source → List Token
  | [] => []
  | [item] => tokens item
  | item :: rest => tokens item ++ .comma :: itemTokens rest

/-- The tokens of members with commas between them. -/
def memberTokens : List (Option String × Source) → List Token
  | [] => []
  | [(key, value)] => .text key :: .colon :: tokens value
  | (key, value) :: rest => .text key :: .colon :: (tokens value ++ .comma :: memberTokens rest)

end

/-- Induction on trees: what holds of a container when it holds of all it contains. -/
theorem induction_on {motive : Source → Prop} (null : motive .null)
    (bool : ∀ value, motive (.bool value)) (number : ∀ value, motive (.number value))
    (text : ∀ value, motive (.text value))
    (array : ∀ items, (∀ item ∈ items, motive item) → motive (.array items))
    (object : ∀ members, (∀ member ∈ members, motive member.2) → motive (.object members)) :
    ∀ source, motive source
  | .null => null
  | .bool value => bool value
  | .number value => number value
  | .text value => text value
  | .array items => array items fun item _ =>
    induction_on null bool number text array object item
  | .object members => object members fun member _ =>
    induction_on null bool number text array object member.2
decreasing_by
  · next isItem =>
    have smaller := List.sizeOf_lt_of_mem isItem
    simp only [Source.array.sizeOf_spec]
    omega
  · next isMember =>
    have smaller := List.sizeOf_lt_of_mem isMember
    have inner : sizeOf member.2 < sizeOf member := by
      cases member
      simp only [Prod.mk.sizeOf_spec]
      omega
    simp only [Source.object.sizeOf_spec]
    omega

section shape

/-- Items after the first are separated from it by a comma. -/
theorem itemTokens_cons_cons (item next : Source) (rest : List Source) :
    itemTokens (item :: next :: rest) = item.tokens ++ .comma :: itemTokens (next :: rest) := by
  rw [itemTokens]
  exact List.cons_ne_nil _ _

/-- Members after the first are separated from it by a comma. -/
theorem memberTokens_cons_cons (key : Option String) (value : Source)
    (next : Option String × Source) (rest : List (Option String × Source)) :
    memberTokens ((key, value) :: next :: rest) =
      .text key :: .colon :: (value.tokens ++ .comma :: memberTokens (next :: rest)) := by
  rw [memberTokens]
  exact List.cons_ne_nil _ _

/-- The tokens of a value do not start with the end of an array. -/
theorem exists_tokens_eq_cons (source : Source) :
    ∃ first rest, source.tokens = first :: rest ∧ first ≠ .closeArray := by
  cases source <;> exact ⟨_, _, by rw [tokens], Token.noConfusion⟩

/-- The tokens of some items do not start with the end of an array. -/
theorem exists_itemTokens_eq_cons (item : Source) (rest : List Source) :
    ∃ first others, itemTokens (item :: rest) = first :: others ∧ first ≠ .closeArray := by
  obtain ⟨first, others, starts, notClose⟩ := exists_tokens_eq_cons item
  cases rest with
  | nil => exact ⟨first, others, by rw [itemTokens, starts], notClose⟩
  | cons next rest =>
    exact ⟨first, others ++ .comma :: itemTokens (next :: rest),
      by rw [itemTokens_cons_cons, starts, List.cons_append], notClose⟩

/-- The tokens of some members start with the key of the first. -/
theorem exists_memberTokens_eq_cons (key : Option String) (value : Source)
    (rest : List (Option String × Source)) :
    ∃ others, memberTokens ((key, value) :: rest) = .text key :: others := by
  cases rest with
  | nil => exact ⟨_, by rw [memberTokens]⟩
  | cons next rest => exact ⟨_, memberTokens_cons_cons key value next rest⟩

end shape

section complete

/-- The tokens of a tree are read as it whatever follows, with fuel for twice as many. -/
def Reads (source : Source) : Prop :=
  ∀ fuel rest, 2 * source.tokens.length ≤ fuel →
    value? fuel (source.tokens ++ rest) = some (source, rest)

/-- The tokens of items up to the end of an array are read as the items. -/
theorem items?_itemTokens {item : Source} {items : List Source}
    (each : ∀ other ∈ item :: items, Reads other) (before : List Source) (fuel : Nat)
    (rest : List Token) (enough : 2 * (itemTokens (item :: items)).length + 1 ≤ fuel) :
    items? fuel before (itemTokens (item :: items) ++ .closeArray :: rest) =
      some (.array (before.reverse ++ item :: items), rest) := by
  induction items generalizing item before fuel with
  | nil =>
    obtain ⟨fuel, rfl⟩ : ∃ less, fuel = less + 1 := ⟨fuel - 1, by omega⟩
    rw [itemTokens] at enough ⊢
    have first := each item List.mem_cons_self fuel (.closeArray :: rest) (by omega)
    rw [items?, first]
    simp only [List.reverse_cons]
  | cons next items ih =>
    obtain ⟨fuel, rfl⟩ : ∃ less, fuel = less + 1 := ⟨fuel - 1, by omega⟩
    rw [itemTokens_cons_cons, List.length_append, List.length_cons] at enough
    rw [itemTokens_cons_cons, List.append_assoc, List.cons_append]
    have first := each item List.mem_cons_self fuel
      (.comma :: (itemTokens (next :: items) ++ .closeArray :: rest)) (by omega)
    have later := ih (fun other member => each other (List.mem_cons_of_mem _ member))
      (item :: before) fuel (by omega)
    rw [items?, first]
    simp only [later, List.reverse_cons, List.append_assoc, List.singleton_append]

/-- The tokens of members up to the end of an object are read as the members. -/
theorem members?_memberTokens {key : Option String} {value : Source}
    {members : List (Option String × Source)}
    (each : ∀ other ∈ (key, value) :: members, Reads other.2)
    (before : List (Option String × Source)) (fuel : Nat) (rest : List Token)
    (enough : 2 * (memberTokens ((key, value) :: members)).length + 1 ≤ fuel) :
    members? fuel before (memberTokens ((key, value) :: members) ++ .closeObject :: rest) =
      some (.object (before.reverse ++ (key, value) :: members), rest) := by
  induction members generalizing key value before fuel with
  | nil =>
    obtain ⟨fuel, rfl⟩ : ∃ less, fuel = less + 1 := ⟨fuel - 1, by omega⟩
    rw [memberTokens] at enough ⊢
    simp only [List.length_cons] at enough
    have first := each (key, value) List.mem_cons_self fuel (.closeObject :: rest)
      (by simp only; omega)
    rw [List.cons_append, List.cons_append, members?, first]
    simp only [List.reverse_cons]
  | cons next members ih =>
    obtain ⟨nextKey, nextValue⟩ := next
    obtain ⟨fuel, rfl⟩ : ∃ less, fuel = less + 1 := ⟨fuel - 1, by omega⟩
    rw [memberTokens_cons_cons] at enough ⊢
    simp only [List.length_cons, List.length_append] at enough
    have first := each (key, value) List.mem_cons_self fuel
      (.comma :: (memberTokens ((nextKey, nextValue) :: members) ++ .closeObject :: rest))
      (by simp only; omega)
    have later := ih (fun other member => each other (List.mem_cons_of_mem _ member))
      ((key, value) :: before) fuel (by omega)
    rw [List.cons_append, List.cons_append, List.append_assoc, List.cons_append, members?, first]
    simp only [later, List.reverse_cons, List.append_assoc, List.singleton_append]

/-- The tokens of any tree are read as it. -/
theorem reads (source : Source) : Reads source := by
  induction source using induction_on with
  | null | bool value | number value | text value =>
    intro fuel rest enough
    rw [tokens, List.length_singleton] at enough
    obtain ⟨fuel, rfl⟩ : ∃ less, fuel = less + 1 := ⟨fuel - 1, by omega⟩
    rw [tokens, List.singleton_append, value?]
  | array items each =>
    intro fuel rest enough
    rw [tokens, List.length_cons, List.length_append, List.length_singleton] at enough
    obtain ⟨fuel, rfl⟩ : ∃ less, fuel = less + 1 := ⟨fuel - 1, by omega⟩
    rw [tokens, List.cons_append, List.append_assoc, List.singleton_append]
    cases items with
    | nil => rw [itemTokens, List.nil_append, value?]
    | cons item others =>
      obtain ⟨first, after, starts, notClose⟩ := exists_itemTokens_eq_cons item others
      have opened : value? (fuel + 1)
          (.openArray :: (itemTokens (item :: others) ++ .closeArray :: rest)) =
            items? fuel [] (itemTokens (item :: others) ++ .closeArray :: rest) := by
        rw [starts, List.cons_append, value?]
        exact fun _ same => notClose (List.cons.inj same).1
      rw [opened, items?_itemTokens each [] fuel rest (by omega)]
      rfl
  | object members each =>
    intro fuel rest enough
    rw [tokens, List.length_cons, List.length_append, List.length_singleton] at enough
    obtain ⟨fuel, rfl⟩ : ∃ less, fuel = less + 1 := ⟨fuel - 1, by omega⟩
    rw [tokens, List.cons_append, List.append_assoc, List.singleton_append]
    cases members with
    | nil => rw [memberTokens, List.nil_append, value?]
    | cons member others =>
      obtain ⟨key, value⟩ := member
      obtain ⟨after, starts⟩ := exists_memberTokens_eq_cons key value others
      have opened : value? (fuel + 1)
          (.openObject :: (memberTokens ((key, value) :: others) ++ .closeObject :: rest)) =
            members? fuel [] (memberTokens ((key, value) :: others) ++ .closeObject :: rest) := by
        rw [starts, List.cons_append, value?]
        exact fun _ same => Token.noConfusion (List.cons.inj same).1
      rw [opened, members?_memberTokens each [] fuel rest (by omega)]
      rfl

end complete

section sound

/-- What is read of tokens has them, up to what follows. -/
structure IsSound (fuel : Nat) : Prop where
  value : ∀ {input rest : List Token} {source : Source},
    value? fuel input = some (source, rest) → input = source.tokens ++ rest
  items : ∀ {before : List Source} {input rest : List Token} {source : Source},
    items? fuel before input = some (source, rest) →
      ∃ item items, source = .array (before.reverse ++ item :: items) ∧
        input = itemTokens (item :: items) ++ .closeArray :: rest
  members : ∀ {before : List (Option String × Source)} {input rest : List Token}
    {source : Source}, members? fuel before input = some (source, rest) →
      ∃ member members, source = .object (before.reverse ++ member :: members) ∧
        input = memberTokens (member :: members) ++ .closeObject :: rest

namespace IsSound

variable {fuel : Nat} {input rest : List Token} {source : Source}

/-- With one step more a value still has the tokens it is read of. -/
theorem value_succ (sound : IsSound fuel) (read : value? (fuel + 1) input = some (source, rest)) :
    input = source.tokens ++ rest := by
  unfold value? at read
  split at read
  iterate 4 (cases read; rw [tokens, List.singleton_append])
  · cases read
    rw [tokens, itemTokens]
    rfl
  · obtain ⟨item, items, rfl, rfl⟩ := sound.items read
    rw [tokens, List.reverse_nil, List.nil_append, List.cons_append, List.append_assoc,
      List.singleton_append]
  · cases read
    rw [tokens, memberTokens]
    rfl
  · obtain ⟨member, members, rfl, rfl⟩ := sound.members read
    rw [tokens, List.reverse_nil, List.nil_append, List.cons_append, List.append_assoc,
      List.singleton_append]
  · cases read

/-- With one step more items still have the tokens they are read of. -/
theorem items_succ (sound : IsSound fuel) {before : List Source}
    (read : items? (fuel + 1) before input = some (source, rest)) :
    ∃ item items, source = .array (before.reverse ++ item :: items) ∧
      input = itemTokens (item :: items) ++ .closeArray :: rest := by
  rw [items?] at read
  split at read
  · next item after first =>
    obtain ⟨next, items, rfl, rfl⟩ := sound.items read
    refine ⟨item, next :: items, by simp, ?_⟩
    rw [sound.value first, itemTokens_cons_cons, List.append_assoc, List.cons_append]
  · next item after first =>
    cases read
    exact ⟨item, [], by simp, by rw [sound.value first, itemTokens]⟩
  · cases read

/-- With one step more members still have the tokens they are read of. -/
theorem members_succ (sound : IsSound fuel) {before : List (Option String × Source)}
    (read : members? (fuel + 1) before input = some (source, rest)) :
    ∃ member members, source = .object (before.reverse ++ member :: members) ∧
      input = memberTokens (member :: members) ++ .closeObject :: rest := by
  unfold members? at read
  split at read
  · next key after =>
    split at read
    · next value later first =>
      obtain ⟨next, members, rfl, rfl⟩ := sound.members read
      refine ⟨(key, value), next :: members, by simp, ?_⟩
      rw [sound.value first, memberTokens_cons_cons]
      simp
    · next value later first =>
      cases read
      refine ⟨(key, value), [], by simp, ?_⟩
      rw [sound.value first, memberTokens]
      simp
    · cases read
  · cases read

end IsSound

/-- Tokens that are read as a tree are its tokens. -/
theorem isSound (fuel : Nat) : IsSound fuel := by
  induction fuel with
  | zero => exact ⟨nofun, nofun, nofun⟩
  | succ fuel sound => exact ⟨sound.value_succ, sound.items_succ, sound.members_succ⟩

end sound

/-- Tokens are read as a tree exactly if they are its tokens. -/
theorem ofTokens?_eq_some_iff {input : List Token} {source : Source} :
    ofTokens? input = some source ↔ input = source.tokens := by
  rw [ofTokens?]
  constructor
  · intro read
    split at read
    · next found whole =>
      cases read
      rw [(isSound _).value whole, List.append_nil]
    · cases read
  · rintro rfl
    have read := reads source (2 * source.tokens.length + 1) [] (by omega)
    rw [List.append_nil] at read
    rw [read]

end Campus.Json.Source
