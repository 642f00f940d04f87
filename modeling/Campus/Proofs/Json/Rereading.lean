import Campus.Proofs.Json.Forms
import Campus.Proofs.Json.Rendering
/-!
# Rereading printed documents

The tokens of a document are read as the tree of the document, in which every text has its value and
every number has the value that its printed form is read as. So a printed document spells its own
tree.
-/

namespace Campus.Json

mutual

/-- The tree that a document is printed as. -/
def toSource : Json → Source
  | .null => .null
  | .bool value => .bool value
  | .number value => .number value.reread?
  | .text value => .text (some value)
  | .array items => .array (itemSources items)
  | .object members => .object (memberSources members)

/-- The trees of items. -/
def itemSources : List Json → List Source
  | [] => []
  | item :: rest => toSource item :: itemSources rest

/-- The trees of members, under their keys. -/
def memberSources : List (String × Json) → List (Option String × Source)
  | [] => []
  | (key, value) :: rest => (some key, toSource value) :: memberSources rest

end

mutual

/-- The tree of a document has the tokens of the document. -/
theorem tokens_toSource : ∀ doc : Json, doc.toSource.tokens = doc.tokens
  | .null | .bool _ | .number _ | .text _ => by rw [toSource, Source.tokens, tokens]
  | .array items => by rw [toSource, Source.tokens, tokens, itemTokens_itemSources items]
  | .object members => by rw [toSource, Source.tokens, tokens, memberTokens_memberSources members]

/-- The trees of items have the tokens of the items. -/
theorem itemTokens_itemSources :
    ∀ items : List Json, Source.itemTokens (itemSources items) = itemTokens items
  | [] => by rw [itemSources, Source.itemTokens, itemTokens]
  | [item] => by
    rw [itemSources, itemSources, Source.itemTokens, itemTokens, tokens_toSource item]
  | item :: next :: rest => by
    have later := itemTokens_itemSources (next :: rest)
    have split : itemTokens (item :: next :: rest) =
        item.tokens ++ .comma :: itemTokens (next :: rest) := by
      rw [itemTokens]
      exact List.cons_ne_nil _ _
    rw [itemSources] at later
    rw [itemSources, itemSources, Source.itemTokens_cons_cons, later, split, tokens_toSource item]

/-- The trees of members have the tokens of the members. -/
theorem memberTokens_memberSources : ∀ members : List (String × Json),
    Source.memberTokens (memberSources members) = memberTokens members
  | [] => by rw [memberSources, Source.memberTokens, memberTokens]
  | [(key, value)] => by
    rw [memberSources, memberSources, Source.memberTokens, memberTokens, tokens_toSource value]
  | (key, value) :: (nextKey, nextValue) :: rest => by
    have later := memberTokens_memberSources ((nextKey, nextValue) :: rest)
    have split : memberTokens ((key, value) :: (nextKey, nextValue) :: rest) =
        .text (some key) :: .colon ::
          (value.tokens ++ .comma :: memberTokens ((nextKey, nextValue) :: rest)) := by
      rw [memberTokens]
      exact List.cons_ne_nil _ _
    rw [memberSources] at later
    rw [memberSources, memberSources, Source.memberTokens_cons_cons, later, split,
      tokens_toSource value]

end

/-- The trees of items one by one. -/
theorem itemSources_eq_map (items : List Json) : itemSources items = items.map toSource := by
  induction items with
  | nil => rfl
  | cons item rest ih => rw [itemSources, ih, List.map_cons]

/-- The trees of members one by one. -/
theorem memberSources_eq_map (members : List (String × Json)) :
    memberSources members = members.map fun member => (some member.1, member.2.toSource) := by
  induction members with
  | nil => rfl
  | cons member rest ih => rw [memberSources, ih, List.map_cons]

/-- A required field is what is read of what stands under its name. -/
theorem Fields.required_eq {α β : Type} {fields : Fields α} {name : String} {read : α → Option β}
    {value : α} {result : β} (found : fields.entries.get? name = some value)
    (reads : read value = some result) : fields.required name read = some result := by
  rw [required, found, Option.bind_some, reads]

namespace Source

/-- A printed document spells its own tree. -/
theorem parse?_render {doc : Json} (writable : doc.IsWritable) :
    parse? (Bytes.ofText doc.render) = some doc.toSource := by
  rw [parse?, scan_of_scans (scans_render writable), Option.bind_some, ofTokens?_eq_some_iff,
    tokens_toSource]

section

variable {α β : Type} {elements : List α} {value : α → β}

/-- What is read of each of some written items is read of all. -/
theorem mapM_itemSources {write : α → Json} {read : Source → Option β}
    (each : ∀ element ∈ elements, read (write element).toSource = some (value element)) :
    (itemSources (elements.map write)).mapM read = some (elements.map value) := by
  rw [itemSources_eq_map, List.map_map, mapM_eq_some_iff_forall₂, List.forall₂_map_left_iff,
    List.forall₂_map_right_iff, List.forall₂_same]
  exact each

/-- What is read of each of some written members is read of all. -/
theorem mapM_memberSources {write : α → String × Json} {read : Option String × Source → Option β}
    (each : ∀ element ∈ elements,
      read (some (write element).1, (write element).2.toSource) = some (value element)) :
    (memberSources (elements.map write)).mapM read = some (elements.map value) := by
  rw [memberSources_eq_map, List.map_map, mapM_eq_some_iff_forall₂, List.forall₂_map_left_iff,
    List.forall₂_map_right_iff, List.forall₂_same]
  exact each

end

/-- The fields of an object that has exactly the declared ones. -/
theorem fields?_toSource {members : List (String × Json)} {declared : List String}
    (keys : members.map Prod.fst = declared) (distinct : declared.Nodup) :
    (Json.object members).toSource.fields? declared =
      some ⟨false, members.map fun member => (member.1, member.2.toSource)⟩ := by
  have keyed : (memberSources members).mapM (fun member => member.1.map fun key =>
      (key, member.2)) = some (members.map fun member => (member.1, member.2.toSource)) := by
    rw [memberSources_eq_map, Fields.keyed_eq_some_iff, List.map_map]
    rfl
  have known : (members.map fun member => (member.1, member.2.toSource)).filter
      (fun member => declared.contains member.1) =
        members.map fun member => (member.1, member.2.toSource) := by
    refine List.filter_eq_self.2 fun member isMember => ?_
    obtain ⟨original, held, rfl⟩ := List.mem_map.1 isMember
    rw [← keys]
    exact List.contains_iff_mem.2 (List.mem_map_of_mem held)
  have keysKept : (members.map fun member => (member.1, member.2.toSource)).map Prod.fst =
      declared := by
    rw [List.map_map, ← keys]
    rfl
  rw [toSource, fields?, Fields.ofMembers?, keyed]
  simp only [known, keysKept, if_pos distinct]

end Source
end Campus.Json
