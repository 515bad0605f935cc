import Mathlib.Data.List.Chain
import Mathlib.Tactic.SplitIfs
import JavaConstants.Proofs.ClassTree
import JavaConstants.Proofs.DistinctKeys
import JavaConstants.Resource.Extract

/-!
# Locations of members in a document

Which members of a JSON document are written, told by where they stand. A location is made of keys
and indices, and `locations` are those of all members, in the order of the document
(`Distinct.mem_locations_iff`, `Distinct.pairwise_locations`). A member is written iff no two steps
to it in a row are keys and, below the top, arrays and the objects in them are followed
(`IsWritten`). The adapter adds the names of the members that are written, one by one in their order
(`extract_json_members`).

The functions that go through a document do not know the way they came, only whether it ended with a
key or with an index. So each of them has a statement of its own, about the locations inside a value
with that last step in front of them.
-/

namespace JavaConstants

namespace Json

/-! ## Locations -/

/-- A step from a container to what it holds. -/
inductive Step where
  /-- To the member with a name. -/
  | key (name : String)
  /-- To the item at an index, the first one being at zero. -/
  | index (i : Nat)
  deriving DecidableEq, Repr

/-- The steps from a value to one inside it, outermost first. -/
abbrev Location := List Step

/-- The name of the member at the end of a location, if its last step is a key. -/
def memberName? (l : Location) : Option String :=
  match l.getLast? with
  | some (.key name) => some name
  | _ => none

/-- What stands at a location of a value. -/
def Value.at? : Value → Location → Option Value
  | v, [] => some v
  | .object members, .key name :: l => (members.lookup name).bind (at? · l)
  | .array items, .index i :: l => items[i]?.bind (at? · l)
  | _, _ => none

/-- Whether a member stands at a location of a value. -/
def Value.HasMemberAt (v : Value) (l : Location) : Prop :=
  (memberName? l).isSome ∧ (v.at? l).isSome

/-- Document order. -/
inductive Precedes : Value → Location → Location → Prop where
  /-- A value comes before what is inside it. -/
  | inside {v : Value} {s : Step} {l : Location} : Precedes v [] (s :: l)
  /-- Inside a value, its own order counts. -/
  | deeper {v w : Value} {s : Step} {l l' : Location} (hat : v.at? [s] = some w)
    (h : Precedes w l l') : Precedes v (s :: l) (s :: l')
  /-- An item comes before later items. -/
  | item {items : List Value} {i j : Nat} {l l' : Location} (h : i < j) :
    Precedes (.array items) (.index i :: l) (.index j :: l')
  /-- A member comes before later members. -/
  | member {members : List (String × Value)} {name name' : String} {l l' : Location}
    (h : [name, name'].Sublist (members.map Prod.fst)) :
    Precedes (.object members) (.key name :: l) (.key name' :: l')

mutual

/-- The locations of the members inside a value, in the order of the document. -/
def locations : Value → List Location
  | .array items => locationsInItems 0 items
  | .object members => locationsInMembers members
  | .null | .bool _ | .number _ | .string _ => []

/-- The locations of the members inside items, the first of which has the index `i`. -/
def locationsInItems (i : Nat) : List Value → List Location
  | [] => []
  | item :: items => (locations item).map (.index i :: ·) ++ locationsInItems (i + 1) items

/-- The locations of members, each followed by those inside its value. -/
def locationsInMembers : List (String × Value) → List Location
  | [] => []
  | (name, value) :: members =>
    [.key name] :: ((locations value).map (.key name :: ·) ++ locationsInMembers members)

end

/-- Whether two steps are not both keys. -/
def Step.Alternates : Step → Step → Prop
  | .key _, .key _ => False
  | _, _ => True

instance : DecidableRel Step.Alternates
  | .key _, .key _ => inferInstanceAs (Decidable False)
  | .key _, .index _ => inferInstanceAs (Decidable True)
  | .index _, .key _ => inferInstanceAs (Decidable True)
  | .index _, .index _ => inferInstanceAs (Decidable True)

/-- Whether the member at a location is written. -/
def IsWritten (o : JsonOptions) (l : Location) : Prop :=
  l.IsChain Step.Alternates ∧ (1 < l.length → o.writeArray = true ∧ o.recursive = true)

instance (o : JsonOptions) (l : Location) : Decidable (IsWritten o l) :=
  inferInstanceAs (Decidable (_ ∧ _))

/-! ## The locations of the members -/

theorem mem_locationsInItems_iff {i : Nat} {items : List Value} {l : Location} :
    l ∈ locationsInItems i items ↔
      ∃ j item l', items[j]? = some item ∧ l' ∈ locations item ∧ l = .index (i + j) :: l' := by
  induction items generalizing i with
  | nil => simp [locationsInItems]
  | cons item items ih =>
    rw [locationsInItems, List.mem_append, List.mem_map, ih]
    constructor
    · rintro (⟨l', hl', rfl⟩ | ⟨j, item', l', hj, hl', rfl⟩)
      · exact ⟨0, item, l', rfl, hl', rfl⟩
      · exact ⟨j + 1, item', l', hj, hl', by rw [Nat.add_assoc, Nat.add_comm 1]⟩
    · rintro ⟨_ | j, item', l', hj, hl', rfl⟩
      · cases hj
        exact .inl ⟨l', hl', rfl⟩
      · exact .inr ⟨j, item', l', hj, hl', by rw [Nat.add_assoc, Nat.add_comm 1]⟩

theorem mem_locationsInMembers_iff {members : List (String × Value)} {l : Location} :
    l ∈ locationsInMembers members ↔
      ∃ m ∈ members, ∃ l', (l' = [] ∨ l' ∈ locations m.2) ∧ l = .key m.1 :: l' := by
  induction members with
  | nil => simp [locationsInMembers]
  | cons m members ih =>
    rw [locationsInMembers, List.mem_cons, List.mem_append, List.mem_map, ih,
      List.exists_mem_cons_iff]
    constructor
    · rintro (rfl | ⟨l', hl', rfl⟩ | h)
      · exact .inl ⟨[], .inl rfl, rfl⟩
      · exact .inl ⟨l', .inr hl', rfl⟩
      · exact .inr h
    · rintro (⟨l', rfl | hl', rfl⟩ | h)
      · exact .inl rfl
      · exact .inr (.inl ⟨l', hl', rfl⟩)
      · exact .inr (.inr h)

theorem memberName?_cons {s : Step} {l : Location} (hl : l ≠ []) :
    memberName? (s :: l) = memberName? l := by
  obtain ⟨s', l, rfl⟩ := List.exists_cons_of_ne_nil hl
  rw [memberName?, memberName?, List.getLast?_cons_cons]

theorem hasMemberAt_cons_iff {v w : Value} {s : Step} {l : Location}
    (hat : v.at? (s :: l) = w.at? l) :
    v.HasMemberAt (s :: l) ↔ (∃ name, s = .key name ∧ l = []) ∨ w.HasMemberAt l := by
  rw [Value.HasMemberAt, Value.HasMemberAt, hat]
  cases l with
  | nil => cases s <;> simp [memberName?, Value.at?]
  | cons s' l =>
    rw [memberName?_cons (List.cons_ne_nil s' l)]
    simp

theorem hasMemberAt_array_iff {items : List Value} {l : Location} :
    (Value.array items).HasMemberAt l ↔
      ∃ i item l', items[i]? = some item ∧ item.HasMemberAt l' ∧ l = .index i :: l' := by
  have hat {i : Nat} {item : Value} (hitem : items[i]? = some item) (l : Location) :
      (Value.array items).at? (.index i :: l) = item.at? l := by
    rw [Value.at?, hitem, Option.bind_some]
  constructor
  · intro h
    cases l with
    | nil => cases h.1
    | cons s l =>
      cases s with
      | key => cases h.2
      | index i =>
        obtain ⟨item, hitem⟩ : ∃ item, items[i]? = some item := by
          refine Option.ne_none_iff_exists'.mp fun hnone ↦ ?_
          rw [Value.HasMemberAt, Value.at?, hnone] at h
          cases h.2
        refine ⟨i, item, l, hitem, ?_, rfl⟩
        exact ((hasMemberAt_cons_iff (hat hitem l)).mp h).resolve_left nofun
  · rintro ⟨i, item, l', hitem, h, rfl⟩
    exact (hasMemberAt_cons_iff (hat hitem l')).mpr (.inr h)

theorem hasMemberAt_object_iff {members : List (String × Value)} {l : Location} :
    (Value.object members).HasMemberAt l ↔
      ∃ name v l', members.lookup name = some v ∧ (l' = [] ∨ v.HasMemberAt l') ∧
        l = .key name :: l' := by
  have hat {name : String} {v : Value} (hv : members.lookup name = some v) (l : Location) :
      (Value.object members).at? (.key name :: l) = v.at? l := by
    rw [Value.at?, hv, Option.bind_some]
  constructor
  · intro h
    cases l with
    | nil => cases h.1
    | cons s l =>
      cases s with
      | index => cases h.2
      | key name =>
        obtain ⟨v, hv⟩ : ∃ v, members.lookup name = some v := by
          refine Option.ne_none_iff_exists'.mp fun hnone ↦ ?_
          rw [Value.HasMemberAt, Value.at?, hnone] at h
          cases h.2
        refine ⟨name, v, l, hv, ?_, rfl⟩
        exact ((hasMemberAt_cons_iff (hat hv l)).mp h).imp_left fun ⟨_, _, hl⟩ ↦ hl
  · rintro ⟨name, v, l', hv, h, rfl⟩
    exact (hasMemberAt_cons_iff (hat hv l')).mpr (h.imp_left fun hl ↦ ⟨name, rfl, hl⟩)

theorem not_hasMemberAt_of_at? {v : Value} (hat : ∀ s l, v.at? (s :: l) = none) (l : Location) :
    ¬v.HasMemberAt l := by
  intro h
  cases l with
  | nil => cases h.1
  | cons s l =>
    rw [Value.HasMemberAt, hat] at h
    cases h.2

/-- The locations of a value are those where a member stands. -/
theorem Distinct.mem_locations_iff {v : Value} (h : Distinct v) (l : Location) :
    l ∈ locations v ↔ v.HasMemberAt l := by
  induction h generalizing l with
  | null | bool | number | string =>
    rw [locations]
    exact iff_of_false List.not_mem_nil (not_hasMemberAt_of_at? (by simp [Value.at?]) l)
  | array h ih =>
    rw [locations, mem_locationsInItems_iff, hasMemberAt_array_iff]
    refine exists_congr fun i ↦ exists_congr fun item ↦ exists_congr fun l' ↦
      and_congr_right fun hitem ↦ ?_
    rw [ih item (List.mem_of_getElem? hitem), Nat.zero_add]
  | @object members hnodup h ih =>
    have hlookup {name : String} {v : Value} :
        (name, v) ∈ members ↔ members.lookup name = some v :=
      ⟨lookup_of_mem hnodup, mem_of_lookup⟩
    rw [locations, mem_locationsInMembers_iff, hasMemberAt_object_iff, Prod.exists]
    refine exists_congr fun name ↦ exists_congr fun v ↦ ?_
    rw [hlookup, ← exists_and_left]
    refine exists_congr fun l' ↦ and_congr_right fun hv ↦ ?_
    rw [ih (name, v) (hlookup.mpr hv)]

/-! ## Their order

The locations inside some members begin with different steps or lie inside one member, and in the
second case they are in order by induction. The order of a document is one of positions, so the
members in front are kept in the statements. -/

theorem ne_nil_of_mem_locations {v : Value} {l : Location} (h : l ∈ locations v) : l ≠ [] := by
  cases v with
  | null | bool | number | string =>
    rw [locations] at h
    cases h
  | array =>
    rw [locations] at h
    obtain ⟨_, _, _, _, _, rfl⟩ := mem_locationsInItems_iff.mp h
    exact List.cons_ne_nil _ _
  | object =>
    rw [locations] at h
    obtain ⟨_, _, _, _, rfl⟩ := mem_locationsInMembers_iff.mp h
    exact List.cons_ne_nil _ _

/-- The locations inside the last items of an array. The items in front of them stay in the
statement, since both indices and document order are about the whole array. -/
theorem pairwise_locationsInItems {items : List Value}
    (ih : ∀ v ∈ items, (locations v).Pairwise (Precedes v)) (front back : List Value)
    (hitems : front ++ back = items) :
    (locationsInItems front.length back).Pairwise (Precedes (.array items)) := by
  induction back generalizing front with
  | nil => exact .nil
  | cons v back ihback =>
    have hv : items[front.length]? = some v := by rw [← hitems]; simp
    rw [locationsInItems, List.pairwise_append, List.pairwise_map]
    refine ⟨?_, ?_, ?_⟩
    · exact (ih v (List.mem_of_getElem? hv)).imp fun h ↦ .deeper (by simp [Value.at?, hv]) h
    · have hback := ihback (front ++ [v]) (by rw [← hitems]; simp)
      rwa [List.length_append, List.length_singleton] at hback
    · intro l hl l' hl'
      obtain ⟨l, _, rfl⟩ := List.mem_map.mp hl
      obtain ⟨j, _, l', _, _, rfl⟩ := mem_locationsInItems_iff.mp hl'
      apply Precedes.item
      omega

theorem pairwise_locationsInMembers {members : List (String × Value)}
    (hnodup : (members.map Prod.fst).Nodup)
    (ih : ∀ m ∈ members, (locations m.2).Pairwise (Precedes m.2))
    (front back : List (String × Value)) (hmembers : front ++ back = members) :
    (locationsInMembers back).Pairwise (Precedes (.object members)) := by
  induction back generalizing front with
  | nil => exact .nil
  | cons m back ihback =>
    have hm : m ∈ members := by rw [← hmembers]; simp
    have hat : (Value.object members).at? [.key m.1] = some m.2 := by
      rw [Value.at?, lookup_of_mem hnodup hm, Option.bind_some, Value.at?]
    -- Whatever is at the member or inside its value comes before what the later members hold.
    have hlater : ∀ l, ∀ l' ∈ locationsInMembers back,
        Precedes (.object members) (.key m.1 :: l) l' := by
      intro l l' hl'
      obtain ⟨m', hm', l', _, rfl⟩ := mem_locationsInMembers_iff.mp hl'
      have hsub : [m, m'].Sublist (m :: back) := .cons_cons m (List.singleton_sublist.mpr hm')
      have hsub' : [m, m'].Sublist members := by
        rw [← hmembers]
        exact hsub.trans (List.sublist_append_right _ _)
      exact .member (hsub'.map Prod.fst)
    rw [locationsInMembers, List.pairwise_cons, List.pairwise_append, List.pairwise_map]
    refine ⟨?_, ?_, ?_, ?_⟩
    · intro l hl
      rcases List.mem_append.mp hl with hl | hl
      · obtain ⟨l', hl', rfl⟩ := List.mem_map.mp hl
        obtain ⟨s, l, rfl⟩ := List.exists_cons_of_ne_nil (ne_nil_of_mem_locations hl')
        exact .deeper hat .inside
      · exact hlater [] l hl
    · exact (ih m hm).imp fun h ↦ .deeper hat h
    · exact ihback (front ++ [m]) (by rw [← hmembers]; simp)
    · intro l hl l' hl'
      obtain ⟨l, _, rfl⟩ := List.mem_map.mp hl
      exact hlater l l' hl'

/-- The locations of a value are in document order. -/
theorem Distinct.pairwise_locations {v : Value} (h : Distinct v) :
    (locations v).Pairwise (Precedes v) := by
  induction h with
  | null | bool | number | string =>
    rw [locations]
    exact .nil
  | array h ih =>
    rw [locations]
    exact pairwise_locationsInItems ih [] _ rfl
  | object hnodup h ih =>
    rw [locations]
    exact pairwise_locationsInMembers hnodup ih [] _ rfl

/-! ## The keys that are written

The functions of the adapter choose among the locations by their first steps. Each has one
equation, between the names it gives and the names at the locations chosen. -/

variable {o : JsonOptions} {l : Location}

theorem isWritten_singleton (name : String) : IsWritten o [.key name] :=
  ⟨List.isChain_singleton _, fun h ↦ absurd h (Nat.lt_irrefl 1)⟩

theorem isWritten_cons_index_iff (hl : l ≠ []) (s : Step) (i : Nat) :
    IsWritten o (s :: .index i :: l) ↔ IsWritten o (.index i :: l) := by
  have hs : Step.Alternates s (.index i) := by rcases s <;> trivial
  have hlength : 0 < l.length := List.length_pos_iff.mpr hl
  simp only [IsWritten, List.isChain_cons_cons, hs, true_and, List.length_cons]
  exact and_congr_right fun _ ↦ imp_congr_left (by omega)

/-- A member inside an item is written like one at the top if arrays and the objects in them are
followed. -/
theorem isWritten_index_cons_iff (hl : l ≠ []) (i : Nat) :
    IsWritten o (.index i :: l) ↔ IsWritten o l ∧ o.writeArray = true ∧ o.recursive = true := by
  obtain ⟨s, l, rfl⟩ := List.exists_cons_of_ne_nil hl
  have hs : Step.Alternates (.index i) s := by rcases s <;> trivial
  simp only [IsWritten, List.isChain_cons_cons, hs, true_and, List.length_cons]
  exact ⟨fun h ↦ ⟨⟨h.1, fun _ ↦ h.2 (by omega)⟩, h.2 (by omega)⟩, fun h ↦ ⟨h.1.1, fun _ ↦ h.2⟩⟩

theorem not_isWritten_key_cons_key (name name' : String) :
    ¬IsWritten o (.key name :: .key name' :: l) := fun h ↦
  (List.isChain_cons_cons.mp h.1).1

theorem map_memberName?_filter_map_cons (p : Location → Bool) (s : Step) (v : Value) :
    (((locations v).map (s :: ·)).filter p).map memberName? =
      ((locations v).filter fun l ↦ p (s :: l)).map memberName? := by
  rw [List.filter_map, List.map_map]
  refine List.map_congr_left fun l hl ↦ ?_
  exact memberName?_cons (ne_nil_of_mem_locations (List.mem_of_mem_filter hl))

mutual

theorem map_some_keysOfItem (hw : o.writeArray = true) (i : Nat) : ∀ v : Value,
    (keysOfItem o v).map some =
      ((locations v).filter fun l ↦ IsWritten o (.index i :: l)).map memberName?
  | .null | .bool _ | .number _ | .string _ => by simp [keysOfItem, locations]
  | .array items => by
    rw [keysOfItem, if_pos hw, locations, map_some_keysOfItems hw 0 items]
    refine congrArg _ (List.filter_congr fun l hl ↦ ?_)
    obtain ⟨j, item, l', _, hl', rfl⟩ := mem_locationsInItems_iff.mp hl
    rw [decide_eq_decide, isWritten_cons_index_iff (ne_nil_of_mem_locations hl')]
  | .object members => by
    have hne : ∀ l ∈ locationsInMembers members, l ≠ [] := fun l hl ↦
      ne_nil_of_mem_locations (v := .object members) (by rwa [locations])
    rw [keysOfItem, locations]
    by_cases hr : o.recursive = true
    · rw [if_pos hr, map_some_keysOfMembers members]
      refine congrArg _ (List.filter_congr fun l hl ↦ ?_)
      rw [decide_eq_decide, isWritten_index_cons_iff (hne l hl), and_iff_left ⟨hw, hr⟩]
    · rw [if_neg hr, List.map_nil, List.filter_eq_nil_iff.mpr, List.map_nil]
      intro l hl
      rw [decide_eq_true_eq, isWritten_index_cons_iff (hne l hl)]
      exact fun h ↦ hr h.2.2

theorem map_some_keysOfItems (hw : o.writeArray = true) (i : Nat) : ∀ items : List Value,
    (keysOfItems o items).map some =
      ((locationsInItems i items).filter (IsWritten o ·)).map memberName?
  | [] => by rw [keysOfItems, locationsInItems]; rfl
  | item :: items => by
    rw [keysOfItems, locationsInItems, List.map_append, List.filter_append, List.map_append,
      map_memberName?_filter_map_cons, map_some_keysOfItem hw i item,
      map_some_keysOfItems hw (i + 1) items]

theorem map_some_keysOfMember (name : String) : ∀ v : Value,
    (keysOfMember o v).map some =
      ((locations v).filter fun l ↦ IsWritten o (.key name :: l)).map memberName?
  | .null | .bool _ | .number _ | .string _ => by simp [keysOfMember, locations]
  | .array items => by
    rw [keysOfMember, locations]
    by_cases hw : o.writeArray = true
    · rw [if_pos hw, map_some_keysOfItems hw 0 items]
      refine congrArg _ (List.filter_congr fun l hl ↦ ?_)
      obtain ⟨j, item, l', _, hl', rfl⟩ := mem_locationsInItems_iff.mp hl
      rw [decide_eq_decide, isWritten_cons_index_iff (ne_nil_of_mem_locations hl')]
    · rw [if_neg hw, List.map_nil, List.filter_eq_nil_iff.mpr, List.map_nil]
      intro l hl
      obtain ⟨j, item, l', _, hl', rfl⟩ := mem_locationsInItems_iff.mp hl
      have hne := ne_nil_of_mem_locations hl'
      rw [decide_eq_true_eq, isWritten_cons_index_iff hne, isWritten_index_cons_iff hne]
      exact fun h ↦ hw h.2.1
  | .object members => by
    -- An object right in a member is not followed: every location in it has two keys in a row.
    have hnone : keysOfMember o (.object members) = [] := by simp [keysOfMember]
    rw [hnone, locations, List.map_nil, List.filter_eq_nil_iff.mpr, List.map_nil]
    intro l hl
    obtain ⟨m, _, l', _, rfl⟩ := mem_locationsInMembers_iff.mp hl
    rw [decide_eq_true_eq]
    exact not_isWritten_key_cons_key name m.1

theorem map_some_keysOfMembers : ∀ members : List (String × Value),
    (keysOfMembers o members).map some =
      ((locationsInMembers members).filter (IsWritten o ·)).map memberName?
  | [] => by rw [keysOfMembers, locationsInMembers]; rfl
  | (name, v) :: members => by
    rw [keysOfMembers, locationsInMembers, List.filter_cons_of_pos, List.filter_append,
      List.map_cons, List.map_cons, List.map_append, List.map_append,
      map_memberName?_filter_map_cons, map_some_keysOfMember name v,
      map_some_keysOfMembers members]
    · rfl
    · exact decide_eq_true (isWritten_singleton name)

end

end Json

open Json

/-- A file that holds an object: its locations are those of all members in document order, and the
names at those that are written are added one by one, in that order. -/
theorem extract_json_members {f : ResourceFile} {bytes : List UInt8}
    (hbytes : f.content = .ok bytes) {members : List (String × Value)}
    (hparse : parse bytes = .ok (.object members)) (o : JsonOptions) (options : ExtractOptions)
    (scope : List String) (h : Harvest) :
    (∀ l, l ∈ locations (.object members) ↔ (Value.object members).HasMemberAt l) ∧
      (locations (.object members)).Pairwise (Precedes (.object members)) ∧
      ∃ keys : List String,
        keys.map some = ((locations (.object members)).filter (IsWritten o ·)).map memberName? ∧
        (FormatAdapter.json o).extract options scope f h =
          .ok () (keys.foldl (Harvest.addKey options.uppercaseFields scope) h) := by
  have hdistinct := distinct_of_parse hparse
  refine ⟨hdistinct.mem_locations_iff, hdistinct.pairwise_locations,
    keysOfMembers o members, ?_, ?_⟩
  · rw [locations, map_some_keysOfMembers]
  · have hread : f.read = .ok bytes := by rw [ResourceFile.read, hbytes]; rfl
    have hvalue : liftFile ((parse bytes).mapError (f.broken <| .json ·)) =
        (pure (.object members) : Harvesting Value) := by rw [hparse]; rfl
    have hextract : (FormatAdapter.json o).extract options scope f = modify
        (·.addKeys options.uppercaseFields scope (keysOfMembers o members)) := by
      rw [FormatAdapter.extract, hread]
      change (liftFile ((parse bytes).mapError _) >>= _) = _
      rw [hvalue]
      rfl
    rw [hextract]
    rfl

/-- The object with an array in it that holds an object with another one in it. -/
def nestedBytes : List UInt8 := "\x7b\"a\":[\x7b\"b\":\x7b\"c\":0\x7d\x7d]\x7d".toUTF8.toList

theorem parse_nestedBytes : parse nestedBytes =
    .ok (.object [("a", .array [.object [("b", .object [("c", .number 0)])]])]) := by
  cbv

/-- The member at the top and the one in the array are written, the one in the object is not. -/
theorem extract_json_members_nested :
    (FormatAdapter.json { recursive := true, writeArray := true }).extract {} []
        ⟨.ofNames ["a.json"], "a.json", .ok nestedBytes⟩ (.start "R") =
      .ok () (["a", "b"].foldl (Harvest.addKey false []) (.start "R")) := by
  obtain ⟨-, -, keys, hkeys, hextract⟩ :=
    extract_json_members (f := ⟨.ofNames ["a.json"], "a.json", .ok nestedBytes⟩) rfl
      parse_nestedBytes { recursive := true, writeArray := true } {} [] (.start "R")
  have hnames : keys.map some = ["a", "b"].map some := hkeys.trans (by decide)
  rw [hextract, List.map_injective_iff.mpr (Option.some_injective _) hnames]

end JavaConstants
