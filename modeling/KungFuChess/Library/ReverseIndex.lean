import Mathlib.Data.List.AList

/-!
# Reverse indexes

A dictionary that is kept beside a relation between keys and values, so that the
value of a key is found without a search. `Indexes` states that the dictionary and
the relation say the same; the rules below tell how inserting and erasing keys
changes the relation that is indexed.

The relation is often membership: a table of groups is stored under identifiers,
and a key is related to the identifier of a group it belongs to (`Located`). The
rules `grow`, `shrink` and `drop` are about one group of such a table.
-/

set_option autoImplicit false

namespace ReverseIndex

variable {κ ρ : Type*} [DecidableEq κ] {index : AList fun _ : κ => ρ}

/-! ## Looking up -/

theorem lookup_insert (index : AList fun _ : κ => ρ) (key other : κ) (value : ρ) :
    (index.insert key value).lookup other =
      if other = key then some value else index.lookup other := by
  split
  · next same =>
      rw [same]
      exact AList.lookup_insert index
  · next distinct => exact AList.lookup_insert_ne distinct

theorem lookup_erase (index : AList fun _ : κ => ρ) (key other : κ) :
    (index.erase key).lookup other = if other = key then none else index.lookup other := by
  split
  · next same =>
      rw [same]
      exact AList.lookup_erase key index
  · next distinct => exact AList.lookup_erase_ne distinct

/-- Erase every key of a list. -/
def eraseAll (index : AList fun _ : κ => ρ) (keys : List κ) : AList fun _ : κ => ρ :=
  keys.foldl (fun shrunk key => shrunk.erase key) index

theorem lookup_eraseAll (keys : List κ) : ∀ (index : AList fun _ : κ => ρ) (other : κ),
    (eraseAll index keys).lookup other = if other ∈ keys then none else index.lookup other := by
  induction keys with
  | nil => exact fun _ _ => rfl
  | cons key rest ih =>
      intro index other
      rw [eraseAll, List.foldl_cons, ← eraseAll, ih, lookup_erase]
      by_cases here : other = key
      · rw [if_pos here, if_pos (List.mem_cons.mpr (.inl here)), ite_self]
      · rw [if_neg here]
        exact if_congr (by rw [List.mem_cons, or_iff_right here]) rfl rfl

theorem mem_eraseAll (index : AList fun _ : κ => ρ) (keys : List κ) (other : κ) :
    other ∈ eraseAll index keys ↔ other ∈ index ∧ other ∉ keys := by
  rw [← AList.lookup_isSome, ← AList.lookup_isSome, lookup_eraseAll]
  split
  · next erased => exact iff_of_false Bool.false_ne_true fun both => both.2 erased
  · next kept => exact (and_iff_left kept).symm

omit [DecidableEq κ] in
/-- A dictionary without keys is empty. -/
theorem eq_empty_of_forall_not_mem (none : ∀ key, key ∉ index) : index = ∅ := by
  refine AList.ext (List.eq_nil_iff_forall_not_mem.mpr fun entry member => ?_)
  exact none entry.1 (AList.mem_keys.mp (List.mem_map_of_mem member))

/-! ## Agreement -/

/-- The dictionary holds exactly the pairs of the relation. -/
def Indexes (index : AList fun _ : κ => ρ) (related : κ → ρ → Prop) : Prop :=
  ∀ key value, index.lookup key = some value ↔ related key value

namespace Indexes

variable {related : κ → ρ → Prop}

theorem empty (none : ∀ key value, ¬ related key value) :
    Indexes (∅ : AList fun _ : κ => ρ) related :=
  fun key value => iff_of_false
    (by rw [AList.lookup_empty]; exact Option.some_ne_none value ∘ Eq.symm)
    (none key value)

/-- What is indexed is a partial function. -/
theorem unique (agrees : Indexes index related) {key : κ} {value other : ρ}
    (first : related key value) (second : related key other) : value = other :=
  Option.some.inj (((agrees key value).mpr first).symm.trans ((agrees key other).mpr second))

/-- A key that is not in the dictionary is related to nothing. -/
theorem unrelated (agrees : Indexes index related) {key : κ} (absent : key ∉ index) (value : ρ) :
    ¬ related key value := fun here => by
  rw [← agrees key value, AList.lookup_eq_none.mpr absent] at here
  exact Option.some_ne_none value here.symm

theorem congr (agrees : Indexes index related) {other : κ → ρ → Prop}
    (same : ∀ key value, related key value ↔ other key value) : Indexes index other :=
  fun key value => (agrees key value).trans (same key value)

/-- A key that was related to nothing gets a value. -/
theorem insert (agrees : Indexes index related) {key : κ} (absent : key ∉ index) (value : ρ) :
    Indexes (index.insert key value)
      fun other found => related other found ∨ (other = key ∧ found = value) := by
  intro other found
  rw [lookup_insert]
  by_cases here : other = key
  · subst here
    rw [if_pos rfl, Option.some.injEq]
    exact ⟨fun same => .inr ⟨rfl, same.symm⟩, fun either =>
      (either.resolve_left (agrees.unrelated absent found)).2.symm⟩
  · rw [if_neg here, agrees other found]
    exact (or_iff_left fun new => here new.1).symm

/-- Erased keys are related to nothing. -/
theorem eraseAll (agrees : Indexes index related) (keys : List κ) :
    Indexes (ReverseIndex.eraseAll index keys) fun key value => related key value ∧ key ∉ keys := by
  intro key value
  rw [lookup_eraseAll]
  by_cases erased : key ∈ keys
  · rw [if_pos erased]
    exact iff_of_false (Option.some_ne_none value ∘ Eq.symm) fun kept => kept.2 erased
  · rw [if_neg erased, agrees key value]
    exact (and_iff_left erased).symm

theorem erase (agrees : Indexes index related) (key : κ) :
    Indexes (index.erase key) fun other value => related other value ∧ other ≠ key :=
  (agrees.eraseAll [key]).congr fun other value => by rw [List.mem_singleton]

end Indexes

/-! ## Members of stored groups -/

section Groups

variable {ι γ : Type*} [DecidableEq ι] {table : AList fun _ : ι => γ} {part : γ → κ → Prop}

/-- A key belongs to the group stored under an identifier. -/
def Located (table : AList fun _ : ι => γ) (part : γ → κ → Prop) (key : κ) (id : ι) : Prop :=
  ∃ group, table.lookup id = some group ∧ part group key

omit [DecidableEq κ] in
theorem located_of_lookup {id : ι} {group : γ} (stored : table.lookup id = some group) (key : κ) :
    Located table part key id ↔ part group key :=
  ⟨fun ⟨_, found, member⟩ => Option.some.inj (stored.symm.trans found) ▸ member,
    fun member => ⟨group, stored, member⟩⟩

omit [DecidableEq κ] in
theorem not_located {id : ι} (absent : id ∉ table) (key : κ) : ¬ Located table part key id :=
  fun ⟨_, found, _⟩ => by
    rw [AList.lookup_eq_none.mpr absent] at found
    exact Option.some_ne_none _ found.symm

omit [DecidableEq κ] in
theorem located_insert (id found : ι) (group : γ) (key : κ) :
    Located (table.insert id group) part key found ↔
      if found = id then part group key else Located table part key found := by
  simp only [Located, lookup_insert]
  split
  · exact ⟨fun ⟨_, same, member⟩ => Option.some.inj same ▸ member, fun member =>
      ⟨group, rfl, member⟩⟩
  · rfl

omit [DecidableEq κ] in
theorem located_erase (id found : ι) (key : κ) :
    Located (table.erase id) part key found ↔ Located table part key found ∧ found ≠ id := by
  simp only [Located, lookup_erase]
  split
  · next same =>
      exact iff_of_false (fun ⟨_, impossible, _⟩ => Option.some_ne_none _ impossible.symm)
        fun kept => kept.2 same
  · next distinct => exact (and_iff_left distinct).symm

/-- Every stored group is as it should be. -/
def Filed (table : AList fun _ : ι => γ) (proper : ι → γ → Prop) : Prop :=
  ∀ id group, table.lookup id = some group → proper id group

namespace Filed

variable {proper : ι → γ → Prop}

theorem empty : Filed (∅ : AList fun _ : ι => γ) proper := fun id group found => by
  rw [AList.lookup_empty] at found
  exact absurd found.symm (Option.some_ne_none group)

theorem insert (filed : Filed table proper) {id : ι} {group : γ} (new : proper id group) :
    Filed (table.insert id group) proper := by
  intro other found stored
  rw [lookup_insert] at stored
  split at stored
  · next same => exact Option.some.inj stored ▸ same ▸ new
  · exact filed other found stored

theorem erase (filed : Filed table proper) (id : ι) : Filed (table.erase id) proper := by
  intro other found stored
  rw [lookup_erase] at stored
  split at stored
  · exact absurd stored.symm (Option.some_ne_none found)
  · exact filed other found stored

end Filed

namespace Indexes

variable {index : AList fun _ : κ => ι} {id : ι} {group : γ}

/-- **A group gains a key** that no group had. -/
theorem grow (agrees : Indexes index (Located table part)) {added : κ} (absent : added ∉ index)
    (members : ∀ key, part group key ↔ Located table part key id ∨ key = added) :
    Indexes (index.insert added id) (Located (table.insert id group) part) := by
  refine (agrees.insert absent id).congr fun key found => ?_
  rw [located_insert]
  split
  · next same =>
      subst same
      rw [members key, and_iff_left rfl]
  · next distinct => exact or_iff_left fun new => distinct new.2

/-- **A group loses keys** it had. -/
theorem shrink (agrees : Indexes index (Located table part)) (removed : List κ)
    (own : ∀ key ∈ removed, Located table part key id)
    (members : ∀ key, part group key ↔ Located table part key id ∧ key ∉ removed) :
    Indexes (ReverseIndex.eraseAll index removed) (Located (table.insert id group) part) := by
  refine (agrees.eraseAll removed).congr fun key found => ?_
  rw [located_insert]
  split
  · next same => rw [same, members key]
  · next distinct =>
      exact and_iff_left_of_imp fun here gone => distinct (agrees.unique here (own key gone))

/-- A group is changed, but not its members. -/
theorem keep (agrees : Indexes index (Located table part))
    (members : ∀ key, part group key ↔ Located table part key id) :
    Indexes index (Located (table.insert id group) part) :=
  agrees.shrink [] (fun _ impossible => absurd impossible List.not_mem_nil)
    fun key => (members key).trans (and_iff_left List.not_mem_nil).symm

/-- **A group is removed**, and all of its keys with it. -/
theorem drop (agrees : Indexes index (Located table part)) (removed : List κ)
    (members : ∀ key, key ∈ removed ↔ Located table part key id) :
    Indexes (ReverseIndex.eraseAll index removed) (Located (table.erase id) part) := by
  refine (agrees.eraseAll removed).congr fun key found => ?_
  rw [located_erase]
  refine and_congr_right fun here => not_congr ?_
  rw [members key]
  exact ⟨fun there => agrees.unique here there, fun same => same ▸ here⟩

end Indexes

end Groups

end ReverseIndex
