/-!
# Dictionaries with names for keys

Parameters and services are looked up by name and listed in the order of their names. A dictionary
is therefore a list of entries in strictly increasing order of names, which makes it canonical: two
dictionaries that answer every look-up alike are equal (`Dictionary.ext_get?`). The order is that of
code points, which is also the order of the names' UTF-8 forms. `get?_insert` says what an insertion
changes.
-/

namespace FastCgi

/-- A list of entries whose names increase strictly. -/
abbrev Dictionary.Increasing {α : Type} (entries : List (String × α)) : Prop :=
  entries.Pairwise fun a b => a.1 < b.1

/-- A finite map from names to values. -/
structure Dictionary (α : Type) where
  /-- The entries, in increasing order of names. -/
  entries : List (String × α)
  /-- No name occurs twice, and the order is that of the names. -/
  increasing : Dictionary.Increasing entries

namespace Dictionary

variable {α : Type}

/-! ## Lists of entries -/

/-- The value that the first entry of a name holds. -/
def find? (name : String) : List (String × α) → Option α
  | [] => none
  | (key, value) :: rest => if name = key then some value else find? name rest

/-- Puts an entry at its place, over an entry of the same name. -/
def place (name : String) (value : α) : List (String × α) → List (String × α)
  | [] => [(name, value)]
  | (key, old) :: rest =>
    if name < key then (name, value) :: (key, old) :: rest
    else if name = key then (name, value) :: rest
    else (key, old) :: place name value rest

/-- Placing an entry adds no other one. -/
theorem mem_place {name : String} {value : α} {e : String × α} {entries : List (String × α)}
    (h : e ∈ place name value entries) : e = (name, value) ∨ e ∈ entries := by
  induction entries with
  | nil => simpa [place] using h
  | cons head rest ih =>
    obtain ⟨key, old⟩ := head
    simp only [place] at h
    split at h
    · simpa using h
    · split at h
      · simp only [List.mem_cons] at h ⊢
        exact h.imp_right Or.inr
      · simp only [List.mem_cons] at h ⊢
        rcases h with h | h
        · exact .inr (.inl h)
        · exact (ih h).imp_right Or.inr

/-- Texts are in a total order. -/
theorem lt_of_not_lt_of_ne {a b : String} (hlt : ¬a < b) (hne : a ≠ b) : b < a :=
  Decidable.byContradiction fun h => hne (String.le_antisymm (String.not_lt.1 h)
    (String.not_lt.1 hlt))

/-- An entry that is placed keeps the names in order, whether it is new or in place of another
one. -/
theorem Increasing.place {entries : List (String × α)} (h : Increasing entries) (name : String)
    (value : α) : Increasing (Dictionary.place name value entries) := by
  induction entries with
  | nil => exact List.pairwise_singleton _ _
  | cons head rest ih =>
    obtain ⟨key, old⟩ := head
    obtain ⟨hhead, hrest⟩ := List.pairwise_cons.1 h
    simp only [Dictionary.place]
    split
    next hlt =>
      refine List.pairwise_cons.2 ⟨fun e he => ?_, h⟩
      rcases List.mem_cons.1 he with rfl | he
      · exact hlt
      · exact String.lt_trans hlt (hhead e he)
    next hlt =>
      split
      next heq => exact List.pairwise_cons.2 ⟨heq ▸ hhead, hrest⟩
      next hne =>
        refine List.pairwise_cons.2 ⟨fun e he => ?_, ih hrest⟩
        rcases mem_place he with rfl | he
        · exact lt_of_not_lt_of_ne hlt hne
        · exact hhead e he

/-- An entry that is placed is found by its name, and all others are found as before. -/
theorem find?_place (name other : String) (value : α) (entries : List (String × α)) :
    find? other (place name value entries) =
      if other = name then some value else find? other entries := by
  induction entries with
  | nil => simp [place, find?]
  | cons head rest ih =>
    obtain ⟨key, old⟩ := head
    simp only [place]
    split
    · simp [find?]
    · split
      next heq => subst heq; simp only [find?]; split <;> rfl
      next hne =>
        simp only [find?, ih]
        by_cases hk : other = key
        · by_cases hn : other = name
          · exact absurd (hn.symm.trans hk) hne
          · simp [hk, Ne.symm hne]
        · simp [hk]

/-- A name that is below all of the list is not in it. -/
theorem find?_eq_none_of_lt {name : String} {entries : List (String × α)}
    (h : ∀ e ∈ entries, name < e.1) : find? name entries = none := by
  induction entries with
  | nil => rfl
  | cons head rest ih =>
    obtain ⟨key, old⟩ := head
    have hkey : name < key := h _ (.head _)
    have hne : name ≠ key := fun heq => String.lt_irrefl key (heq ▸ hkey)
    simp [find?, hne, ih fun e he => h e (.tail _ he)]

/-- Of two lists with the same look-ups, neither begins below the other: the name at its head would
be found in it only. -/
theorem Increasing.not_lt_of_find?_eq {a b : String × α} {rest rest' : List (String × α)}
    (h : Increasing (b :: rest')) (heq : ∀ name, find? name (a :: rest) = find? name (b :: rest')) :
    ¬a.1 < b.1 := by
  intro hlt
  have hnone : find? a.1 (b :: rest') = none := find?_eq_none_of_lt fun e he => by
    rcases List.mem_cons.1 he with rfl | he
    · exact hlt
    · exact String.lt_trans hlt ((List.pairwise_cons.1 h).1 e he)
  have hfound : find? a.1 (a :: rest) = some a.2 := by simp [find?]
  cases (hfound.symm.trans (heq a.1)).trans hnone

/-- The order leaves a list no choice: it follows from the look-ups. -/
theorem Increasing.eq_of_find?_eq {entries entries' : List (String × α)} (h : Increasing entries)
    (h' : Increasing entries') (heq : ∀ name, find? name entries = find? name entries') :
    entries = entries' := by
  induction entries generalizing entries' with
  | nil =>
    cases entries' with
    | nil => rfl
    | cons head rest => have := heq head.1; simp [find?] at this
  | cons head rest ih =>
    obtain ⟨key, value⟩ := head
    obtain ⟨hhead, hrest⟩ := List.pairwise_cons.1 h
    cases entries' with
    | nil => have := heq key; simp [find?] at this
    | cons head' rest' =>
      obtain ⟨key', value'⟩ := head'
      obtain ⟨hhead', hrest'⟩ := List.pairwise_cons.1 h'
      have hkey : key = key' := Decidable.byContradiction fun hne =>
        h.not_lt_of_find?_eq (fun name => (heq name).symm)
          (lt_of_not_lt_of_ne (h'.not_lt_of_find?_eq heq) hne)
      subst hkey
      have hvalue : value = value' := by simpa [find?] using heq key
      subst hvalue
      congr 1
      refine ih hrest hrest' fun name => ?_
      by_cases hn : name = key
      · subst hn
        rw [find?_eq_none_of_lt hhead, find?_eq_none_of_lt hhead']
      · simpa [find?, hn] using heq name

/-! ## Dictionaries -/

/-- The dictionary without entries. -/
def empty : Dictionary α := ⟨[], .nil⟩

instance : EmptyCollection (Dictionary α) := ⟨empty⟩

instance : Inhabited (Dictionary α) := ⟨empty⟩

/-- The value of a name, if it has one. -/
def get? (d : Dictionary α) (name : String) : Option α := find? name d.entries

/-- Whether a name has a value. -/
def contains (d : Dictionary α) (name : String) : Bool := (d.get? name).isSome

/-- Gives a name a value, in place of the one it had. -/
def insert (d : Dictionary α) (name : String) (value : α) : Dictionary α :=
  ⟨place name value d.entries, d.increasing.place name value⟩

/-- Inserts every pair of a list in turn, so that a later pair wins over an earlier one of the same
name. -/
def extend (d : Dictionary α) (pairs : List (String × α)) : Dictionary α :=
  pairs.foldl (fun d pair => d.insert pair.1 pair.2) d

/-- The dictionary of a list of pairs, of which later ones win. -/
def ofList (pairs : List (String × α)) : Dictionary α := empty.extend pairs

/-- The names, in increasing order. -/
def names (d : Dictionary α) : List String := d.entries.map Prod.fst

/-- The number of entries. -/
def size (d : Dictionary α) : Nat := d.entries.length

/-- Whether there are no entries. -/
def isEmpty (d : Dictionary α) : Bool := d.entries.isEmpty

@[simp]
theorem get?_empty (name : String) : (empty : Dictionary α).get? name = none := rfl

/-- An insertion changes what is found under its own name, and nothing else. -/
theorem get?_insert (d : Dictionary α) (name other : String) (value : α) :
    (d.insert name value).get? other = if other = name then some value else d.get? other :=
  find?_place name other value d.entries

/-- Two dictionaries that answer every look-up alike are equal. -/
theorem ext_get? {d d' : Dictionary α} (h : ∀ name, d.get? name = d'.get? name) : d = d' := by
  obtain ⟨entries, increasing⟩ := d
  obtain ⟨entries', increasing'⟩ := d'
  have : entries = entries' := increasing.eq_of_find?_eq increasing' h
  subst this
  rfl

@[simp]
theorem extend_nil (d : Dictionary α) : d.extend [] = d := rfl

/-- Pairs are inserted one after another, so a list of them may be cut anywhere. -/
theorem extend_append (d : Dictionary α) (pairs pairs' : List (String × α)) :
    d.extend (pairs ++ pairs') = (d.extend pairs).extend pairs' := by
  simp [extend]

end Dictionary

end FastCgi
