import FastCgi.Dictionary

/-!
# Listings of dictionaries

A map is gone through in an order that nothing is known of, so what is seen of it is a list that
gives every entry once (`Dictionary.Lists`). A dictionary does not keep that order: its entries are
in the order of the names from the beginning. Nothing is lost with it. A list of pairs is a listing
of a dictionary if and only if it is a permutation of the entries (`Dictionary.lists_iff_perm`), the
dictionary is read back from it (`Dictionary.ofList_of_perm`), and to sort it gives the entries
(`Dictionary.mergeSort_of_lists`).
-/

namespace FastCgi.Dictionary

variable {α : Type}

/-! ## Look-ups in lists -/

/-- In a list of increasing names, every entry is found by its name, and nothing else is. -/
theorem find?_eq_some_iff {entries : List (String × α)} (h : Increasing entries) {name : String}
    {value : α} : find? name entries = some value ↔ (name, value) ∈ entries := by
  induction entries with
  | nil => simp [find?]
  | cons head rest ih =>
    obtain ⟨key, old⟩ := head
    obtain ⟨hhead, hrest⟩ := List.pairwise_cons.1 h
    rw [find?, List.mem_cons]
    split
    next hname =>
      subst hname
      constructor
      · intro hold
        exact .inl (by rw [Option.some.inj hold])
      · rintro (heq | hmem)
        · rw [(Prod.mk.inj heq).2]
        · exact absurd (hhead _ hmem) (String.lt_irrefl _)
    next hname =>
      rw [ih hrest]
      exact ⟨.inr, fun hmem => hmem.resolve_left fun heq => hname (Prod.mk.inj heq).1⟩

/-- In a list of pairs without a name that occurs twice, every pair is found by its name. -/
theorem lookup_eq_some_iff {pairs : List (String × α)} (h : (pairs.map Prod.fst).Nodup)
    {name : String} {value : α} : pairs.lookup name = some value ↔ (name, value) ∈ pairs := by
  induction pairs with
  | nil => simp
  | cons pair rest ih =>
    obtain ⟨key, old⟩ := pair
    obtain ⟨hhead, hrest⟩ := List.nodup_cons.1 h
    rw [List.mem_cons]
    by_cases hname : name = key
    · subst hname
      rw [List.lookup_cons_self]
      constructor
      · intro hold
        exact .inl (by rw [Option.some.inj hold])
      · rintro (heq | hmem)
        · rw [(Prod.mk.inj heq).2]
        · exact absurd (List.mem_map_of_mem hmem) hhead
    · have hother : (name == key) = false := beq_eq_false_iff_ne.2 hname
      rw [List.lookup_cons, hother, ih hrest]
      exact ⟨.inr, fun hmem => hmem.resolve_left fun heq => hname (Prod.mk.inj heq).1⟩

/-! ## Look-ups in dictionaries -/

/-- Of several pairs with one name, a dictionary holds the last. -/
theorem get?_extend (d : Dictionary α) (pairs : List (String × α)) (name : String) :
    (d.extend pairs).get? name = (pairs.reverse.lookup name).or (d.get? name) := by
  induction pairs generalizing d with
  | nil => rfl
  | cons pair pairs ih =>
    obtain ⟨key, value⟩ := pair
    have hextend : d.extend ((key, value) :: pairs) = (d.insert key value).extend pairs := rfl
    rw [hextend, ih, List.reverse_cons, List.lookup_append, get?_insert]
    by_cases hname : name = key
    · cases pairs.reverse.lookup name <;> simp [hname]
    · have hother : (name == key) = false := beq_eq_false_iff_ne.2 hname
      cases pairs.reverse.lookup name <;> simp [List.lookup_cons, hother, hname]

/-- What a dictionary of a list of pairs has for a name is the last that the list has for it. -/
theorem get?_ofList (pairs : List (String × α)) (name : String) :
    (ofList pairs).get? name = pairs.reverse.lookup name := by
  rw [ofList, get?_extend, get?_empty, Option.or_none]

/-! ## Listings -/

/-- A list that gives every entry of a dictionary once, in any order. -/
structure Lists (d : Dictionary α) (listing : List (String × α)) : Prop where
  nodup : (listing.map Prod.fst).Nodup
  mem_iff {name : String} {value : α} : (name, value) ∈ listing ↔ d.get? name = some value

variable {d : Dictionary α} {listing : List (String × α)}

/-- No pair stands in a listing twice. -/
theorem Lists.nodup_pairs (h : d.Lists listing) : listing.Nodup :=
  List.Pairwise.of_map Prod.fst (fun _ _ hne heq => hne (congrArg Prod.fst heq)) h.nodup

/-- The entries are a listing, the one in the order of the names. -/
theorem lists_entries (d : Dictionary α) : d.Lists d.entries where
  nodup := by
    rw [List.Nodup, List.pairwise_map]
    refine d.increasing.imp ?_
    intro a b hlt heq
    rw [heq] at hlt
    exact String.lt_irrefl _ hlt
  mem_iff := (find?_eq_some_iff d.increasing).symm

/-- Listings are the permutations of the entries. -/
theorem lists_iff_perm : d.Lists listing ↔ listing.Perm d.entries := by
  have hentries := lists_entries d
  constructor
  · intro h
    refine (List.perm_ext_iff_of_nodup h.nodup_pairs hentries.nodup_pairs).2 ?_
    intro ⟨name, value⟩
    rw [h.mem_iff, hentries.mem_iff]
  · intro h
    refine ⟨(h.map Prod.fst).nodup_iff.2 hentries.nodup, ?_⟩
    intro name value
    rw [h.mem_iff, hentries.mem_iff]

/-- A dictionary is read back from its entries, in whatever order. -/
theorem ofList_of_perm {pairs : List (String × α)} (h : pairs.Perm d.entries) : ofList pairs = d := by
  have hback := lists_iff_perm.2 ((List.reverse_perm pairs).trans h)
  refine ext_get? fun name => Option.ext fun value => ?_
  rw [get?_ofList, lookup_eq_some_iff hback.nodup, hback.mem_iff]

/-! ## Sorting -/

/-- The order in which pairs of texts are sorted: that of the names, and of the values where the
names are the same. -/
def precedes (a b : String × String) : Bool := a.1 < b.1 || a.1 = b.1 && a.2 ≤ b.2

/-- The order is that of names first. -/
theorem precedes_iff {a b : String × String} :
    precedes a b = true ↔ a.1 < b.1 ∨ a.1 = b.1 ∧ a.2 ≤ b.2 := by
  simp [precedes]

/-- The order is transitive, whichever of the two comparisons decides. -/
theorem precedes_trans (a b c : String × String) (h : precedes a b = true)
    (h' : precedes b c = true) : precedes a c = true := by
  rw [precedes_iff] at h h' ⊢
  rcases h with hlt | ⟨heq, hle⟩ <;> rcases h' with hlt' | ⟨heq', hle'⟩
  · exact .inl (String.lt_trans hlt hlt')
  · exact .inl (heq' ▸ hlt)
  · exact .inl (heq ▸ hlt')
  · exact .inr ⟨heq.trans heq', String.le_trans hle hle'⟩

/-- Any two pairs are in order, one way or the other. -/
theorem precedes_total (a b : String × String) : (precedes a b || precedes b a) = true := by
  rw [Bool.or_eq_true, precedes_iff, precedes_iff]
  by_cases heq : a.1 = b.1
  · exact (String.le_total a.2 b.2).imp (fun h => .inr ⟨heq, h⟩) fun h => .inr ⟨heq.symm, h⟩
  · by_cases hlt : a.1 < b.1
    · exact .inl (.inl hlt)
    · exact .inr (.inl (lt_of_not_lt_of_ne hlt heq))

/-- Pairs that are in order both ways are the same, so that sorting leaves no choice. -/
theorem precedes_antisymm {a b : String × String} (h : precedes a b = true)
    (h' : precedes b a = true) : a = b := by
  rw [precedes_iff] at h h'
  rcases h with hlt | ⟨heq, hle⟩ <;> rcases h' with hlt' | ⟨heq', hle'⟩
  · exact absurd (String.lt_trans hlt hlt') (String.lt_irrefl _)
  · exact absurd (heq' ▸ hlt) (String.lt_irrefl _)
  · exact absurd (heq ▸ hlt') (String.lt_irrefl _)
  · exact Prod.ext heq (String.le_antisymm hle hle')

/-- Whatever order a map is gone through in, to sort what is found gives the entries. -/
theorem mergeSort_of_lists {d : Dictionary String} {listing : List (String × String)}
    (h : d.Lists listing) : listing.mergeSort precedes = d.entries := by
  have hsorted : (listing.mergeSort precedes).Pairwise fun a b => precedes a b = true :=
    List.pairwise_mergeSort precedes_trans precedes_total listing
  have hentries : d.entries.Pairwise fun a b => precedes a b = true :=
    d.increasing.imp fun {_ _} hlt => precedes_iff.2 (.inl hlt)
  have hperm : (listing.mergeSort precedes).Perm d.entries :=
    (List.mergeSort_perm listing precedes).trans (lists_iff_perm.1 h)
  refine hperm.eq_of_pairwise ?_ hsorted hentries
  intro a b _ _ h h'
  exact precedes_antisymm h h'

end FastCgi.Dictionary
