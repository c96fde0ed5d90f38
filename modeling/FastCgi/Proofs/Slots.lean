import FastCgi.RoleTable

/-!
# A table as a row of slots

The places of a table stand in a row, at the numbers of their roles, and no role has the number
zero. A request is looked up by its number in the row, which may be too short for it, and the roles
that are supported are found by going through the row from one end to the other. `Slots.Holds` says
that a row has the places of a table in it, each change to the two keeps it so
(`Slots.Holds.apply`), and both ways of reading the row then find what the table says
(`RoleTable.ofChanges_slots`).
-/

namespace FastCgi

namespace RoleKind

/-- The number of every role is within the row. -/
theorem id_lt (kind : RoleKind) : kind.id.toNat < 4 := by cases kind <;> decide

/-- No two roles have one number. -/
theorem id_inj {kind other : RoleKind} : kind.id.toNat = other.id.toNat ↔ kind = other := by
  rw [UInt16.toNat_inj]
  refine ⟨fun h => ?_, congrArg id⟩
  exact Option.some.inj ((ofId?_eq_some_iff.2 rfl).symm.trans (ofId?_eq_some_iff.2 h))

/-- The numbers in a row that are none of a role's are zero only. -/
theorem exists_id_eq {n : Nat} (hrow : n < 4) (hzero : n ≠ 0) :
    ∃ kind : RoleKind, kind.id.toNat = n := by
  match n with
  | 1 => exact ⟨.responder, rfl⟩
  | 2 => exact ⟨.authorizer, rfl⟩
  | 3 => exact ⟨.filter, rfl⟩

end RoleKind

/-- A row of places for applications, from number zero on. -/
abbrev Slots := Vector (Option RoleFactory) 4

namespace Slots

/-- The row of empty places. -/
def empty : Slots := .replicate 4 none

/-- The row after a change to the place of a role. -/
def apply (slots : Slots) : RoleTable.Change → Slots
  | .register kind factory => slots.set kind.id.toNat (some factory) kind.id_lt
  | .unregister kind => slots.set kind.id.toNat none kind.id_lt

/-- The application at a number. Behind the end of the row there is none. -/
def resolve? (slots : Slots) (role : UInt16) : Option RoleFactory := slots[role.toNat]?.getD none

/-- The roles of the numbers whose places are taken, in the order of the row. -/
def supported (slots : Slots) : List RoleKind :=
  (slots.toList.zipIdx.filter fun (slot, _) => slot.isSome).filterMap fun (_, n) =>
    if n < UInt16.size then RoleKind.ofId? (.ofNat n) else none

/-- A row that has the places of a table in it, and nothing at number zero. -/
structure Holds (slots : Slots) (table : RoleTable) : Prop where
  vacant : slots[0]? = some none
  place (kind : RoleKind) : slots[kind.id.toNat]? = some (table.factory? kind)

variable {slots : Slots} {table : RoleTable}

/-! ## Changes -/

/-- The row of empty places holds the table of empty places. -/
theorem holds_empty : empty.Holds .empty where
  vacant := rfl
  place kind := by cases kind <;> rfl

/-- What is put in the place of a role is put there, and nowhere else. -/
theorem Holds.set (h : slots.Holds table) {table' : RoleTable} {kind : RoleKind}
    {slot : Option RoleFactory}
    (hplace : ∀ other, table'.factory? other = if other = kind then slot else table.factory? other) :
    Holds (Vector.set slots kind.id.toNat slot kind.id_lt) table' where
  vacant := by
    have hzero : kind.id.toNat ≠ 0 := by cases kind <;> decide
    rw [Vector.getElem?_set_ne _ hzero]
    exact h.vacant
  place other := by
    rw [hplace, Vector.getElem?_set]
    simp only [RoleKind.id_inj, eq_comm (a := kind)]
    split
    next => rfl
    next => exact h.place other

/-- One step: a change to a table and to the row that holds it is the same change. -/
theorem Holds.apply (h : slots.Holds table) (change : RoleTable.Change) :
    (slots.apply change).Holds (table.apply change) := by
  cases change with
  | register kind factory => exact h.set fun other => table.factory?_register kind other factory
  | unregister kind => exact h.set fun other => table.factory?_unregister kind other

/-- Many steps. -/
theorem Holds.foldl (h : slots.Holds table) (changes : List RoleTable.Change) :
    (changes.foldl Slots.apply slots).Holds (changes.foldl RoleTable.apply table) := by
  induction changes generalizing slots table with
  | nil => exact h
  | cons change changes ih => exact ih (h.apply change)

/-! ## Reading the row -/

/-- A number is found in the row with the application that the table has for it. -/
theorem Holds.resolve?_eq (h : slots.Holds table) (role : UInt16) :
    slots.resolve? role = table.resolve? role := by
  rw [resolve?, RoleTable.resolve?]
  cases hkind : RoleKind.ofId? role with
  | some kind =>
    obtain rfl := RoleKind.ofId?_eq_some_iff.1 hkind
    rw [h.place]
    rfl
  | none =>
    rcases Nat.lt_or_ge role.toNat 4 with hrow | hbehind
    · by_cases hzero : role.toNat = 0
      · rw [hzero, h.vacant]
        rfl
      · obtain ⟨kind, hid⟩ := RoleKind.exists_id_eq hrow hzero
        rw [RoleKind.ofId?_eq_some_iff.2 (UInt16.toNat_inj.1 hid).symm] at hkind
        cases hkind
    · rw [Vector.getElem?_eq_none hbehind]
      rfl

/-- The row, place by place. -/
theorem Holds.toList_eq (h : slots.Holds table) :
    slots.toList = [none, table.factory? .responder, table.factory? .authorizer,
      table.factory? .filter] := by
  refine List.ext_getElem? fun n => ?_
  rw [Vector.getElem?_toList]
  match n with
  | 0 => exact h.vacant
  | 1 => exact h.place .responder
  | 2 => exact h.place .authorizer
  | 3 => exact h.place .filter
  | n + 4 => exact Vector.getElem?_eq_none (by omega)

/-- The roles that are met in the row are those that the table says are supported. -/
theorem Holds.supported_eq (h : slots.Holds table) : slots.supported = table.supported := by
  rw [supported, h.toList_eq, RoleTable.supported, RoleKind.all]
  cases hresponder : table.factory? .responder <;>
    cases hauthorizer : table.factory? .authorizer <;>
    cases hfilter : table.factory? .filter <;>
    simp [hresponder, hauthorizer, hfilter, RoleKind.ofId?, UInt16.size]

end Slots

/-- **A table is a row of slots.** After any changes, what is found in the row at a number is the
application that the table has for that number, the roles met in the row are those of the table, and
the place of number zero has never been taken. -/
theorem RoleTable.ofChanges_slots (changes : List Change) :
    let slots := changes.foldl Slots.apply .empty
    slots[0]? = some none ∧
      (∀ role, slots.resolve? role = (ofChanges changes).resolve? role) ∧
      slots.supported = (ofChanges changes).supported := by
  intro slots
  have h : slots.Holds (ofChanges changes) := Slots.holds_empty.foldl changes
  exact ⟨h.vacant, h.resolve?_eq, h.supported_eq⟩

end FastCgi
