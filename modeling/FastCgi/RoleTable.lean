import FastCgi.Role.Authorizer
import FastCgi.Role.Responder

/-!
# The roles of a server

A server has a place for each role with a name, which may be empty. A request that asks for an empty
place, or for a role without a name, finds no application (`RoleTable.resolve?`).
-/

namespace FastCgi

/-- The applications of a server, by their roles. -/
structure RoleTable where
  /-- The application in the place of a role. -/
  factory? : RoleKind → Option RoleFactory

namespace RoleTable

/-- The table of empty places. -/
def empty : RoleTable := ⟨fun _ => none⟩

/-- Puts an application in its place, instead of the one that was there. -/
def register (table : RoleTable) (kind : RoleKind) (factory : RoleFactory) : RoleTable :=
  ⟨fun other => if other = kind then some factory else table.factory? other⟩

/-- Empties a place. -/
def unregister (table : RoleTable) (kind : RoleKind) : RoleTable :=
  ⟨fun other => if other = kind then none else table.factory? other⟩

/-- The application that answers to a number. -/
def resolve? (table : RoleTable) (id : UInt16) : Option RoleFactory :=
  (RoleKind.ofId? id).bind table.factory?

/-- The roles whose places are taken, in the order of their numbers. -/
def supported (table : RoleTable) : List RoleKind :=
  RoleKind.all.filter fun kind => (table.factory? kind).isSome

/-- A table as it is shown in messages, from number zero on. -/
def summary (table : RoleTable) : String :=
  let place (id : UInt16) := if (table.resolve? id).isSome then "Supported" else "Unsupported"
  "RoleRegistry \x7b slots: " ++ bracketed ([0, 1, 2, 3].map place) ++ " \x7d"

/-! ## Setting up a table -/

/-- A change to a table. -/
inductive Change where
  | register (kind : RoleKind) (factory : RoleFactory)
  | unregister (kind : RoleKind)

/-- The table after a change. -/
def apply (table : RoleTable) : Change → RoleTable
  | .register kind factory => table.register kind factory
  | .unregister kind => table.unregister kind

/-- The log entry about a change. Emptying a place is not worth one. -/
def Change.entry? : Change → Option Entry
  | register kind _ => some ⟨.info, .roles, s!"Registering role: {kind.name}"⟩
  | unregister _ => none

/-- The table after several changes to the empty one. -/
def ofChanges (changes : List Change) : RoleTable := changes.foldl apply empty

/-- The changes that set up the applications at hand: a responder and an authorizer. -/
def standard : List Change :=
  [.register .responder Responder.role, .register .authorizer Authorizer.role]

/-! ## Look-ups after a change -/

/-- To put an application in a place leaves the other places alone. -/
theorem factory?_register (table : RoleTable) (kind other : RoleKind) (factory : RoleFactory) :
    (table.register kind factory).factory? other =
      if other = kind then some factory else table.factory? other := rfl

/-- To empty a place leaves the other places alone. -/
theorem factory?_unregister (table : RoleTable) (kind other : RoleKind) :
    (table.unregister kind).factory? other =
      if other = kind then none else table.factory? other := rfl

end RoleTable

end FastCgi
