import FastCgi.Dictionary
import FastCgi.Text.Quoted

/-!
# Services

Services are what the operator of a server puts at the disposal of its applications: named values
that are there from the start and do not change. A name may hold a value of any of the kinds below,
and an application that asks for a name asks for a kind as well, so that a value of another kind is
as good as none.
-/

namespace FastCgi

/-- The users whom an authorizer lets pass. -/
structure AllowList where
  users : List String
  /-- The name of the parameter that says who the user is. -/
  param : String
deriving DecidableEq, Repr, Inhabited

namespace AllowList

/-- The parameter that says who the user is, unless another one is chosen. -/
def defaultParam : String := "REMOTE_USER"

/-- Whether a user may pass. -/
def allows (list : AllowList) (user : String) : Bool := list.users.contains user

end AllowList

/-- A value that applications can use. -/
inductive Service where
  /-- A line to greet with. -/
  | greeting (text : String)
  | allowList (list : AllowList)
  | text (text : String)
  | number (n : Int)
deriving DecidableEq, Repr, Inhabited

/-- The services of a server. -/
abbrev Services := Dictionary Service

namespace Services

/-- The name of the line to greet with. -/
def greetingName : String := "greeting"

/-- The name of the list of users who may pass. -/
def allowListName : String := "authorized_users"

/-- The greeting of a name, if that is what the name holds. -/
def greeting? (services : Services) (name : String) : Option String :=
  match services.get? name with
  | some (.greeting text) => some text
  | _ => none

/-- The list of users of a name, if that is what the name holds. -/
def allowList? (services : Services) (name : String) : Option AllowList :=
  match services.get? name with
  | some (.allowList list) => some list
  | _ => none

/-- The text of a name, if that is what the name holds. -/
def text? (services : Services) (name : String) : Option String :=
  match services.get? name with
  | some (.text text) => some text
  | _ => none

/-- The number of a name, if that is what the name holds. -/
def number? (services : Services) (name : String) : Option Int :=
  match services.get? name with
  | some (.number n) => some n
  | _ => none

/-- The names of the services between brackets, in increasing order. -/
def nameList (services : Services) : String := bracketed (services.names.map quoted)

/-- Services as they are shown in messages. -/
def summary (services : Services) : String :=
  "ServiceRegistry \x7b services: " ++ nameList services ++ " \x7d"

end Services

end FastCgi
