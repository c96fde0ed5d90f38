import FastCgi.Role

/-!
# The authorizer

An authorizer that lets the users on a list pass. The list says which parameter names the user. The
answer to a user who may pass hands the name on to the next stage; anybody else is refused.
-/

namespace FastCgi.Authorizer

/-- The answer to a user who may pass. -/
def grantedAnswer (user : String) : String :=
  s!"Status: 200 OK\r\nVariable-AUTH_USER: {user}\r\n\r\n"

/-- The answer to anybody else. -/
def deniedAnswer : String :=
  "Status: 403 Forbidden\r\nContent-Type: text/plain\r\n\r\nForbidden\n"

/-- Who a request says its user is, as it is shown in a log entry. -/
def shown (user : Option String) : String := quoted (user.getD "<none>")

/-- Decides on a request by a list of users. -/
def decide (context : Context) (list : AllowList) : Program Int32 :=
  let user := context.param? list.param
  match user.filter list.allows with
  | some granted =>
    .tell .debug .authorizer s!"Authorized {quoted granted} for request {context.id}"
      (.print (grantedAnswer granted) (.done 0))
  | none =>
    .tell .info .authorizer s!"Denied {shown user} for request {context.id}"
      (.print deniedAnswer (.done 0))

/-- Decides on a request. Without a list of users there is nothing to decide by. -/
def run (context : Context) (services : Services) : Program Int32 :=
  match Services.allowList? services Services.allowListName with
  | none => .fail (.missingService Services.allowListName)
  | some list => decide context list

/-- The authorizer. -/
def role : RoleFactory := fun context services => ⟨run context services, Program.flushOutput⟩

end FastCgi.Authorizer
