import FastCgi.Role

/-!
# The echo responder

A responder that shows what it was asked: a greeting if there is one, the parameters in the order of
their names, the size of the body, and the body itself.
-/

namespace FastCgi.Responder

/-- The text before the body of the answer. -/
def text (context : Context) (services : Services) : String :=
  let greeting := match Services.greeting? services Services.greetingName with
    | some line => line ++ "\n"
    | none => ""
  let params := context.params.entries.map fun (name, value) => name ++ "=" ++ value ++ "\n"
  greeting ++ String.join params ++ s!"\n{context.stdin.size} byte body\n"

/-- The headers of an answer with so many bytes after them. -/
def headers (length : Nat) : String :=
  "Status: 200 OK\r\nContent-Type: text/plain; charset=utf-8\r\n" ++
    s!"Content-Length: {length}\r\n\r\n"

/-- Shows a request. -/
def run (context : Context) (services : Services) : Program Int32 :=
  let text := text context services
  let length := context.stdin.size
  .tell .debug .responder
    s!"Echoing request {context.id}: {context.params.size} params, {length} body bytes"
    (.print (headers (text.utf8ByteSize + length))
      (.print text
        (.stdout context.body
          (.done 0))))

/-- The echo responder. -/
def role : RoleFactory := fun context services => ⟨run context services, Program.flushOutput⟩

end FastCgi.Responder
