import FastCgi.Proofs.Completion
import FastCgi.Proofs.Sequence
import FastCgi.Proofs.Texts

/-!
# Whom the authorizer lets pass

The authorizer decides by two look-ups, of the list of users among the services and of the user
among the parameters, and each of them goes by the last of several entries of one name. `answer?` is
that decision on the services as they were registered and the pairs as they were sent. The account
of the authorizer is its answer and the end of the stream, or nothing but the end of the stream if
it has no list to decide by (`account_role`), and `serveAfter_authorizer` follows it from the
records of a request to the bytes on the connection.
-/

namespace FastCgi

namespace Authorizer

/-! ## The decision -/

/-- The answer to a request whose user is the given one, if it names any. -/
def verdict (list : AllowList) (user? : Option String) : String :=
  match user? with
  | some user => if user ∈ list.users then grantedAnswer user else deniedAnswer
  | none => deniedAnswer

/-- The answer to a request, by the services in the order in which they were registered and the
pairs in the order in which they were sent. There is none without a list of users. -/
def answer? (registrations : List (String × Service)) (pairs : List (String × String)) :
    Option String :=
  match registrations.reverse.lookup Services.allowListName with
  | some (.allowList list) => some (verdict list (pairs.reverse.lookup list.param))
  | _ => none

/-- The answer that lets a user pass names the user, and nothing else in it depends on the user. -/
theorem grantedAnswer_eq (user : String) :
    grantedAnswer user = "Status: 200 OK\r\nVariable-AUTH_USER: " ++ user ++ "\r\n\r\n" := rfl

/-- The answer tells which user it lets pass. -/
theorem grantedAnswer_inj {user user' : String} (h : grantedAnswer user = grantedAnswer user') :
    user = user' := by
  have htexts := congrArg String.toList h
  simp only [grantedAnswer_eq, String.toList_append] at htexts
  exact String.toList_inj.1 (List.append_cancel_left (List.append_cancel_right htexts))

/-- To be turned away is never taken for being let pass. -/
theorem deniedAnswer_ne_grantedAnswer (user : String) : deniedAnswer ≠ grantedAnswer user := by
  intro h
  -- The texts differ in the first digit of the status.
  have hdigit := congrArg (fun text => text.toList[8]?) h
  simp only [grantedAnswer_eq, String.toList_append, List.append_assoc] at hdigit
  rw [List.getElem?_append_left (by decide)] at hdigit
  revert hdigit
  decide

/-- A user passes exactly if the list that was registered last has the user whom the parameters name
last. -/
theorem answer?_eq_granted_iff {registrations : List (String × Service)}
    {pairs : List (String × String)} {user : String} :
    answer? registrations pairs = some (grantedAnswer user) ↔
      ∃ list, registrations.reverse.lookup Services.allowListName = some (.allowList list) ∧
        pairs.reverse.lookup list.param = some user ∧ user ∈ list.users := by
  unfold answer?
  constructor
  · intro h
    split at h
    next list hlist =>
      refine ⟨list, hlist, ?_⟩
      have hverdict := Option.some.inj h
      unfold verdict at hverdict
      split at hverdict
      next named hnamed =>
        split at hverdict
        next hmem =>
          obtain rfl := grantedAnswer_inj hverdict
          exact ⟨hnamed, hmem⟩
        next => exact absurd hverdict (deniedAnswer_ne_grantedAnswer user)
      next => exact absurd hverdict (deniedAnswer_ne_grantedAnswer user)
    next => cases h
  · rintro ⟨list, hlist, hnamed, hmem⟩
    simp only [hlist, hnamed, verdict, hmem, if_true]

/-- What the authorizer comes to with an answer, or without one. -/
def accountOf (id : UInt16) : Option String → List Record × Server.RoleOutcome
  | some answer =>
    (Channel.streamRecords .stdout id (Bytes.ofString answer) ++ [.endOfStream .stdout id],
      .finished 0)
  | none => ([.endOfStream .stdout id], .failed (.missingService Services.allowListName))

/-- The decision writes the verdict to STDOUT and makes log entries. -/
theorem account_decide (context : Context) (list : AllowList) (output : Output) :
    (decide context list).account output =
      ⟨[], .done 0, output.writeStdout
        (Bytes.ofString (verdict list (context.param? list.param)))⟩ := by
  unfold decide verdict
  cases context.param? list.param with
  | none => rfl
  | some user =>
    by_cases hmem : user ∈ list.users
    · have hallows : list.allows user = true := List.contains_iff_mem.2 hmem
      simp only [Option.filter_some, hallows, if_true, hmem]
      rfl
    · have hallows : list.allows user = false := by simpa [AllowList.allows] using hmem
      simp only [Option.filter_some, hallows, hmem, if_false]
      rfl

/-- The authorizer comes to its decision. -/
theorem account_role (context : Context) (services : Services) (id : UInt16) :
    (role context services).account id =
      accountOf id ((services.allowList? Services.allowListName).map fun list =>
        verdict list (context.param? list.param)) := by
  unfold Role.account role run
  cases services.allowList? Services.allowListName with
  | none =>
    obtain ⟨hsent, hending⟩ := Program.account_flushOutput id []
    rw [Channel.streamRecords_nil] at hsent
    exact Prod.ext hsent (congrArg (Server.RoleOutcome.ofEndings (.failed _)) hending)
  | some list =>
    obtain ⟨hsent, hending⟩ :=
      Program.account_flushOutput id (Bytes.ofString (verdict list (context.param? list.param)))
    dsimp only
    rw [account_decide]
    exact Prod.ext hsent (congrArg (Server.RoleOutcome.ofEndings (.done 0)) hending)

/-- Both look-ups go by the last of several entries of one name. -/
theorem answer?_eq (registrations : List (String × Service)) (pairs : List (String × String)) :
    ((Services.allowList? (.ofList registrations) Services.allowListName).map fun list =>
        verdict list ((Dictionary.ofList pairs).get? list.param)) =
      answer? registrations pairs := by
  simp only [Services.allowList?, Dictionary.get?_ofList, answer?]
  cases registrations.reverse.lookup Services.allowListName with
  | none => rfl
  | some service => cases service <;> rfl

end Authorizer

namespace Server

/-- A server with the applications at hand, and with services registered one after another. -/
def standardWith (registrations : List (String × Service)) (limits : Limits) (info : ServerInfo) :
    Server :=
  ⟨.ofChanges RoleTable.standard, .ofList registrations, limits, info⟩

section

variable {registrations : List (String × Service)} {limits : Limits} {info : ServerInfo}
  {pairs : List (String × String)} {request : Request}

/-- What the authorizer comes to for a complete request. -/
theorem account_authorizer {context : Context} (hparams : context.params = .ofList pairs) :
    (Authorizer.role context (standardWith registrations limits info).services).account context.id =
      Authorizer.accountOf context.id (Authorizer.answer? registrations pairs) := by
  rw [Authorizer.account_role, ← Authorizer.answer?_eq, ← hparams]
  rfl

/-- What is sent about a complete request for the authorizer: its answer if it has one, the end of
the stream, and the record that ends the request. -/
def admission (id : UInt16) : Option String → List Record
  | some answer => Channel.streamRecords .stdout id (Bytes.ofString answer) ++
      [.endOfStream .stdout id, .endRequest id ⟨.requestComplete, 0⟩]
  | none => [.endOfStream .stdout id, .endRequest id ⟨.requestComplete, failureExitCode⟩]

variable (hrole : request.context.role = RoleKind.authorizer.id)
  (hparams : request.context.params = .ofList pairs)

include hrole hparams

/-- The application ends with its account, as the roles at hand have the authorizer in its place. -/
theorem ending?_authorizer :
    (standardWith registrations limits info).ending? request .complete =
      some (Authorizer.accountOf request.context.id
        (Authorizer.answer? registrations pairs)).2 := by
  rw [ending?, roleEnding?, hrole, ← account_authorizer hparams]
  rfl

/-- All that is said of the request is its admission, whatever streams were open. -/
theorem said_authorizer (hreply : request.replyId = some request.context.id)
    (streams : List (RecordType × UInt16)) :
    (standardWith registrations limits info).said request .complete streams =
      admission request.context.id (Authorizer.answer? registrations pairs) := by
  have houtput : (standardWith registrations limits info).output request streams .complete =
      (Authorizer.accountOf request.context.id (Authorizer.answer? registrations pairs)).1 := by
    rw [output, roleOutput, hrole]
    show Role.output (Authorizer.role request.context _) request.context.id streams = _
    rw [Role.output, account_authorizer hparams]
    cases Authorizer.answer? registrations pairs <;> rfl
  rw [said, houtput, ending?_authorizer hrole hparams, completion?, hreply]
  cases Authorizer.answer? registrations pairs with
  | none => rfl
  | some answer => exact List.append_assoc ..

/-- The connection is kept if the request asks for it, and the authorizer has an answer. -/
theorem keeps_authorizer :
    keeps request .complete ((standardWith registrations limits info).ending? request .complete) =
      (request.context.keep && (Authorizer.answer? registrations pairs).isSome) := by
  rw [ending?_authorizer hrole hparams]
  cases Authorizer.answer? registrations pairs with
  | none => exact (Bool.and_false _).symm
  | some answer => exact (Bool.and_true _).symm

/-- The authorizer does not fail for want of a channel. -/
theorem transportFailure?_authorizer :
    transportFailure? ((standardWith registrations limits info).ending? request .complete) =
      none := by
  rw [ending?_authorizer hrole hparams]
  cases Authorizer.answer? registrations pairs <;> rfl

/-- Serving goes on with another request only if the connection is kept. -/
theorem sequel_authorizer :
    (standardWith registrations limits info).sequel request .complete =
      if request.context.keep && (Authorizer.answer? registrations pairs).isSome then
        .next request.replyId
      else .last (.ok ()) := by
  rw [sequel, keeps_authorizer hrole hparams, transportFailure?_authorizer hrole hparams]

/-- The channel is closed if the connection is not kept. -/
theorem closes_authorizer :
    (standardWith registrations limits info).closes request .complete =
      !(request.context.keep && (Authorizer.answer? registrations pairs).isSome) := by
  rw [closes, keeps_authorizer hrole hparams, transportFailure?_authorizer hrole hparams]
  exact Bool.and_true _

end

/-- A turn in which a complete request for the authorizer is received comes to the authorizer's
decision. -/
theorem turnAccount_authorizer (registrations : List (String × Service)) {limits : Limits}
    {info : ServerInfo} {previousId : Option UInt16} {s : Request.Submission}
    (haccepted : s.Accepted limits previousId)
    (hanswers : ∀ r ∈ s.records, r.id = managementId → Request.Answerable info r)
    {asks : BeginBody} (hasks : BeginBody.ofBytes s.opening.content = .ok asks)
    (hrole : asks.role = RoleKind.authorizer.id) {pairs : List (String × String)}
    (hpairs : NameValue.decode s.params.flatten = .ok pairs) (later : List Record)
    (failure : TransportError) (streams : List (RecordType × UInt16)) :
    let account := (standardWith registrations limits info).turnAccount
      ((standardWith registrations limits info).newRequest previousId) (s.records ++ later)
      failure streams
    let keeps := asks.keep && (Authorizer.answer? registrations pairs).isSome
    account.after = (if keeps then .next (some s.opening.id) else .last (.ok ())) ∧
      account.closes = !keeps ∧
      (∃ replies, (∀ r ∈ replies, r.id ≠ s.opening.id) ∧ account.sent =
        replies ++ admission s.opening.id (Authorizer.answer? registrations pairs)) ∧
      ∃ taken, s.records ++ later = taken ++ account.rest := by
  intro account keeps
  let server := standardWith registrations limits info
  have hfresh : (server.newRequest previousId).Fresh := Request.fresh_new limits info previousId
  obtain ⟨houtcome, hcontext⟩ : ((server.newRequest previousId).intake s.records).outcome =
        some .complete ∧
      ((server.newRequest previousId).intake s.records).request.context = s.context asks pairs :=
    Request.fate_of_submission hfresh hanswers haccepted hasks hpairs
  have hreply := Request.replyId_of_complete (.inl hfresh) houtcome
  have hreplies := Request.replies_intake (.inl hfresh) s.records
  have haccount : account = _ := server.turnAccount_append failure streams houtcome later failure
  rw [server.turnAccount_of_some failure streams houtcome] at haccount
  generalize ((server.newRequest previousId).intake s.records).request = request at *
  have hrole' : request.context.role = RoleKind.authorizer.id :=
    (congrArg Context.role hcontext).trans hrole
  have hparams : request.context.params = .ofList pairs := congrArg Context.params hcontext
  have hid : request.context.id = s.opening.id := congrArg Context.id hcontext
  have hkeep : request.context.keep = asks.keep := congrArg Context.keep hcontext
  rw [haccount]
  refine ⟨?_, ?_, ⟨((server.newRequest previousId).intake s.records).replies, ?_, ?_⟩, ?_⟩
  · show server.sequel request .complete = _
    rw [sequel_authorizer hrole' hparams, hreply, hid, hkeep]
  · show server.closes request .complete = _
    rw [closes_authorizer hrole' hparams, hkeep]
  · intro r hr
    rw [hreplies, hreply, hid] at hr
    obtain ⟨record, -, hrecord⟩ := List.mem_filterMap.1 hr
    exact Request.id_ne_of_reply? haccepted.opening_id hrecord
  · show _ ++ server.said request .complete streams = _
    rw [said_authorizer hrole' hparams hreply, hid]
  · refine ⟨((server.newRequest previousId).intake s.records).taken, ?_⟩
    show _ = _ ++ (_ ++ later)
    rw [← List.append_assoc, Request.taken_append_rest]

/-- **Only listed users pass.** On a connection that takes all that is sent, a complete request for
the authorizer, in whatever pieces its parameters come and whatever has been going on before, is
answered by the decision on its pairs and on the services as they were registered. The answer is all
that there is on STDOUT; the connection is kept for another request if this one asks for it, and is
closed otherwise. Without a list of users nothing is written to STDOUT, the request fails, and the
connection is closed. The records of the request's id are these and no others, as answers to other
records go to other ids. -/
theorem serveAfter_authorizer (registrations : List (String × Service)) (limits : Limits)
    (info : ServerInfo) (previousId : Option UInt16) {channel : Channel}
    (hreliable : channel.connection.Reliable) (honly : channel.OutputOnly)
    {s : Request.Submission} (haccepted : s.Accepted limits previousId)
    (hanswers : ∀ r ∈ s.records, r.id = managementId → Request.Answerable info r)
    {asks : BeginBody} (hasks : BeginBody.ofBytes s.opening.content = .ok asks)
    (hrole : asks.role = RoleKind.authorizer.id) {pairs : List (String × String)}
    (hpairs : NameValue.decode s.params.flatten = .ok pairs)
    (hbegins : s.records <+: channel.delivery.records) :
    let server := standardWith registrations limits info
    let served := server.serveAfter previousId channel
    let id := s.opening.id
    ∃ replies output channel', (∀ r ∈ replies, r.id ≠ id) ∧
      (∀ r ∈ output, r.type = .stdout ∧ r.id = id ∧ r.content ≠ []) ∧
      match Authorizer.answer? registrations pairs with
      | some answer =>
        output.flatMap Record.content = Bytes.ofString answer ∧
        channel'.connection.sent.toList = channel.connection.sent.toList ++
          Record.encodeAll (replies ++ (output ++
            [.endOfStream .stdout id, .endRequest id ⟨.requestComplete, 0⟩])) ∧
        if asks.keep then
          served = server.serveAfter (some id) channel' ∧ channel'.Ready ∧
            ∃ taken, channel.delivery.records = taken ++ channel'.delivery.records
        else served = (.ok (), channel') ∧ channel'.connection.shutdown = true
      | none =>
        output = [] ∧
        channel'.connection.sent.toList = channel.connection.sent.toList ++
          Record.encodeAll (replies ++
            [.endOfStream .stdout id, .endRequest id ⟨.requestComplete, failureExitCode⟩]) ∧
        served = (.ok (), channel') ∧ channel'.connection.shutdown = true := by
  intro server served id
  obtain ⟨later, hlater⟩ := hbegins
  have hdelivery : channel.delivery = ⟨s.records ++ later, channel.delivery.failure⟩ := by
    rw [hlater]
  obtain ⟨channel', hturn, haccords⟩ :=
    server.turn_eq_account (server.receiving_newRequest previousId) hreliable honly hdelivery
  obtain ⟨hafter, hcloses, ⟨replies, hreplies, hsent⟩, hrest⟩ := turnAccount_authorizer
    registrations haccepted hanswers hasks hrole hpairs later channel.delivery.failure
    channel.openStreams
  have hserve : served = _ := server.serveAfter_eq previousId channel
  rw [hturn] at hserve
  have hsent' := haccords.sent
  have hshutdown := haccords.shutdown
  have hnext := haccords.next
  rw [hsent] at hsent'
  rw [hcloses] at hshutdown
  rw [hafter] at hserve hnext
  cases hanswer : Authorizer.answer? registrations pairs with
  | none =>
    simp only [hanswer, Option.isSome_none, Bool.and_false] at hserve hsent' hshutdown
    exact ⟨replies, [], channel', hreplies, nofun, rfl, hsent', hserve, by simp [hshutdown]⟩
  | some answer =>
    simp only [hanswer, Option.isSome_some, Bool.and_true] at hserve hsent' hshutdown hnext
    refine ⟨replies, _, channel', hreplies, fun r hr => Channel.of_mem_streamRecords hr,
      Channel.content_streamRecords .., hsent', ?_⟩
    cases hkeep : asks.keep with
    | false =>
      simp only [hkeep] at hserve hshutdown
      exact ⟨hserve, by simp [hshutdown]⟩
    | true =>
      simp only [hkeep] at hserve hnext
      obtain ⟨hready, -, -, hdelivery'⟩ := hnext (some id) rfl
      refine ⟨hserve, hready, ?_⟩
      rw [← hlater, hdelivery']
      exact hrest

/-- A user who is named twice. -/
def twoUsers : List (String × String) := [("REMOTE_USER", "mallory"), ("REMOTE_USER", "alice")]

/-- A request for the authorizer, with its parameters in two pieces. -/
def login : Request.Submission :=
  let params := NameValue.encode twoUsers
  ⟨[], ⟨version1, .beginRequest, 1, [0, 2, 0, 0, 0, 0, 0, 0], 0⟩,
    [⟨version1, .params, 1, params.take 13, 0⟩, ⟨version1, .params, 1, params.drop 13, 0⟩,
      ⟨version1, .params, 1, [], 0⟩, ⟨version1, .stdin, 1, [], 0⟩],
    [params.take 13, params.drop 13], []⟩

/-- The user who is named last is let pass by the list that was registered last. The parameters are
cut in the middle of a pair, and the connection is not kept. -/
theorem serveAfter_authorizer_login :
    let registrations : List (String × Service) :=
      [("authorized_users", .text "nobody"),
        ("authorized_users", .allowList ⟨["alice"], "REMOTE_USER"⟩)]
    let channel : Channel := .new (.new [.data (Record.encodeAll login.records)]) ⟨1⟩
    let served := (standardWith registrations .default ⟨1, 1⟩).serveAfter none channel
    login.Accepted .default none ∧ ∃ replies output, (∀ r ∈ replies, r.id ≠ 1) ∧
      (∀ r ∈ output, r.type = .stdout ∧ r.id = 1 ∧ r.content ≠ []) ∧
      output.flatMap Record.content =
        Bytes.ofString "Status: 200 OK\r\nVariable-AUTH_USER: alice\r\n\r\n" ∧
      served.2.connection.sent.toList = Record.encodeAll (replies ++ (output ++
        [.endOfStream .stdout 1, .endRequest 1 ⟨.requestComplete, 0⟩])) ∧
      served.1 = .ok () ∧ served.2.connection.shutdown = true := by
  intro registrations channel served
  have hrecords : ∀ r ∈ login.records, r.WellFormed ∧ r.id ≠ managementId := by decide +kernel
  have hdelivery : channel.delivery = ⟨login.records, .closed false⟩ :=
    Request.Submission.delivery (fun r hr => (hrecords r hr).1) ⟨1⟩
  have hshort : ∀ pair ∈ twoUsers, NameValue.Short pair := by
    unfold NameValue.Short
    decide +kernel
  have hpairs : NameValue.decode login.params.flatten = .ok twoUsers := by
    rw [login, List.flatten_cons, List.flatten_singleton, List.take_append_drop,
      NameValue.decode_encode hshort]
  have haccepted : login.Accepted .default none := by
    constructor
    case pairs => exact ⟨_, hpairs⟩
    all_goals first | rfl | decide
  have hasks : BeginBody.ofBytes login.opening.content = .ok ⟨2, 0⟩ := rfl
  have hanswer : Authorizer.answer? registrations twoUsers =
      some "Status: 200 OK\r\nVariable-AUTH_USER: alice\r\n\r\n" := by
    decide +kernel
  have hreliable : channel.connection.Reliable := Connection.reliable_new _
  have honly : channel.OutputOnly := Channel.outputOnly_new _ _ _
  obtain ⟨replies, output, channel', hreplies, houtput, hanswered⟩ :=
    serveAfter_authorizer registrations .default ⟨1, 1⟩ none hreliable honly haccepted
      (fun r hr hid => absurd hid (hrecords r hr).2) hasks rfl hpairs
      ⟨[], by rw [hdelivery, List.append_nil]⟩
  rw [hanswer] at hanswered
  obtain ⟨hcontent, hsent, hserved, hshutdown⟩ := hanswered
  refine ⟨haccepted, replies, output, hreplies, houtput, hcontent, ?_, ?_, ?_⟩
  · rw [show served.2 = channel' from congrArg Prod.snd hserved, hsent]
    rfl
  · exact congrArg Prod.fst hserved
  · rw [show served.2 = channel' from congrArg Prod.snd hserved, hshutdown]

end Server

end FastCgi
