import FastCgi.Proofs.Completion

/-!
# Which application answers

A table of roles changes one place at a time, so what is in a place is what the latest change to it
left there, or what was there from the beginning (`RoleTable.left`). The three views of a table agree
on that: the look-up by number, the list of roles that are supported, and what is made of a request.
A request whose role has an application is answered by running that one once, and by whatever that
comes to (`Server.dispatch_of_resolve?`); any other request is told that its role is unknown, and
nothing else is sent (`Server.dispatch_of_unknown`).
-/

namespace FastCgi

namespace RoleTable

/-! ## Places -/

/-- What a change leaves in a place, if it changes that place. -/
def Change.leaves? (kind : RoleKind) : Change → Option (Option RoleFactory)
  | .register other factory => if kind = other then some (some factory) else none
  | .unregister other => if kind = other then some none else none

/-- What some changes leave in a place: what the latest change to it does, or what was there before
all of them. -/
def left (initial : RoleTable) (changes : List Change) (kind : RoleKind) : Option RoleFactory :=
  (changes.reverse.findSome? (Change.leaves? kind)).getD (initial.factory? kind)

section

variable (table : RoleTable)

/-- One step: a change leaves all places alone but its own. -/
theorem factory?_apply (change : Change) (kind : RoleKind) :
    (table.apply change).factory? kind = (change.leaves? kind).getD (table.factory? kind) := by
  cases change with
  | register other factory =>
    rw [apply, factory?_register, Change.leaves?]
    split <;> rfl
  | unregister other =>
    rw [apply, factory?_unregister, Change.leaves?]
    split <;> rfl

/-- Many steps. -/
theorem factory?_foldl (changes : List Change) (kind : RoleKind) :
    (changes.foldl apply table).factory? kind = table.left changes kind := by
  induction changes using List.reverseRecOn with
  | nil => rfl
  | append_singleton changes change ih =>
    rw [List.foldl_append, List.foldl_cons, List.foldl_nil, factory?_apply, ih]
    simp only [left, List.reverse_append, List.reverse_singleton, List.singleton_append,
      List.findSome?_cons]
    cases change.leaves? kind <;> rfl

/-- The number of a role finds the application in its place. -/
theorem resolve?_id (kind : RoleKind) : table.resolve? kind.id = table.factory? kind := by
  rw [resolve?, RoleKind.ofId?_eq_some_iff.2 rfl, Option.bind_some]

/-- In the empty table no number finds an application. -/
theorem resolve?_empty (role : UInt16) : empty.resolve? role = none := Option.bind_fun_none _

/-- A number that is none of a role's finds no application. -/
theorem resolve?_of_not_role {role : UInt16} (h : ∀ kind : RoleKind, kind.id ≠ role) :
    table.resolve? role = none := by
  rw [resolve?, Option.bind_eq_none_iff]
  intro kind hkind
  exact absurd (RoleKind.ofId?_eq_some_iff.1 hkind).symm (h kind)

/-- A role is supported if its number finds an application. -/
theorem mem_supported (kind : RoleKind) :
    kind ∈ table.supported ↔ ∃ factory, table.resolve? kind.id = some factory := by
  have hall : kind ∈ RoleKind.all := by cases kind <;> decide
  rw [supported, List.mem_filter, and_iff_right hall, resolve?_id, Option.isSome_iff_exists]

/-- The roles are listed in the order of their numbers, and none of them twice. -/
theorem supported_increasing : (table.supported.map RoleKind.id).Pairwise (· < ·) := by
  have hall : (RoleKind.all.map RoleKind.id).Pairwise (· < ·) := by decide
  exact hall.sublist (List.filter_sublist.map _)

end

end RoleTable

namespace Server

/-! ## Requests -/

/-- What is made of a request once its application has ended. -/
def afterRole (id : UInt16) (keep : Bool) : RoleOutcome × Channel → Channel.Outcome Bool
  | (.finished exitCode, channel) =>
    ((channel.tell .debug .dispatch
      s!"{channel.peer} request {id} finished with exit code {exitCode}").sendEnd id
      .requestComplete exitCode keep).andThen fun _ channel => (.ok keep, channel)
  | (.failed (.transport e), channel) => (.error e, channel)
  | (.failed error, channel) =>
    endFailed id (channel.tell .error .dispatch
      s!"{channel.peer} role failed on request {id}: {error.message}")
  | (.crashed reason, channel) =>
    ((channel.tell .error .dispatch
      s!"{channel.peer} role panicked on request {id}: {reason}").endOpenStreams id).andThen
      fun _ channel => endFailed id channel

/-- The application in the place of a request's role is run once, and no other one is. -/
theorem dispatch_of_resolve? {server : Server} {context : Context} {factory : RoleFactory}
    (h : server.roles.resolve? context.role = some factory) (channel : Channel) :
    server.dispatch context channel =
      afterRole context.id context.keep
        (invoke (factory context server.services) context.id channel) := by
  simp only [dispatch, h]
  obtain ⟨outcome, invoked⟩ := invoke (factory context server.services) context.id channel
  cases outcome with
  | finished | crashed => rfl
  | failed error => cases error <;> rfl

/-- A request whose application was run is never told that its role is unknown. -/
theorem status_of_endBody? {ending : RoleOutcome} {body : EndBody}
    (h : endBody? .complete (some ending) = some body) : body.status = .requestComplete := by
  cases ending with
  | finished | crashed =>
    cases h
    rfl
  | failed error =>
    cases error with
    | transport => cases h
    | application | missingService =>
      cases h
      rfl

section

variable {server : Server} {context : Context} {channel : Channel} (hready : channel.Ready)
  (honly : channel.OutputOnly)

include hready honly

/-- Nothing is sent about a request whose application was run but output of that application, and
records that say that the request is complete. -/
theorem sent_dispatch_of_resolve? {factory : RoleFactory}
    (h : server.roles.resolve? context.role = some factory) :
    ∃ records, (server.dispatch context channel).2.connection.sent.toList =
        channel.connection.sent.toList ++ Record.encodeAll records ∧
      ∀ r ∈ records, r.OutputOf context.id ∨
        ∃ exitCode, r = .endRequest context.id ⟨.requestComplete, exitCode⟩ := by
  obtain ⟨channel', hemits, hdispatch⟩ := server.dispatch_eq_account hready honly context
  have hsent : (server.dispatch context channel).2.connection.sent =
      channel'.connection.sent := by
    rw [hdispatch]
    cases transportFailure? (server.roleEnding? context) with
    | some e => rfl
    | none =>
      cases keepsRole context.keep (server.roleEnding? context) with
      | true => rfl
      | false => exact channel'.sent_close
  refine ⟨_, (congrArg Array.toList hsent).trans hemits.sends.sent, fun r hr => ?_⟩
  have hending : server.roleEnding? context =
      some ((factory context server.services).account context.id).2 := by
    rw [roleEnding?, h, Option.map_some]
  rw [hending, roleOutput, h] at hr
  rcases List.mem_append.1 hr with hr | hr
  · exact .inl (Role.outputOf_of_mem_output honly hr)
  · obtain ⟨⟨status, exitCode⟩, hbody, rfl⟩ := Option.map_eq_some_iff.1 (Option.mem_toList.1 hr)
    obtain rfl : status = .requestComplete := status_of_endBody? hbody
    exact .inr ⟨exitCode, rfl⟩

/-- A request whose role has no application is told so in one record, and the connection is kept if
the request asks for that. -/
theorem dispatch_of_unknown (h : server.roles.resolve? context.role = none) :
    ∃ channel', server.dispatch context channel = (.ok context.keep, channel') ∧
      channel'.connection.sent.toList = channel.connection.sent.toList ++
        Record.encodeAll [.endRequest context.id ⟨.unknownRole, 0⟩] ∧
      channel'.closed = !context.keep := by
  obtain ⟨channel', hemits, hdispatch⟩ := server.dispatch_eq_account hready honly context
  have hending : server.roleEnding? context = none := by rw [roleEnding?, h]; rfl
  rw [hending, roleOutput, h] at hemits
  rw [hending] at hdispatch
  have hsent : channel'.connection.sent.toList = channel.connection.sent.toList ++
      Record.encodeAll [.endRequest context.id ⟨.unknownRole, 0⟩] := hemits.sends.sent
  refine ⟨_, hdispatch, ?_, ?_⟩
  · cases hkeep : context.keep with
    | true => exact hsent
    | false => exact (congrArg Array.toList channel'.sent_close).trans hsent
  · cases hkeep : context.keep with
    | true => exact (hemits.ready hready).opened
    | false => exact channel'.closed_close

end

/-- **The latest change to a place decides.** Whatever table is begun with and however it is changed,
on a connection that takes all that is sent:
- A role has the application that the latest change to its place left there, and a number other
  than 1, 2 and 3 has none. The roles that are supported are those with an application, in the order
  of their numbers.
- A complete request whose role has an application is answered by running that one, once, and is
  never told that its role is unknown.
- For any other complete request no application is run. All that is sent about it is the record
  which says that its role is unknown, and the connection is kept if the request asks for that. -/
theorem dispatch_resolves (initial : RoleTable) (changes : List RoleTable.Change)
    (services : Services) (limits : Limits) (info : ServerInfo) {previousId : Option UInt16}
    {channel : Channel} {s : Request.Submission} {asks : BeginBody}
    {pairs : List (String × String)}
    (h : Receives ⟨changes.foldl RoleTable.apply initial, services, limits, info⟩ previousId channel
      s asks pairs) :
    let table := changes.foldl RoleTable.apply initial
    let server : Server := ⟨table, services, limits, info⟩
    let id := s.opening.id
    (∀ kind, table.resolve? kind.id = initial.left changes kind) ∧
    (∀ role, role ≠ 1 → role ≠ 2 → role ≠ 3 → table.resolve? role = none) ∧
    (∀ kind, kind ∈ table.supported ↔ ∃ factory, table.resolve? kind.id = some factory) ∧
    (table.supported.map RoleKind.id).Pairwise (· < ·) ∧
    ∃ request between,
      (server.newRequest previousId).run channel = (.ok .complete, request, between) ∧
      request.context = s.context asks pairs ∧
      match table.resolve? asks.role with
      | some factory =>
        server.dispatch request.context between =
          afterRole id asks.keep (invoke (factory request.context services) id between) ∧
        ∃ records, (server.dispatch request.context between).2.connection.sent.toList =
            between.connection.sent.toList ++ Record.encodeAll records ∧
          ∀ r ∈ records, r.OutputOf id ∨
            ∃ exitCode, r = .endRequest id ⟨.requestComplete, exitCode⟩
      | none =>
        (∀ services', server.dispatch request.context between =
          Server.dispatch ⟨.empty, services', limits, info⟩ request.context between) ∧
        ∃ channel', server.dispatch request.context between = (.ok asks.keep, channel') ∧
          channel'.connection.sent.toList = between.connection.sent.toList ++
            Record.encodeAll [.endRequest id ⟨.unknownRole, 0⟩] ∧
          channel'.closed = !asks.keep := by
  intro table server id
  obtain ⟨request, _, between, hrun, hcontext, -, hexchanges, -, hready⟩ := h.exists_run
  have honly := h.only.of_openStreams hexchanges.openStreams
  refine ⟨fun kind => ?_, fun role h₁ h₂ h₃ => ?_, table.mem_supported, table.supported_increasing,
    request, between, hrun, hcontext, ?_⟩
  · rw [RoleTable.resolve?_id, RoleTable.factory?_foldl]
  · refine table.resolve?_of_not_role fun kind => ?_
    cases kind with
    | responder => exact h₁.symm
    | authorizer => exact h₂.symm
    | filter => exact h₃.symm
  rw [hcontext]
  cases hresolve : table.resolve? asks.role with
  | some factory =>
    exact ⟨dispatch_of_resolve? hresolve between, sent_dispatch_of_resolve? hready honly hresolve⟩
  | none =>
    refine ⟨fun services' => ?_, dispatch_of_unknown hready honly hresolve⟩
    have hresolve' : server.roles.resolve? (s.context asks pairs).role = none := hresolve
    simp only [dispatch, hresolve', RoleTable.resolve?_empty]

/-- A role whose application was put in its place and taken out of it again. -/
theorem dispatch_resolves_unregistered :
    let changes : List RoleTable.Change :=
      [.unregister .authorizer, .register .filter Responder.role, .unregister .responder]
    let server : Server :=
      ⟨changes.foldl RoleTable.apply (.ofChanges RoleTable.standard), .empty, .default, ⟨1, 1⟩⟩
    let channel : Channel :=
      .new (.new [.data (Record.encodeAll Request.smallSubmission.records)]) ⟨1⟩
    server.roles.supported = [.filter] ∧ ∃ request between channel',
      (server.newRequest none).run channel = (.ok .complete, request, between) ∧
      request.context.role = 1 ∧
      server.dispatch request.context between = (.ok true, channel') ∧
      channel'.connection.sent.toList = between.connection.sent.toList ++
        Record.encodeAll [.endRequest 1 ⟨.unknownRole, 0⟩] ∧
      channel'.closed = false := by
  intro changes server channel
  have hreceives : server.Receives none channel Request.smallSubmission ⟨1, 1⟩ [("A", "b")] :=
    .of_sent Request.smallSubmission_accepted Request.smallSubmission_wellFormed rfl
      Request.smallSubmission_pairs ⟨1⟩
  obtain ⟨-, -, -, -, request, between, hrun, hcontext, -, channel', hdispatch, hsent, hopened⟩ :=
    dispatch_resolves (.ofChanges RoleTable.standard) changes .empty .default ⟨1, 1⟩ hreceives
  exact ⟨rfl, request, between, channel', hrun, by rw [hcontext]; rfl, hdispatch, hsent, hopened⟩

end Server

end FastCgi
