import FastCgi.Proofs.Intake
import FastCgi.Proofs.Lockstep
import FastCgi.Proofs.Sequence

/-!
# Serving while writes fail

A connection on which writes may fail for good is served in step with a willing one, move by move,
until a write fails (`inStep_finish`). What has been accepted by then are the first bytes of what is
sent over the willing one, and nothing else is accepted later (`serve_limited`).

A failure that ends serving is an error of serving, with one exception: a management record that is
answered too slowly, before a request has begun, is taken for a peer that has nothing to say.
`result_serve_iff` gives the exact condition.
-/

namespace FastCgi

/-- Before a request has begun, only management records are answered. -/
theorem Request.Takes.management_of_none {request request' : Request} {record reply : Record}
    (h : request.Takes record (.ok (.reply reply), request')) (hnone : request.replyId = none) :
    record.isManagement = true ∧ managementReply request.info record = .ok reply := by
  cases h with
  | answered hid hreply => exact ⟨by simp [Record.isManagement, hid], hreply⟩
  | refused _ hopen =>
    rw [hopen.replyId] at hnone
    cases hnone
  | own _ _ _ hown => cases hown

/-! ## Serving -/

/-- Two moves lead to the same, on channels that are abreast; or else the second one ends serving on
a channel that has fallen behind, and there is a reason if it does not end with an error. -/
inductive Move.InStep (excuse : Prop) : Move → Move → Prop
  | on (request : Request) {willing actual : Channel} (h : willing.Abreast actual) :
    Move.InStep excuse (.on ⟨request, willing⟩) (.on ⟨request, actual⟩)
  | off (result : Except TransportError Unit) {willing actual : Channel}
    (h : willing.Abreast actual) : Move.InStep excuse (.off result willing) (.off result actual)
  | behind {after : Move} {result : Except TransportError Unit} {actual : Channel}
    (hresult : result = .ok () → excuse) (h : after.channel.Behind actual) :
    Move.InStep excuse after (.off result actual)

/-- A weaker excuse is enough. -/
theorem Move.InStep.imp {excuse excuse' : Prop} {after after' : Move}
    (h : Move.InStep excuse after after') (hexcuse : excuse → excuse') :
    Move.InStep excuse' after after' := by
  cases h with
  | on request habreast => exact .on request habreast
  | off result habreast => exact .off result habreast
  | behind hresult hbehind => exact .behind (fun hok => hexcuse (hresult hok)) hbehind

/-- The answer to a management record takes too long to be sent, and no request has begun. -/
structure Session.Overlooks (session : Session) (record reply : Record) (limit : Duration) :
    Prop where
  receives : session.channel.receive.1 = .ok record
  management : record.isManagement = true
  answer : Request.managementReply session.request.info record = .ok reply
  fresh : session.request.replyId = none
  stalls : ((session.request.tellRemark record session.channel.receive.2).sendRecord reply).1 =
    .error (.timeout limit)

namespace Server

section

variable (server : Server) {willing actual : Channel} (h : willing.Abreast actual)

include h

omit server in
/-- Remarks about a record leave the channels abreast. -/
theorem abreast_tellRemark (request : Request) (record : Record) :
    (request.tellRemark record willing).Abreast (request.tellRemark record actual) := by
  unfold Request.tellRemark
  split
  · exact h.tell ..
  · exact h

/-- A request is settled in step. -/
theorem inStep_settle (excuse : Prop) (request : Request) (outcome : RunOutcome) :
    Move.InStep excuse (server.settle request outcome willing)
      (server.settle request outcome actual) := by
  have hconclude := server.inStep_conclude h request outcome
  unfold settle
  generalize server.conclude request outcome willing = concluded,
    server.conclude request outcome actual = concluded' at hconclude ⊢
  obtain ⟨turn, willing'⟩ := concluded
  obtain ⟨turn', actual'⟩ := concluded'
  cases hconclude with
  | abreast hsame habreast =>
    obtain rfl : turn' = turn := hsame
    cases turn' with
    | last result => exact .off result habreast
    | next nextId => exact .on _ habreast
  | behind hfailed hbehind =>
    obtain ⟨e, rfl⟩ : ∃ e, turn' = .last (.error e) := hfailed
    cases turn <;> exact .behind nofun hbehind

omit server in
/-- A connection is left in step. -/
theorem inStep_abandon (excuse : Prop) (error : TransportError) (request : Request) :
    Move.InStep excuse (abandon error request willing) (abandon error request actual) := by
  obtain ⟨hresult, habreast⟩ := abreast_leave h error request
  rw [abandon, abandon, hresult]
  exact .off _ habreast

omit h in
/-- A failure that is not taken for an error is the end of the connection, or came before a request
has begun. -/
theorem leave_eq_ok {error : TransportError} {request : Request} {channel : Channel}
    (h : (leave error request channel).1 = .ok ()) :
    (∃ midFrame, error = .closed midFrame) ∨
      (∃ limit, error = .timeout limit) ∧ request.replyId = none := by
  cases error with
  | closed midFrame => exact .inl ⟨midFrame, rfl⟩
  | timeout limit =>
    unfold leave at h
    cases hreply : request.replyId with
    | none => exact .inr ⟨⟨limit, rfl⟩, rfl⟩
    | some id => simp [hreply] at h
  | io | protocol => cases h

/-- A record has the same consequences on both channels, unless an answer cannot be sent on the
second one. Only the answer to a management record that takes too long, before a request has begun,
is not taken for an error. -/
theorem inStep_handle {session : Session} (hsession : session.request.Receiving) {record : Record}
    (hreceive : session.channel.receive = (.ok record, actual)) :
    Move.InStep (∃ reply limit, session.Overlooks record reply limit)
      (server.handle session.request record willing)
      (server.handle session.request record actual) := by
  have htold := abreast_tellRemark h session.request record
  have htakes := Request.takes_process hsession record
  unfold handle
  rcases hprocess : session.request.process record with ⟨reason | _ | reply | _, request⟩
  · exact server.inStep_settle htold ..
  · exact .on _ htold
  · rw [hprocess] at htakes
    -- Of what a request makes of a record, only a reply is written.
    obtain ⟨rfl, -⟩ := htakes.answer
    have hsend := htold.sendRecord reply
    have hopened : (session.request.tellRemark record actual).closed = false :=
      (session.request.sends_tellRemark record actual).1.closed.trans
        (Channel.closed_of_receive_ok hreceive).2
    dsimp only
    rcases hwilling : (session.request.tellRemark record willing).sendRecord reply with
      ⟨result, willing'⟩
    rcases hactual : (session.request.tellRemark record actual).sendRecord reply with
      ⟨result', actual'⟩
    rw [hwilling, hactual] at hsend
    cases hsend with
    | abreast hsame habreast =>
      obtain rfl : result' = result := hsame
      cases result' with
      | error e => exact inStep_abandon habreast ..
      | ok => exact .on _ habreast
    | behind hfailed hbehind =>
      obtain ⟨e, rfl⟩ : ∃ e, result' = .error e := hfailed
      have hexcuse : (leave e session.request actual').1 = .ok () →
          ∃ reply limit, session.Overlooks record reply limit := by
        intro hok
        rcases leave_eq_ok hok with ⟨midFrame, rfl⟩ | ⟨⟨limit, rfl⟩, hnone⟩
        · exact absurd (congrArg Prod.fst hactual)
            (Channel.sendRecord_ne_closed hopened reply midFrame)
        · obtain ⟨hmanagement, hanswer⟩ := htakes.management_of_none hnone
          refine ⟨reply, limit, ?_, hmanagement, hanswer, hnone, ?_⟩
          · rw [hreceive]
          · rw [hreceive]
            exact congrArg Prod.fst hactual
      have hleft := hbehind.of_leads .refl (leads_leave e session.request actual')
      cases result with
      | error e' => exact .behind hexcuse (hleft.of_leads (leads_leave ..) .refl)
      | ok => exact .behind hexcuse hleft
  · exact server.inStep_settle htold ..

/-- A move is made in step, as both channels receive the same record. -/
theorem inStep_move {request : Request} (hrequest : request.Receiving) :
    Move.InStep (∃ record reply limit, Session.Overlooks ⟨request, actual⟩ record reply limit)
      (server.move ⟨request, willing⟩).2 (server.move ⟨request, actual⟩).2 := by
  obtain ⟨hresult, habreast⟩ := h.receive
  unfold move
  rcases hactual : actual.receive with ⟨result, received⟩
  rcases hwilling : willing.receive with ⟨result', received'⟩
  rw [hactual, hwilling] at hresult habreast
  obtain rfl : result = result' := hresult
  dsimp only
  cases result with
  | error e =>
    cases e with
    | protocol e => exact server.inStep_settle habreast ..
    | closed | timeout | io => exact inStep_abandon habreast ..
  | ok record =>
    have hhandle := @inStep_handle server _ _ habreast ⟨request, actual⟩ hrequest record hactual
    exact hhandle.imp fun hexcuse => ⟨record, hexcuse⟩

end

/-! ### Requests at every point of serving -/

/-- A request that follows another one has received nothing. -/
theorem receiving_settle {server : Server} {request : Request} {outcome : RunOutcome}
    {channel : Channel} {session : Session}
    (h : server.settle request outcome channel = .on session) : session.request.Receiving := by
  unfold settle at h
  split at h
  next => cases h
  next => cases h; exact .inl (Request.fresh_new ..)

/-- Whether or not writes succeed, serving has a request to receive as long as it goes on. -/
theorem receiving_move {server : Server} {session session' : Session} {record? : Option Record}
    (h : session.request.Receiving) (hmove : server.move session = (record?, .on session')) :
    session'.request.Receiving := by
  unfold move at hmove
  split at hmove
  next => exact receiving_settle (Prod.mk.inj hmove).2
  next => cases (Prod.mk.inj hmove).2
  next record received _ =>
    have hhandle := (Prod.mk.inj hmove).2
    have htakes := Request.takes_process h record
    unfold handle at hhandle
    rcases hprocess : session.request.process record with ⟨reason | _ | reply | _, request⟩ <;>
      rw [hprocess] at htakes hhandle
    · exact receiving_settle hhandle
    · cases hhandle
      exact htakes.receiving
    · obtain ⟨rfl, -⟩ := htakes.answer
      dsimp only at hhandle
      split at hhandle
      next => cases hhandle
      next => cases hhandle; exact h
    · exact receiving_settle hhandle

/-! ### A whole run -/

/-- At some point of serving, a management record is answered too slowly before a request has
begun. -/
def Overlooks (server : Server) (start : Session) : Prop :=
  ∃ received session record reply limit,
    server.Reaches start received session ∧ session.Overlooks record reply limit

/-- Serving stays in step from a session on that it reaches. Once a channel has fallen behind,
serving it comes to an error, unless the failure is overlooked. -/
theorem inStep_finish {server : Server} {start : Session} {received : List Record}
    {request : Request} {willing actual : Channel} (h : willing.Abreast actual)
    (hrequest : request.Receiving) (hreaches : server.Reaches start received ⟨request, actual⟩) :
    Channel.InStep
      ((server.finish (.on ⟨request, actual⟩)).1 = (server.finish (.on ⟨request, willing⟩)).1)
      ((server.finish (.on ⟨request, actual⟩)).1 = .ok () → server.Overlooks start)
      (server.finish (.on ⟨request, willing⟩)).2 (server.finish (.on ⟨request, actual⟩)).2 := by
  induction hunread : actual.unread using Nat.strongRecOn
    generalizing received request willing actual with
  | ind unread ih =>
    have hmove := server.inStep_move h hrequest
    rw [← server.finish_move ⟨request, willing⟩, ← server.finish_move ⟨request, actual⟩]
    rcases hwilling : server.move ⟨request, willing⟩ with ⟨_, after⟩
    rcases hactual : server.move ⟨request, actual⟩ with ⟨record?, after'⟩
    rw [hwilling, hactual] at hmove
    dsimp only at hmove ⊢
    cases hmove with
    | on request' habreast =>
      have hlt := hunread ▸ move_unread_lt hactual
      exact ih _ hlt habreast (receiving_move hrequest hactual) (hreaches.move hactual) rfl
    | off result habreast => exact .abreast rfl habreast
    | behind hresult hbehind =>
      refine .behind (fun hok => ?_) (hbehind.of_leads (server.leads_finish _) .refl)
      obtain ⟨record, reply, limit, hoverlooks⟩ := hresult hok
      exact ⟨received, _, record, reply, limit, hreaches, hoverlooks⟩

end Server

/-! ## Connections that give out -/

namespace Channel

/-- The same channel, on a connection that takes all that is sent. -/
def onWilling (channel : Channel) : Channel :=
  { channel with
    connection := { channel.connection with
      chunk := none, capacity := none, flushing := .succeeds } }

/-- The same channel, on a connection that fails for good once it has accepted so many bytes. -/
def limited (channel : Channel) (capacity : Nat) (whenFull : Behaviour) (chunk : Option Nat) :
    Channel :=
  { channel with
    connection := { channel.connection with chunk, capacity := some capacity, whenFull } }

/-- Such a connection takes what there is room for. -/
theorem takes_limited_iff {channel : Channel} (hflush : channel.connection.flushing = .succeeds)
    {capacity : Nat} {whenFull : Behaviour} {chunk : Option Nat} (hchunk : chunk ≠ some 0)
    {bytes : Bytes} :
    (channel.limited capacity whenFull chunk).connection.Takes bytes ↔ bytes.length ≤ capacity := by
  constructor
  · rintro (rfl | ⟨-, hroom⟩)
    · exact Nat.zero_le _
    · exact Nat.le_of_not_lt fun hlt => hroom (.inr ⟨capacity, rfl, hlt⟩)
  · refine fun hle => .inr ⟨hflush, ?_⟩
    rintro (hzero | ⟨_, hcapacity, hlt⟩)
    · exact hchunk hzero
    · cases hcapacity
      exact absurd hle (Nat.not_le_of_lt hlt)

section

variable {channel : Channel} (hsent : channel.connection.sent = #[])

include hsent

/-- A channel to which nothing has been sent is abreast of the same channel on a connection that
takes all that is sent. -/
theorem abreast_onWilling (hfirm : channel.connection.whenFull ≠ .succeeds) :
    channel.onWilling.Abreast channel :=
  ⟨⟨rfl, rfl, rfl, rfl, rfl⟩, rfl, rfl, rfl, rfl, ⟨rfl, nofun, rfl⟩, hfirm, .inl (by rw [hsent])⟩

/-- So is a channel on a connection that is going to fail, as it has not failed yet. -/
theorem abreast_limited (hreliable : channel.connection.Reliable) (capacity : Nat)
    {whenFull : Behaviour} (hfirm : whenFull ≠ .succeeds) (chunk : Option Nat) :
    channel.Abreast (channel.limited capacity whenFull chunk) :=
  ⟨⟨rfl, rfl, rfl, rfl, rfl⟩, rfl, rfl, rfl, rfl, hreliable, hfirm,
    .inl (congrArg Array.toList hsent)⟩

end

end Channel

namespace Server

/-- A connection on which nothing has been sent is served in step with a willing one. -/
theorem inStep_serve (server : Server) {willing actual : Channel} (h : willing.Abreast actual) :
    Channel.InStep ((server.serve actual).1 = (server.serve willing).1)
      ((server.serve actual).1 = .ok () → server.Overlooks (server.firstSession actual))
      (server.serve willing).2 (server.serve actual).2 := by
  rw [serve_eq_proceed, serve_eq_proceed]
  exact inStep_finish h (server.receiving_newRequest none) .start

/-- **A failure to write only cuts short what is sent.** A connection that fails for good once it
has accepted some number of bytes, be it with an error or by stalling, accepts the first bytes of
what would be sent over it otherwise, and nothing else. If there is room for all of them, it is
served as if it did not fail at all. How much it accepts at a time does not matter. -/
theorem serve_limited (server : Server) {channel : Channel} (hchannel : channel.Pristine)
    (capacity : Nat) {whenFull : Behaviour} (hfirm : whenFull ≠ .succeeds) {chunk : Option Nat}
    (hchunk : chunk ≠ some 0) :
    let served := server.serve channel
    let cut := server.serve (channel.limited capacity whenFull chunk)
    cut.2.connection.sent.toList = served.2.connection.sent.toList.take capacity ∧
      (served.2.connection.sent.size ≤ capacity →
        cut.1 = served.1 ∧ cut.2.connection.shutdown = served.2.connection.shutdown) := by
  intro served cut
  have habreast := Channel.abreast_limited hchannel.sent hchannel.ready.reliable capacity hfirm
    chunk
  have hgrows := (server.leads_serve (channel.limited capacity whenFull chunk)).grows
  have htakes : ∀ bytes : Bytes, cut.2.connection.Takes bytes ↔ bytes.length ≤ capacity :=
    fun bytes => hgrows.takes.trans
      (Channel.takes_limited_iff hchannel.ready.reliable.flushing hchunk)
  have hroom : cut.2.connection.sent.size ≤ capacity := by
    refine hgrows.room capacity rfl ?_
    show channel.connection.sent.size ≤ capacity
    rw [hchannel.sent]
    exact Nat.zero_le _
  have hserve := server.inStep_serve habreast
  cases hserve with
  | abreast hresult habreast =>
    have hsent : cut.2.connection.sent = served.2.connection.sent := habreast.sent
    refine ⟨?_, fun _ => ⟨hresult, habreast.shutdown⟩⟩
    rw [← hsent, List.take_of_length_le ((htakes _).1 habreast.takes)]
  | behind _ hbehind =>
    refine ⟨?_, fun hle => absurd ((htakes _).2 hle) hbehind.short⟩
    have hflush : cut.2.connection.flushing = .succeeds :=
      hgrows.flushing.trans hchannel.ready.reliable.flushing
    have hfull := hbehind.broken.fails.resolve_left fun hnot => hnot hflush
    have hsize : cut.2.connection.sent.size = capacity := by
      rcases hgrows.short.1 hfull with hzero | ⟨_, hcapacity, hlt⟩
      · exact absurd hzero hchunk
      · cases hcapacity
        exact Nat.le_antisymm hroom (Nat.le_of_lt_succ hlt)
    rw [← hsize]
    exact List.prefix_iff_eq_take.1 (hbehind.sent hflush)

/-- Of a response that is cut off after thirty bytes the first thirty are sent. With room for all of
it, nothing is different. -/
theorem serve_limited_echo :
    let channel : Channel := .new (.new [.data (Record.encodeAll (echo 0 [105]))]) ⟨1⟩
    let served := standardServer.serve channel
    let cut (capacity : Nat) := standardServer.serve (channel.limited capacity .stalls (some 7))
    channel.Pristine ∧
      (cut 30).2.connection.sent.toList = served.2.connection.sent.toList.take 30 ∧
      (cut 30).1 = .error (.timeout ⟨1⟩) ∧
      (cut 1000).1 = .ok () ∧ (cut 1000).2.connection.shutdown = true := by
  intro channel served cut
  have hpristine : channel.Pristine := ⟨⟨Connection.reliable_new _, rfl⟩, rfl, rfl, rfl⟩
  have hfirm : Behaviour.stalls ≠ .succeeds := by decide
  have hchunk : some 7 ≠ some 0 := by decide
  have hlimited := fun capacity => serve_limited standardServer hpristine capacity hfirm hchunk
  have hroom : served.2.connection.sent.size ≤ 1000 := by decide +kernel
  obtain ⟨hresult, hshutdown⟩ := (hlimited 1000).2 hroom
  refine ⟨hpristine, (hlimited 30).1, by decide +kernel, ?_, ?_⟩
  · exact hresult.trans (by decide +kernel)
  · exact hshutdown.trans (by decide +kernel)

/-- What is overlooked is not reported. -/
theorem serve_of_overlooks {server : Server} {channel : Channel}
    (h : server.Overlooks (server.firstSession channel)) : (server.serve channel).1 = .ok () := by
  obtain ⟨_, session, record, reply, limit, hreaches, hoverlooks⟩ := h
  have hreceive : session.channel.receive = (.ok record, session.channel.receive.2) :=
    Prod.ext hoverlooks.receives rfl
  have hid : record.id = managementId := by
    simpa [Record.isManagement] using hoverlooks.management
  have hprocess : session.request.process record = (.ok (.reply reply), session.request) := by
    rw [Request.process_of_management _ hid, hoverlooks.answer]
  obtain ⟨left, hsend⟩ : ∃ left, (session.request.tellRemark record
      session.channel.receive.2).sendRecord reply = (.error (.timeout limit), left) :=
    ⟨_, Prod.ext hoverlooks.stalls rfl⟩
  rw [serve_eq_of_reaches hreaches, move, hreceive]
  simp only [handle, hprocess, hsend, finish, abandon, leave, hoverlooks.fresh]
  rfl

/-- **Failures to write that are reported.** A connection that takes all that is sent is served like
a willing one. If it does not, then serving it comes to an error, with one exception: if the answer
to a management record takes too long before a request has begun, that is taken for silence between
two requests, and reported as success. -/
theorem result_serve_iff (server : Server) {channel : Channel}
    (hsent : channel.connection.sent = #[]) (hfirm : channel.connection.whenFull ≠ .succeeds) :
    let served := server.serve channel
    let willing := server.serve channel.onWilling
    (channel.connection.Takes willing.2.connection.sent.toList →
        served.1 = willing.1 ∧ served.2.connection.sent = willing.2.connection.sent ∧
          served.2.connection.shutdown = willing.2.connection.shutdown) ∧
      (¬channel.connection.Takes willing.2.connection.sent.toList →
        (served.1 = .ok () ↔ server.Overlooks (server.firstSession channel))) := by
  intro served willing
  have hgrows := (server.leads_serve channel).grows
  cases server.inStep_serve (Channel.abreast_onWilling hsent hfirm) with
  | abreast hresult habreast =>
    refine ⟨fun _ => ⟨hresult, habreast.sent, habreast.shutdown⟩, fun hshort => ?_⟩
    have htakes := hgrows.takes.1 habreast.takes
    rw [habreast.sent] at htakes
    exact absurd htakes hshort
  | behind hresult hbehind =>
    refine ⟨fun htakes => ?_, fun _ => ⟨hresult, serve_of_overlooks⟩⟩
    exact absurd (hgrows.takes.2 htakes) hbehind.short

/-- A peer that sends some records and then reads nothing of what it is sent. -/
def deafPeer (records : List Record) : Channel :=
  .new { Connection.new [.data (Record.encodeAll records)] with
    capacity := some 0, whenFull := .stalls } ⟨5000000000⟩

/-- A query for no variable. -/
def emptyQuery : Record := ⟨version1, .getValues, managementId, [], 0⟩

/-- What is to be sent to a peer that reads nothing cannot be. -/
theorem not_takes_deafPeer {records : List Record} {bytes : Bytes} (h : bytes ≠ []) :
    ¬(deafPeer records).connection.Takes bytes := by
  rintro (hnil | ⟨-, hroom⟩)
  · exact h hnil
  · exact hroom (.inr ⟨0, rfl, List.length_pos_iff.2 h⟩)

/-- A query that is not answered in time is overlooked before a request has begun, but not behind
its BEGIN record. -/
theorem result_serve_iff_deafPeer :
    standardServer.Overlooks (standardServer.firstSession (deafPeer [emptyQuery])) ∧
      ¬standardServer.Overlooks (standardServer.firstSession
        (deafPeer ((echo 0 []).take 1 ++ [emptyQuery]))) ∧
      (standardServer.serve (deafPeer ((echo 0 []).take 1 ++ [emptyQuery]))).1 =
        .error (.timeout ⟨5000000000⟩) := by
  have hstalls : (standardServer.serve (deafPeer ((echo 0 []).take 1 ++ [emptyQuery]))).1 =
      .error (.timeout ⟨5000000000⟩) := by decide +kernel
  have hearly := (@result_serve_iff standardServer (deafPeer [emptyQuery]) rfl (by decide)).2
    (not_takes_deafPeer (by decide +kernel))
  have hlate := (@result_serve_iff standardServer (deafPeer ((echo 0 []).take 1 ++ [emptyQuery]))
    rfl (by decide)).2 (not_takes_deafPeer (by decide +kernel))
  refine ⟨hearly.1 (by decide +kernel), fun hoverlooks => ?_, hstalls⟩
  cases hstalls.symm.trans (hlate.2 hoverlooks)

/-- A peer that asks before it begins a request, and does not read the answer, is served
successfully, although nothing of the answer could be sent. -/
theorem serve_unread_answer :
    ¬(deafPeer [emptyQuery]).connection.Takes
        (standardServer.serve (deafPeer [emptyQuery]).onWilling).2.connection.sent.toList ∧
      (standardServer.serve (deafPeer [emptyQuery])).2.connection.sent = #[] ∧
      (standardServer.serve (deafPeer [emptyQuery])).1 = .ok () :=
  ⟨not_takes_deafPeer (by decide +kernel), by decide +kernel, by decide +kernel⟩

end Server

end FastCgi
