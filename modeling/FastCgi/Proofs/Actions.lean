import FastCgi.Proofs.Moves
import Mathlib.Logic.Relation

/-!
# What is done to a channel

All that serving does to a channel comes to five actions: it receives, writes, closes, makes log
entries and keeps track of the open streams. `Channel.Leads` says that a channel comes from another
one by such actions, and every operation on channels leads from the one that it is given to the one
that it leaves, up to a whole run of serving (`Server.leads_finish`). Whatever each action preserves
is therefore preserved by serving, also where writes fail; `Leads.shutdown_of_opened` is an example.
-/

namespace FastCgi

namespace Connection

/-! ## Writing and closing -/

/-- To perform an operation may take some time, and does nothing else. -/
theorem perform_eq_with (connection : Connection) (limit : Duration) (behaviour : Behaviour) :
    ∃ pause, (connection.perform limit behaviour).2 = { connection with pause } := by
  cases behaviour <;> exact ⟨_, rfl⟩

/-- A write takes some of its bytes from the front, and perhaps some time. -/
theorem write_eq_accept (connection : Connection) (limit : Duration) (bytes : Bytes) :
    ∃ taken pause, taken <+: bytes ∧
      (connection.write limit bytes).2 = { connection.accept taken with pause } := by
  induction connection, bytes using write.induct with
  | case1 connection =>
    obtain ⟨pause, hflush⟩ := connection.perform_eq_with limit connection.flushing
    exact ⟨[], pause, List.prefix_rfl, by rw [write_nil, hflush, accept_nil]⟩
  | case2 connection bytes hbytes hall =>
    obtain ⟨pause, hflush⟩ := (connection.accept bytes).perform_eq_with limit connection.flushing
    exact ⟨bytes, pause, List.prefix_rfl, by
      rw [write_of_unbounded _ _ hbytes hall]; exact hflush⟩
  | case3 connection bytes hbytes hzero =>
    obtain ⟨pause, hrefuse⟩ := connection.perform_eq_with limit connection.refusal
    exact ⟨[], pause, List.nil_prefix, by
      rw [write_of_refused _ _ hbytes hzero, hrefuse, accept_nil]⟩
  | case4 connection bytes hbytes n hsome _ ih =>
    obtain ⟨taken, pause, hfront, hrest⟩ := ih
    refine ⟨bytes.take (n + 1) ++ taken, pause, ?_, ?_⟩
    · have := (List.prefix_append_right_inj (bytes.take (n + 1))).2 hfront
      rwa [List.take_append_drop] at this
    · rw [write_of_accepted _ _ hbytes hsome, ← accept_accept]
      exact hrest

/-- To close a connection is noted, and takes some time if it stalls. -/
theorem close_eq (connection : Connection) (limit : Duration) :
    (connection.close limit).2 =
      { connection with
        shutdowns := connection.shutdowns + 1
        pause :=
          connection.pause - if connection.closing = .stalls then limit.nanoseconds else 0 } := by
  unfold close
  cases connection.closing <;> rfl

end Connection

namespace Channel

/-- To write to an open channel is to write to its connection. -/
theorem connection_write {channel : Channel} (hopened : channel.closed = false) (bytes : Bytes) :
    (channel.write bytes).2.connection =
      (channel.connection.write channel.timeout bytes).2 := by
  rw [write, if_neg (by simp [hopened])]
  split <;> next h => rw [h]

/-- Writing changes nothing about a channel but its connection. -/
theorem write_eq_with (channel : Channel) (bytes : Bytes) :
    ∃ taken pause, taken <+: bytes ∧ (channel.write bytes).2 =
      { channel with connection := { channel.connection.accept taken with pause } } := by
  unfold write
  split
  · exact ⟨[], channel.connection.pause, List.nil_prefix, by rw [Connection.accept_nil]⟩
  · obtain ⟨taken, pause, hfront, hwrite⟩ :=
      channel.connection.write_eq_accept channel.timeout bytes
    refine ⟨taken, pause, hfront, ?_⟩
    rw [← hwrite]
    split <;> next h => rw [h]

/-- To close a channel closes its connection. -/
theorem close_eq_with {channel : Channel} (hopened : channel.closed = false) :
    ∃ journal, channel.close =
      { channel with
        closed := true, connection := (channel.connection.close channel.timeout).2, journal } := by
  unfold close
  rw [if_neg (by simp [hopened])]
  split <;> next h => rw [h]; exact ⟨_, rfl⟩

/-! ## Actions -/

/-- One thing that is done to a channel. -/
inductive Action (channel : Channel) : Channel → Prop
  | receive : Action channel channel.receive.2
  | write (bytes : Bytes) : Action channel (channel.write bytes).2
  | close : Action channel channel.close
  | tell (level : Level) (topic : Topic) (message : String) :
    Action channel (channel.tell level topic message)
  /-- Some streams are taken to be open from now on. -/
  | track (streams : List (RecordType × UInt16)) :
    Action channel { channel with openStreams := streams }

/-- The second channel comes from the first by some actions, one after another. -/
abbrev Leads : Channel → Channel → Prop := Relation.ReflTransGen Action

theorem Action.leads {channel channel' : Channel} (h : channel.Action channel') :
    channel.Leads channel' := .single h

/-- Operations in turn come to actions, if each of them does. -/
theorem Leads.andThen {α β : Type} {channel : Channel} {outcome : Outcome α}
    {next : α → Channel → Outcome β} (h : channel.Leads outcome.2)
    (hnext : ∀ (a : α) (channel : Channel), channel.Leads (next a channel).2) :
    channel.Leads (outcome.andThen next).2 := by
  obtain ⟨_ | a, channel'⟩ := outcome
  · exact h
  · exact h.trans (hnext a channel')

section

variable (channel : Channel)

theorem leads_tell (level : Level) (topic : Topic) (message : String) :
    channel.Leads (channel.tell level topic message) := (Action.tell ..).leads

theorem leads_receive : channel.Leads channel.receive.2 := Action.receive.leads

theorem leads_write (bytes : Bytes) : channel.Leads (channel.write bytes).2 :=
  (Action.write bytes).leads

theorem leads_close : channel.Leads channel.close := Action.close.leads

theorem leads_track (streams : List (RecordType × UInt16)) :
    channel.Leads { channel with openStreams := streams } := (Action.track streams).leads

/-- Sending a record is a log entry and a write. -/
theorem leads_sendRecord (record : Record) : channel.Leads (channel.sendRecord record).2 :=
  (leads_tell ..).trans (leads_write ..)

/-- Sending a content is sending its record, unless no record can hold it. -/
theorem leads_send (type : RecordType) (id : UInt16) (content : Bytes) :
    channel.Leads (channel.send type id content).2 := by
  unfold send
  split
  · exact .refl
  · exact leads_sendRecord ..

/-- Sending data on a stream is a write and a note that the stream is open, if there is data at
all. -/
theorem leads_sendStream (type : RecordType) (id : UInt16) (data : Bytes) :
    channel.Leads (channel.sendStream type id data).2 := by
  unfold sendStream
  split
  · exact .refl
  · exact (leads_tell ..).trans ((leads_write ..).andThen fun _ channel => channel.leads_track _)

/-- Ending a stream is sending its last record, and a note that the stream is not open any more. -/
theorem leads_endStream (type : RecordType) (id : UInt16) :
    channel.Leads (channel.endStream type id).2 :=
  (leads_sendRecord ..).andThen fun _ channel => channel.leads_track _

/-- Ending several streams is ending one after another, up to the first that cannot be ended. -/
theorem leads_endStreams (id : UInt16) (types : List RecordType) :
    channel.Leads (channel.endStreams id types).2 := by
  induction types generalizing channel with
  | nil => exact .refl
  | cons type types ih => exact (leads_endStream ..).andThen fun _ _ => ih _

/-- Ending the streams of a request is ending those of them that are open. -/
theorem leads_endOpenStreams (id : UInt16) : channel.Leads (channel.endOpenStreams id).2 :=
  leads_endStreams ..

/-- Ending a request is sending its last record, and closing unless the connection is kept. -/
theorem leads_sendEnd (id : UInt16) (status : ProtocolStatus) (exitCode : Int32) (keep : Bool) :
    channel.Leads (channel.sendEnd id status exitCode keep).2 := by
  refine (leads_send ..).andThen fun _ channel => ?_
  cases keep
  · exact (channel.leads_tell .debug .channel _).trans (leads_close _)
  · exact channel.leads_tell .debug .channel _

end

end Channel

/-! ## Applications -/

namespace Output

/-- Goes on with the output and the channel of an operation that succeeded. -/
def Outcome.andThen (outcome : Output.Outcome) (next : Output → Channel → Output.Outcome) :
    Output.Outcome :=
  match outcome with
  | (.error e, output, channel) => (.error e, output, channel)
  | (.ok (), output, channel) => next output channel

/-- An operation on an output that fails or not with something that is sent. -/
def ofSending (outcome : Channel.Outcome Unit) (failed done : Output) : Output.Outcome :=
  match outcome with
  | (.error e, channel) => (.error e, failed, channel)
  | (.ok (), channel) => (.ok (), done, channel)

/-- What is left of a flush once STDERR has been sent. -/
def endFlush (final : Bool) (output : Output) (channel : Channel) : Output.Outcome :=
  if final then output.finish channel else (.ok (), output, channel)

/-- A flush as the steps that it takes, each of them only if the one before has succeeded. -/
theorem flush_eq (output : Output) (channel : Channel) (final : Bool) :
    output.flush channel final =
      if output.finished then (.ok (), output, channel)
      else Outcome.andThen (output.sendStdout channel) fun output channel =>
        Outcome.andThen (output.sendStderr channel) (endFlush final) := rfl

/-- Operations on an output in turn come to actions, if the later one does. -/
theorem leads_andThen {outcome : Output.Outcome} {next : Output → Channel → Output.Outcome}
    (hnext : ∀ (output : Output) (channel : Channel), channel.Leads (next output channel).2.2) :
    outcome.2.2.Leads (Outcome.andThen outcome next).2.2 := by
  obtain ⟨_ | _, output, channel⟩ := outcome
  · exact .refl
  · exact hnext output channel

/-- What is noted about an output does not touch the channel. -/
theorem leads_ofSending (outcome : Channel.Outcome Unit) (failed done : Output) :
    outcome.2.Leads (ofSending outcome failed done).2.2 := by
  obtain ⟨_ | _, channel⟩ := outcome <;> exact .refl

variable (output : Output) (channel : Channel)

/-- What was written to STDOUT is sent as a stream. -/
theorem leads_sendStdout : channel.Leads (output.sendStdout channel).2.2 := by
  unfold sendStdout
  split
  · exact .refl
  · exact (channel.leads_sendStream ..).trans (leads_ofSending ..)

/-- What was written to STDERR is sent as a stream. -/
theorem leads_sendStderr : channel.Leads (output.sendStderr channel).2.2 := by
  unfold sendStderr
  split
  · exact .refl
  · exact (channel.leads_sendStream ..).trans (leads_ofSending ..)

/-- The streams are ended one after another. -/
theorem leads_finish : channel.Leads (output.finish channel).2.2 := by
  refine ((channel.leads_endStream ..).andThen fun _ channel => ?_).trans (leads_ofSending ..)
  split
  · exact channel.leads_endStream ..
  · exact .refl

/-- The end of a flush sends nothing, or the ends of the streams. -/
theorem leads_endFlush (final : Bool) : channel.Leads (output.endFlush final channel).2.2 := by
  unfold endFlush
  split
  · exact output.leads_finish channel
  · exact .refl

/-- A flush comes to actions, however far it gets. -/
theorem leads_flush (final : Bool) : channel.Leads (output.flush channel final).2.2 := by
  rw [flush_eq]
  split
  · exact .refl
  refine (output.leads_sendStdout channel).trans (leads_andThen fun output channel => ?_)
  refine (output.leads_sendStderr channel).trans (leads_andThen fun output channel => ?_)
  exact output.leads_endFlush channel final

end Output

/-- A program touches its channel by log entries and flushes only. -/
theorem Program.leads_exec {α : Type} (program : Program α) (output : Output) (channel : Channel) :
    channel.Leads (program.exec output channel).2.2 := by
  induction program generalizing output channel with
  | done | fail | crash => exact .refl
  | stdout _ _ ih | stderr _ _ ih => exact ih ..
  | tell level topic message _ ih =>
    exact (channel.leads_tell level topic message).trans (ih ..)
  | flush final next ih => exact (output.leads_flush channel final).trans (ih ..)

/-! ## Receiving a request -/

namespace Request

/-- A remark about a record is a log entry, or nothing. -/
theorem leads_tellRemark (request : Request) (record : Record) (channel : Channel) :
    channel.Leads (request.tellRemark record channel) := by
  unfold tellRemark
  split
  · exact channel.leads_tell ..
  · exact .refl

/-- A run receives, replies and makes log entries. -/
theorem leads_run (request : Request) (channel : Channel) :
    channel.Leads (request.run channel).2.2 := by
  induction request, channel using run.induct with
  | case1 request channel e received hreceive =>
    have hreceived := channel.leads_receive
    rw [hreceive] at hreceived
    rw [run_eq, hreceive]
    exact hreceived
  | case2 request channel e received hnot hreceive =>
    have hreceived := channel.leads_receive
    rw [hreceive] at hreceived
    rw [run_eq, hreceive]
    cases e with
    | protocol e => exact absurd rfl (hnot e)
    | closed | timeout | io => exact hreceived
  | case3 request channel record received hreceive _ told _ reason request' hprocess
  | case4 request channel record received hreceive _ told _ request' hprocess =>
    have hreceived := channel.leads_receive
    rw [hreceive] at hreceived
    rw [run_eq, hreceive]
    simp only [hprocess]
    exact hreceived.trans (request.leads_tellRemark record received)
  | case5 request channel record received hreceive _ told _ request' hprocess ih =>
    have hreceived := channel.leads_receive
    rw [hreceive] at hreceived
    rw [run_eq, hreceive]
    simp only [hprocess]
    exact (hreceived.trans (request.leads_tellRemark record received)).trans ih
  | case6 request channel record received hreceive _ told _ reply request' hprocess e sent hsend =>
    have hreceived := channel.leads_receive
    have hsent := told.leads_sendRecord reply
    rw [hreceive] at hreceived
    rw [hsend] at hsent
    rw [run_eq, hreceive]
    simp only [hprocess, show (request.tellRemark record received).sendRecord reply = _ from hsend]
    exact (hreceived.trans (request.leads_tellRemark record received)).trans hsent
  | case7 request channel record received hreceive _ told _ reply request' hprocess sent hsend _
      ih =>
    have hreceived := channel.leads_receive
    have hsent := told.leads_sendRecord reply
    rw [hreceive] at hreceived
    rw [hsend] at hsent
    rw [run_eq, hreceive]
    simp only [hprocess, show (request.tellRemark record received).sendRecord reply = _ from hsend]
    exact ((hreceived.trans (request.leads_tellRemark record received)).trans hsent).trans ih

end Request

/-! ## Serving -/

/-- The channel after a move. -/
def Move.channel : Move → Channel
  | .on session => session.channel
  | .off _ channel => channel

namespace Server

/-- How an application ends that came to a result or failed, by the last flush of its output. -/
def afterFlush (ran : Except RoleError Int32) (flushed : Ending Unit × Output × Channel) :
    RoleOutcome × Channel :=
  match ran, flushed with
  | _, (.crashed reason, _, channel) => (.crashed (crashReason reason), channel)
  | .ok exitCode, (.done (), _, channel) => (.finished exitCode, channel)
  | .ok _, (.failed error, _, channel) => (.failed error, channel)
  | .error error, (.done (), _, channel) => (.failed error, channel)
  | .error error, (.failed flushError, _, channel) =>
    (.failed error, channel.tell .debug .dispatch
      s!"Final flush after role failure also failed: {flushError.message}")

/-- How the last flush turned out is told in log entries. -/
theorem leads_afterFlush (ran : Except RoleError Int32)
    (flushed : Ending Unit × Output × Channel) :
    flushed.2.2.Leads (afterFlush ran flushed).2 := by
  unfold afterFlush
  split
  · exact .refl
  · exact .refl
  · exact .refl
  · exact .refl
  · exact Channel.leads_tell ..

/-- An application that has not broken down flushes its output for the last time. -/
theorem invoke_eq (role : Role) (id : UInt16) (channel : Channel) :
    invoke role id channel =
      match role.run.exec (.new id) channel with
      | (.crashed reason, _, channel) => (.crashed (crashReason reason), channel)
      | (.done exitCode, output, channel) =>
        afterFlush (.ok exitCode) ((role.flush true).exec output channel)
      | (.failed error, output, channel) =>
        afterFlush (.error error) ((role.flush true).exec output channel) := by
  rcases hrun : role.run.exec (.new id) channel with ⟨ending, output, channel'⟩
  rw [invoke, hrun]
  cases ending with
  | crashed => rfl
  | done | failed =>
    rcases hflush : (role.flush true).exec output channel' with ⟨ending, _, _⟩
    simp only [hflush]
    cases ending <;> rfl

/-- What is left for an application to do after it has run comes to actions as well. -/
theorem leads_invoke_of_run (role : Role) (id : UInt16) (channel : Channel) :
    (role.run.exec (.new id) channel).2.2.Leads (invoke role id channel).2 := by
  rw [invoke_eq]
  split
  next h => rw [h]
  next h =>
    rw [h]
    exact ((role.flush true).leads_exec ..).trans (leads_afterFlush ..)
  next h =>
    rw [h]
    exact ((role.flush true).leads_exec ..).trans (leads_afterFlush ..)

/-- Setting an application to work comes to actions, whether it ends, fails or breaks down. -/
theorem leads_invoke (role : Role) (id : UInt16) (channel : Channel) :
    channel.Leads (invoke role id channel).2 :=
  (role.run.leads_exec (.new id) channel).trans (leads_invoke_of_run ..)

/-- A request that failed is ended with a record. -/
theorem leads_endFailed (id : UInt16) (channel : Channel) :
    channel.Leads (endFailed id channel).2 :=
  (Channel.leads_sendEnd ..).andThen fun _ _ => .refl

section

variable (server : Server)

/-- What is left to do about a request once its application has ended comes to actions as well. -/
theorem leads_dispatch_of_invoke {server : Server} {context : Context} {factory : RoleFactory}
    (hfactory : server.roles.resolve? context.role = some factory) (channel : Channel) :
    (invoke (factory context server.services) context.id channel).2.Leads
      (server.dispatch context channel).2 := by
  simp only [dispatch, hfactory]
  split
  next h =>
    rw [h]
    exact (Channel.leads_tell ..).trans ((Channel.leads_sendEnd ..).andThen fun _ _ => .refl)
  next h => rw [h]
  next h =>
    rw [h]
    exact (Channel.leads_tell ..).trans (leads_endFailed ..)
  next h =>
    rw [h]
    exact (Channel.leads_tell ..).trans
      ((Channel.leads_endOpenStreams ..).andThen fun _ _ => leads_endFailed ..)

/-- Dispatching a request comes to what its application does, or to one record that says that the
role is not known. -/
theorem leads_dispatch (context : Context) (channel : Channel) :
    channel.Leads (server.dispatch context channel).2 := by
  cases hfactory : server.roles.resolve? context.role with
  | none =>
    simp only [dispatch, hfactory]
    exact (channel.leads_tell ..).trans ((Channel.leads_sendEnd ..).andThen fun _ _ => .refl)
  | some factory => exact (leads_invoke ..).trans (leads_dispatch_of_invoke hfactory channel)

/-- Refusing a request is a log entry and a record that ends the request, if it has an id. -/
theorem leads_refuse (request : Request) (reason : AbortReason) (channel : Channel) :
    channel.Leads (refuse request reason channel).2 := by
  unfold refuse
  dsimp only
  split
  · exact channel.leads_tell ..
  · exact (channel.leads_tell ..).trans ((Channel.leads_sendEnd ..).andThen fun _ _ => .refl)

/-- A request is answered by its application if it is complete, and is refused otherwise. -/
theorem leads_answer (request : Request) (outcome : RunOutcome) (channel : Channel) :
    channel.Leads (server.answer request outcome channel).2 := by
  cases outcome
  · exact server.leads_dispatch ..
  · exact leads_refuse ..

/-- What is left to do after the answer is to close the channel, or nothing. -/
theorem leads_conclude_of_answer (request : Request) (outcome : RunOutcome) (channel : Channel) :
    (server.answer request outcome channel).2.Leads
      (server.conclude request outcome channel).2 := by
  unfold conclude
  split
  next h => rw [h]
  next h => rw [h]
  next h => rw [h]; exact Channel.leads_close _

/-- Answering a request and drawing the conclusion comes to actions. -/
theorem leads_conclude (request : Request) (outcome : RunOutcome) (channel : Channel) :
    channel.Leads (server.conclude request outcome channel).2 :=
  (server.leads_answer ..).trans (server.leads_conclude_of_answer ..)

/-- Leaving a connection is telling why, and closing it unless the peer or a fault has ended it. -/
theorem leads_leave (error : TransportError) (request : Request) (channel : Channel) :
    channel.Leads (leave error request channel).2 := by
  unfold leave
  split
  · exact channel.leads_tell ..
  · split
    · exact .refl
    · exact (channel.leads_tell ..).trans (Channel.leads_close _)
  · exact .refl
  · exact .refl

/-- Settling what a run has come to is drawing the conclusion, if the run is at its end. -/
theorem leads_settle (request : Request) (outcome : RunOutcome) (channel : Channel) :
    channel.Leads (server.settle request outcome channel).channel := by
  have hconclude := server.leads_conclude request outcome channel
  unfold settle
  split <;> next h => rw [h] at hconclude; exact hconclude

/-- Handling a record is processing it, and replying to it or settling the request. -/
theorem leads_handle (request : Request) (record : Record) (channel : Channel) :
    channel.Leads (server.handle request record channel).channel := by
  have htold := request.leads_tellRemark record channel
  unfold handle
  dsimp only
  split
  · exact htold.trans (server.leads_settle ..)
  · exact htold.trans (server.leads_settle ..)
  · exact htold
  next reply _ _ =>
    have hsent := (request.tellRemark record channel).leads_sendRecord reply
    split
    next h => rw [h] at hsent; exact (htold.trans hsent).trans (leads_leave ..)
    next h => rw [h] at hsent; exact htold.trans hsent

/-- A move is receiving and handling a record, or leaving the connection. -/
theorem leads_move (session : Session) :
    session.channel.Leads (server.move session).2.channel := by
  have hreceived := session.channel.leads_receive
  unfold move
  split
  next h => rw [h] at hreceived; exact hreceived.trans (server.leads_settle ..)
  next h => rw [h] at hreceived; exact hreceived.trans (leads_leave ..)
  next h => rw [h] at hreceived; exact hreceived.trans (server.leads_handle ..)

/-- A session is reached by moves, so its channel is reached by actions. -/
theorem leads_of_reaches {server : Server} {start session : Session} {received : List Record}
    (h : server.Reaches start received session) : start.channel.Leads session.channel := by
  induction h with
  | start => exact .refl
  | @move _ session _ _ _ hmove ih =>
    have hled := server.leads_move session
    rw [hmove] at hled
    exact ih.trans hled

/-- Whatever is left of serving, it comes to actions on the channel. -/
theorem leads_finish (after : Move) : after.channel.Leads (server.finish after).2 := by
  cases after with
  | off result channel => exact .refl
  | on session =>
    obtain ⟨_, session', _, hstops⟩ := exists_stop (.start : server.Reaches session [] session)
    have hled := server.leads_move session'
    rw [hstops.move] at hled
    exact (leads_of_reaches hstops.reaches).trans hled

/-- All that serving does to a channel comes to actions. -/
theorem leads_serve (channel : Channel) : channel.Leads (server.serve channel).2 := by
  rw [serve_eq_proceed]
  exact server.leads_finish (.on (server.firstSession channel))

end

end Server

/-! ## What actions preserve -/

namespace Channel

/-- A channel whose stream is asked to be closed is closed with it. -/
theorem Leads.shutdown_of_opened {channel channel' : Channel} (h : channel.Leads channel')
    (hstart : channel.closed = false → channel.connection.shutdown = false) :
    channel'.closed = false → channel'.connection.shutdown = false := by
  induction h with
  | refl => exact hstart
  | @tail between after _ haction ih =>
    intro hopened
    cases haction with
    | receive =>
      have hshutdown := between.exchanges_receive.shutdown
      cases hclosed : between.closed with
      | false => exact hshutdown.trans (ih hclosed)
      | true =>
        rw [receive, if_pos hclosed, hclosed] at hopened
        cases hopened
    | write bytes =>
      obtain ⟨_, _, -, hwrite⟩ := between.write_eq_with bytes
      rw [hwrite] at hopened ⊢
      exact ih hopened
    | close =>
      rw [closed_close] at hopened
      cases hopened
    | tell => exact ih hopened
    | track => exact ih hopened

end Channel

end FastCgi
