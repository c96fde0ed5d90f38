import FastCgi.Proofs.OpenStreams
import FastCgi.Proofs.Room

/-!
# Two channels in lockstep

What serving comes to on a connection that may give out is compared with what it comes to on a
willing one, which takes all that is sent. As long as nothing fails, both channels are `Abreast`:
the same has been sent, and the same is left to read. With the first write that fails, the actual
channel falls `Behind`. What is done to the two from then on may differ, but the actual one has
given out, and whatever else is tried on it fails (`Broken`).

Every operation keeps the channels in step in this sense (`InStep`), up to the answer to a request
(`Server.inStep_answer`): one that falls behind comes to an error, since no request is concluded
without one more record being sent.
-/

namespace FastCgi

namespace Channel

/-! ## Channels that have given out -/

/-- A channel on which every write fails from now on. -/
structure Broken (channel : Channel) : Prop where
  firm : channel.connection.whenFull ≠ .succeeds
  fails : channel.connection.flushing ≠ .succeeds ∨ channel.connection.Full

/-- An operation has failed. -/
def Outcome.Failed {α : Type} (outcome : Outcome α) : Prop := ∃ e, outcome.1 = .error e

/-- What follows an operation that has failed is not done. -/
theorem Outcome.Failed.andThen {α β : Type} {outcome : Outcome α} (h : outcome.Failed)
    (next : α → Channel → Outcome β) : (outcome.andThen next).Failed := by
  obtain ⟨e, he⟩ := h
  obtain ⟨result, channel⟩ := outcome
  obtain rfl : result = .error e := he
  exact ⟨e, rfl⟩

/-- A write that its connection does not complete has failed. -/
theorem failed_write {channel : Channel} {bytes : Bytes}
    (h : (channel.connection.write channel.timeout bytes).1 ≠ .done) :
    (channel.write bytes).Failed := by
  unfold write Outcome.Failed
  split
  · exact ⟨_, rfl⟩
  · split
    next hwrite => rw [hwrite] at h; exact absurd rfl h
    next => exact ⟨_, rfl⟩
    next => exact ⟨_, rfl⟩

/-- On a channel that is open, a write does not fail for want of one. -/
theorem write_ne_closed {channel : Channel} (hopened : channel.closed = false) (bytes : Bytes)
    (midFrame : Bool) : (channel.write bytes).1 ≠ .error (.closed midFrame) := by
  unfold write
  rw [if_neg (by simp [hopened])]
  split <;> exact nofun

/-- On a channel that is open, sending a record does not fail for want of one. -/
theorem sendRecord_ne_closed {channel : Channel} (hopened : channel.closed = false)
    (record : Record) (midFrame : Bool) :
    (channel.sendRecord record).1 ≠ .error (.closed midFrame) := by
  unfold sendRecord
  apply write_ne_closed
  exact hopened

namespace Broken

variable {channel channel' : Channel}

/-- A channel that has given out does not recover, whatever is done to it. -/
theorem of_leads (h : channel.Broken) (hled : channel.Leads channel') : channel'.Broken := by
  have hgrows := hled.grows
  refine ⟨by rw [hgrows.whenFull]; exact h.firm, ?_⟩
  rw [hgrows.flushing]
  exact h.fails.imp_right hgrows.of_full

/-- On a channel that has given out every write fails that has something to write. -/
theorem write (h : channel.Broken) {bytes : Bytes} (hne : bytes ≠ []) :
    (channel.write bytes).Failed := by
  apply failed_write
  rcases h.fails with hflush | hfull
  · exact Connection.write_of_flushing hflush h.firm _ _
  · have hpos := List.length_pos_iff.2 hne
    exact (Connection.write_of_short h.firm _ hne (hfull.mono (by omega))).1

/-- On a channel that has given out no record can be sent. -/
theorem sendRecord (h : channel.Broken) (record : Record) : (channel.sendRecord record).Failed :=
  (h.of_leads (channel.leads_tell ..)).write record.encode_ne_nil

/-- No request can be ended on a channel that has given out. -/
theorem sendEnd (h : channel.Broken) (id : UInt16) (status : ProtocolStatus) (exitCode : Int32)
    (keep : Bool) : (channel.sendEnd id status exitCode keep).Failed := by
  have hsend : (channel.send .endRequest id (EndBody.toBytes ⟨status, exitCode⟩)).Failed := by
    rw [send, Record.new_endRequest]
    exact h.sendRecord _
  exact hsend.andThen _

end Broken

/-! ## Abreast and behind -/

/-- The same has been sent over two channels, and the same is left to read. The first of them takes
all that is sent; the second has done so up to now. -/
structure Abreast (willing actual : Channel) : Prop where
  input : willing.SameInput actual
  openStreams : actual.openStreams = willing.openStreams
  sent : actual.connection.sent = willing.connection.sent
  shutdown : actual.connection.shutdown = willing.connection.shutdown
  closing : actual.connection.closing = willing.connection.closing
  reliable : willing.connection.Reliable
  firm : actual.connection.whenFull ≠ .succeeds
  takes : actual.connection.Takes actual.connection.sent.toList

/-- The second channel has given out. Unless it is for want of a flush, it has taken the first bytes
of what has been sent over the first one, which takes all that is sent. -/
structure Behind (willing actual : Channel) : Prop where
  broken : actual.Broken
  short : ¬actual.connection.Takes willing.connection.sent.toList
  sent : actual.connection.flushing = .succeeds →
    actual.connection.sent.toList <+: willing.connection.sent.toList

/-- A channel that has fallen behind stays so, whatever is done to the two. -/
theorem Behind.of_leads {willing willing' actual actual' : Channel} (h : willing.Behind actual)
    (hwilling : willing.Leads willing') (hactual : actual.Leads actual') :
    willing'.Behind actual' where
  broken := h.broken.of_leads hactual
  short htakes := by
    have htakes' := hactual.grows.takes.1 htakes
    exact h.short (htakes'.of_prefix hwilling.grows.sent)
  sent hflush := by
    rw [hactual.grows.flushing] at hflush
    have hfull := h.broken.fails.resolve_left fun hnot => hnot hflush
    rw [hactual.grows.full hfull]
    exact (h.sent hflush).trans hwilling.grows.sent

/-- After an operation on two channels that were abreast they are so again, and the operation comes
to the same; or else the second one has fallen behind. -/
inductive InStep (same fails : Prop) (willing actual : Channel) : Prop
  | abreast (h : same) (habreast : willing.Abreast actual)
  | behind (h : fails) (hbehind : willing.Behind actual)

/-- Two outcomes are the same, and their channels are abreast; or else the second one has failed and
its channel has fallen behind. -/
def Outcome.InStep {α : Type} (outcome outcome' : Outcome α) : Prop :=
  Channel.InStep (outcome'.1 = outcome.1) outcome'.Failed outcome.2 outcome'.2

/-- Operations in turn are in step, if each of them is. Once the second channel has fallen behind,
it stays behind, whatever is done on the first one. -/
theorem Outcome.InStep.andThen {α β : Type} {outcome outcome' : Outcome α}
    {next : α → Channel → Outcome β} (h : outcome.InStep outcome')
    (hleads : ∀ (a : α) (channel : Channel), channel.Leads (next a channel).2)
    (hnext : ∀ (a : α) {willing actual : Channel}, willing.Abreast actual →
      (next a willing).InStep (next a actual)) :
    (outcome.andThen next).InStep (outcome'.andThen next) := by
  obtain ⟨result, willing⟩ := outcome
  obtain ⟨result', actual⟩ := outcome'
  cases h with
  | abreast hsame habreast =>
    obtain rfl : result' = result := hsame
    cases result' with
    | error e => exact .abreast rfl habreast
    | ok a => exact hnext a habreast
  | behind hfailed hbehind =>
    obtain ⟨e, rfl⟩ : ∃ e, result' = .error e := hfailed
    refine .behind ⟨e, rfl⟩ (hbehind.of_leads ?_ .refl)
    exact Leads.andThen .refl hleads

/-! ## Sending -/

namespace Abreast

variable {willing actual : Channel}

/-- Log entries may differ: they are not looked at. -/
theorem tell (h : willing.Abreast actual) (level level' : Level) (topic topic' : Topic)
    (message message' : String) :
    (willing.tell level topic message).Abreast (actual.tell level' topic' message') :=
  ⟨⟨h.input.script, h.input.pause, h.input.buffer, h.input.timeout, h.input.closed⟩, h.openStreams,
    h.sent, h.shutdown, h.closing, h.reliable, h.firm, h.takes⟩

/-- What is noted of open streams has to be the same. -/
theorem track (h : willing.Abreast actual) {streams streams' : List (RecordType × UInt16)}
    (hstreams : streams' = streams) :
    { willing with openStreams := streams }.Abreast { actual with openStreams := streams' } :=
  ⟨⟨h.input.script, h.input.pause, h.input.buffer, h.input.timeout, h.input.closed⟩, hstreams,
    h.sent, h.shutdown, h.closing, h.reliable, h.firm, h.takes⟩

/-- A write goes well on both channels, or the second one falls behind with it. -/
theorem write (h : willing.Abreast actual) {bytes : Bytes} (hne : bytes ≠ []) :
    (willing.write bytes).InStep (actual.write bytes) := by
  cases hopened : willing.closed with
  | true =>
    rw [Channel.write, Channel.write, if_pos hopened, if_pos (h.input.closed.trans hopened)]
    exact .abreast rfl h
  | false =>
  have hactual : actual.closed = false := h.input.closed.trans hopened
  rw [write_of_ready ⟨h.reliable, hopened⟩]
  have hsent : (willing.connection.accept bytes).sent.toList =
      actual.connection.sent.toList ++ bytes := by
    rw [Connection.sent_accept, h.sent]
  by_cases htakes : actual.connection.Takes (actual.connection.sent.toList ++ bytes)
  · have hwrite : actual.write bytes =
        (.ok (), { actual with connection := actual.connection.accept bytes }) := by
      rw [Channel.write, if_neg (by simp [hactual]), Connection.write_of_takes _ hne htakes]
    rw [hwrite]
    refine .abreast rfl ⟨⟨h.input.script, h.input.pause, h.input.buffer, h.input.timeout,
      h.input.closed⟩, h.openStreams, ?_, h.shutdown, h.closing, h.reliable.accept bytes, h.firm, ?_⟩
    · show actual.connection.sent ++ bytes = willing.connection.sent ++ bytes
      rw [h.sent]
    · rw [Connection.sent_accept]
      exact htakes
  · obtain ⟨hfails, hfull⟩ :=
      Connection.write_of_not_takes h.firm actual.timeout hne htakes
    have hgrows := (actual.leads_write bytes).grows
    obtain ⟨taken, pause, hfront, hwrite⟩ := actual.write_eq_with bytes
    rw [← connection_write hactual] at hfull
    refine .behind (failed_write hfails) ⟨⟨by rw [hgrows.whenFull]; exact h.firm, ?_⟩, ?_, ?_⟩
    · rw [hgrows.flushing]
      exact hfull
    · rw [hgrows.takes, hsent]
      exact htakes
    · intro _
      rw [hsent, hwrite]
      show (actual.connection.accept taken).sent.toList <+: _
      rw [Connection.sent_accept]
      exact (List.prefix_append_right_inj _).2 hfront

/-- Sending a record is a write. -/
theorem sendRecord (h : willing.Abreast actual) (record : Record) :
    (willing.sendRecord record).InStep (actual.sendRecord record) :=
  (h.tell ..).write record.encode_ne_nil

/-- A content too long for a record is refused on both channels alike, before anything is
written. -/
theorem send (h : willing.Abreast actual) (type : RecordType) (id : UInt16) (content : Bytes) :
    (willing.send type id content).InStep (actual.send type id content) := by
  unfold Channel.send
  split
  · exact .abreast rfl h
  · exact h.sendRecord _

/-- Data on a stream is one write, and the stream is noted as open only behind it. -/
theorem sendStream (h : willing.Abreast actual) (type : RecordType) (id : UInt16) (data : Bytes) :
    (willing.sendStream type id data).InStep (actual.sendStream type id data) := by
  unfold Channel.sendStream
  split
  next => exact .abreast rfl h
  next hdata =>
    have hne : Record.encodeAll (streamRecords type id data) ≠ [] :=
      Record.encodeAll_ne_nil
        (streamRecords_ne_nil (fun hnil => hdata (List.isEmpty_iff.2 hnil)) type id)
    refine Outcome.InStep.andThen ((h.tell ..).write hne)
      (fun _ channel => channel.leads_track _) ?_
    intro _ willing actual habreast
    refine .abreast rfl (habreast.track ?_)
    rw [habreast.openStreams]

/-- Ending a stream is a write, and the stream is noted as ended only behind it. -/
theorem endStream (h : willing.Abreast actual) (type : RecordType) (id : UInt16) :
    (willing.endStream type id).InStep (actual.endStream type id) := by
  refine (h.sendRecord _).andThen (fun _ channel => channel.leads_track _) ?_
  intro _ willing actual habreast
  refine .abreast rfl (habreast.track ?_)
  rw [habreast.openStreams]

/-- Several streams are ended in step, one after another. -/
theorem endStreams (h : willing.Abreast actual) (id : UInt16) (types : List RecordType) :
    (willing.endStreams id types).InStep (actual.endStreams id types) := by
  induction types generalizing willing actual with
  | nil => exact .abreast rfl h
  | cons type types ih =>
    exact (h.endStream type id).andThen (fun _ _ => leads_endStreams ..)
      fun _ _ _ habreast => ih habreast

/-- The same streams are open on both channels, so that the same are to be ended. -/
theorem endOpenStreams (h : willing.Abreast actual) (id : UInt16) :
    (willing.endOpenStreams id).InStep (actual.endOpenStreams id) := by
  unfold Channel.endOpenStreams
  rw [h.openStreams]
  exact h.endStreams ..

/-- Closing takes both channels to the same end, whatever time it takes. -/
theorem close (h : willing.Abreast actual) : willing.close.Abreast actual.close := by
  cases hopened : willing.closed with
  | true =>
    rw [Channel.close, Channel.close, if_pos hopened, if_pos (h.input.closed.trans hopened)]
    exact h
  | false =>
    obtain ⟨_, hwilling⟩ := close_eq_with hopened
    obtain ⟨_, hactual⟩ := close_eq_with (h.input.closed.trans hopened)
    rw [hwilling, hactual, Connection.close_eq, Connection.close_eq]
    refine ⟨⟨h.input.script, ?_, h.input.buffer, h.input.timeout, rfl⟩, h.openStreams, h.sent, rfl,
      h.closing, ⟨h.reliable.capacity, h.reliable.chunk, h.reliable.flushing⟩, h.firm, h.takes⟩
    dsimp only
    rw [h.input.pause, h.input.timeout, h.closing]

/-- Ending a request is a write, behind which both channels are closed or neither is. -/
theorem sendEnd (h : willing.Abreast actual) (id : UInt16) (status : ProtocolStatus)
    (exitCode : Int32) (keep : Bool) :
    (willing.sendEnd id status exitCode keep).InStep (actual.sendEnd id status exitCode keep) := by
  refine (h.send ..).andThen (fun _ channel => ?_) ?_
  · cases keep
    · exact (channel.leads_tell .debug .channel _).trans (leads_close _)
    · exact channel.leads_tell .debug .channel _
  · intro _ willing actual habreast
    cases keep
    · exact .abreast rfl (habreast.tell ..).close
    · exact .abreast rfl (habreast.tell ..)

/-- Receiving comes to the same on both channels. -/
theorem receive (h : willing.Abreast actual) :
    actual.receive.1 = willing.receive.1 ∧ willing.receive.2.Abreast actual.receive.2 := by
  obtain ⟨hresult, hinput⟩ := h.input.receive
  obtain ⟨_, _, hwilling⟩ := willing.exchanges_receive.connection
  obtain ⟨_, _, hactual⟩ := actual.exchanges_receive.connection
  rw [Record.encodeAll_nil, Connection.accept_nil] at hwilling hactual
  refine ⟨hresult, hinput, ?_, ?_, ?_, ?_, willing.exchanges_receive.reliable h.reliable, ?_, ?_⟩
  · rw [actual.exchanges_receive.openStreams, willing.exchanges_receive.openStreams, h.openStreams]
  · rw [hwilling, hactual]
    exact h.sent
  · rw [hwilling, hactual]
    exact h.shutdown
  · rw [hwilling, hactual]
    exact h.closing
  · rw [hactual]
    exact h.firm
  · rw [hactual]
    exact h.takes

end Abreast

end Channel

/-! ## Applications -/

namespace Output

open Channel (InStep)

/-- Two outcomes of an operation on an output are the same, and their channels are abreast; or else
the second one has failed and its channel has fallen behind. -/
def Outcome.InStep (outcome outcome' : Output.Outcome) : Prop :=
  Channel.InStep (outcome'.1 = outcome.1 ∧ outcome'.2.1 = outcome.2.1)
    (∃ e, outcome'.1 = .error e) outcome.2.2 outcome'.2.2

/-- Operations on an output in turn are in step, if each of them is. -/
theorem Outcome.InStep.andThen {outcome outcome' : Output.Outcome}
    {next : Output → Channel → Output.Outcome} (h : Outcome.InStep outcome outcome')
    (hleads : ∀ (output : Output) (channel : Channel), channel.Leads (next output channel).2.2)
    (hnext : ∀ (output : Output) {willing actual : Channel}, willing.Abreast actual →
      Outcome.InStep (next output willing) (next output actual)) :
    Outcome.InStep (Outcome.andThen outcome next) (Outcome.andThen outcome' next) := by
  obtain ⟨result, output, willing⟩ := outcome
  obtain ⟨result', output', actual⟩ := outcome'
  cases h with
  | abreast hsame habreast =>
    obtain ⟨rfl, rfl⟩ : result' = result ∧ output' = output := hsame
    cases result' with
    | error e => exact .abreast ⟨rfl, rfl⟩ habreast
    | ok => exact hnext output' habreast
  | behind hfailed hbehind =>
    obtain ⟨e, rfl⟩ : ∃ e, result' = .error e := hfailed
    cases result with
    | error => exact .behind ⟨e, rfl⟩ hbehind
    | ok => exact .behind ⟨e, rfl⟩ (hbehind.of_leads (hleads output willing) .refl)

/-- What is noted about an output goes with what became of its channel. -/
theorem inStep_ofSending {outcome outcome' : Channel.Outcome Unit} (h : outcome.InStep outcome')
    (failed done : Output) :
    Outcome.InStep (ofSending outcome failed done) (ofSending outcome' failed done) := by
  obtain ⟨result, willing⟩ := outcome
  obtain ⟨result', actual⟩ := outcome'
  cases h with
  | abreast hsame habreast =>
    obtain rfl : result' = result := hsame
    cases result' <;> exact .abreast ⟨rfl, rfl⟩ habreast
  | behind hfailed hbehind =>
    obtain ⟨e, rfl⟩ : ∃ e, result' = .error e := hfailed
    cases result <;> exact .behind ⟨e, rfl⟩ hbehind

section

variable {willing actual : Channel} (h : willing.Abreast actual) (output : Output)

include h

/-- What was written to STDOUT is sent in step. -/
theorem inStep_sendStdout :
    Outcome.InStep (output.sendStdout willing) (output.sendStdout actual) := by
  unfold sendStdout
  split
  · exact .abreast ⟨rfl, rfl⟩ h
  · exact inStep_ofSending (h.sendStream ..) _ _

/-- What was written to STDERR is sent in step. -/
theorem inStep_sendStderr :
    Outcome.InStep (output.sendStderr willing) (output.sendStderr actual) := by
  unfold sendStderr
  split
  · exact .abreast ⟨rfl, rfl⟩ h
  · exact inStep_ofSending (h.sendStream ..) _ _

/-- The streams are ended in step. -/
theorem inStep_finish : Outcome.InStep (output.finish willing) (output.finish actual) := by
  refine inStep_ofSending ((h.endStream ..).andThen (fun _ channel => ?_) ?_) output _
  · split
    · exact channel.leads_endStream ..
    · exact .refl
  · intro _ willing actual habreast
    split
    · exact habreast.endStream ..
    · exact .abreast rfl habreast

/-- The end of a flush is in step, whether or not it is the last one. -/
theorem inStep_endFlush (final : Bool) :
    Outcome.InStep (output.endFlush final willing) (output.endFlush final actual) := by
  unfold endFlush
  split
  · exact output.inStep_finish h
  · exact .abreast ⟨rfl, rfl⟩ h

/-- A flush is in step, whatever it has to send. -/
theorem inStep_flush (final : Bool) :
    Outcome.InStep (output.flush willing final) (output.flush actual final) := by
  rw [flush_eq, flush_eq]
  split
  · exact .abreast ⟨rfl, rfl⟩ h
  refine (output.inStep_sendStdout h).andThen (fun output channel => ?_) fun output _ _ h => ?_
  · exact (output.leads_sendStderr channel).trans
      (leads_andThen fun output channel => output.leads_endFlush channel final)
  refine (output.inStep_sendStderr h).andThen (fun output channel => ?_) fun output _ _ h => ?_
  · exact output.leads_endFlush channel final
  · exact output.inStep_endFlush h final

end

end Output

/-- A program comes to the same on two channels that are abreast, or leaves one of them behind. -/
theorem Program.inStep_exec {α : Type} (program : Program α) (output : Output)
    {willing actual : Channel} (h : willing.Abreast actual) :
    Channel.InStep ((program.exec output actual).1 = (program.exec output willing).1 ∧
        (program.exec output actual).2.1 = (program.exec output willing).2.1)
      True (program.exec output willing).2.2 (program.exec output actual).2.2 := by
  induction program generalizing output willing actual with
  | done | fail | crash => exact .abreast ⟨rfl, rfl⟩ h
  | stdout data next ih => exact ih (output.writeStdout data) h
  | stderr data next ih => exact ih (output.writeStderr data) h
  | tell level topic message next ih => exact ih output (h.tell ..)
  | flush final next ih =>
    cases output.inStep_flush h final with
    | abreast hsame habreast =>
      have hnext := ih (output.flush willing final).1 (output.flush willing final).2.1 habreast
      simp only [exec, hsame.1, hsame.2]
      exact hnext
    | behind _ hbehind =>
      exact .behind trivial (hbehind.of_leads ((next _).leads_exec ..) ((next _).leads_exec ..))

/-! ## Answering -/

namespace Server

variable {willing actual : Channel}

/-- How an application ends is the same on both channels, if its last flush is. -/
theorem inStep_afterFlush (ran : Except RoleError Int32)
    {flushed flushed' : Ending Unit × Output × Channel}
    (h : Channel.InStep (flushed'.1 = flushed.1 ∧ flushed'.2.1 = flushed.2.1) True flushed.2.2
      flushed'.2.2) :
    Channel.InStep ((afterFlush ran flushed').1 = (afterFlush ran flushed).1) True
      (afterFlush ran flushed).2 (afterFlush ran flushed').2 := by
  obtain ⟨ending, output, willing⟩ := flushed
  obtain ⟨ending', output', actual⟩ := flushed'
  cases h with
  | behind _ hbehind =>
    exact .behind trivial (hbehind.of_leads (leads_afterFlush ..) (leads_afterFlush ..))
  | abreast hsame habreast =>
    obtain ⟨rfl, rfl⟩ : ending' = ending ∧ output' = output := hsame
    cases ran <;> cases ending' <;>
      first | exact .abreast rfl habreast | exact .abreast rfl (habreast.tell ..)

/-- An application ends in the same way on both channels, or the second one falls behind while it is
at work. -/
theorem inStep_invoke (role : Role) (id : UInt16) (h : willing.Abreast actual) :
    Channel.InStep ((invoke role id actual).1 = (invoke role id willing).1) True
      (invoke role id willing).2 (invoke role id actual).2 := by
  have hrun := role.run.inStep_exec (.new id) h
  cases hrun with
  | behind _ hbehind =>
    exact .behind trivial (hbehind.of_leads (leads_invoke_of_run ..) (leads_invoke_of_run ..))
  | abreast hsame habreast =>
    rw [invoke_eq, invoke_eq]
    generalize role.run.exec (.new id) willing = ran, role.run.exec (.new id) actual = ran'
      at hsame habreast ⊢
    obtain ⟨ending, output, willing'⟩ := ran
    obtain ⟨ending', output', actual'⟩ := ran'
    obtain ⟨rfl, rfl⟩ : ending' = ending ∧ output' = output := hsame
    cases ending' with
    | crashed reason => exact .abreast rfl habreast
    | done | failed => exact inStep_afterFlush _ ((role.flush true).inStep_exec output' habreast)

/-- A request that failed is ended in step. -/
theorem inStep_endFailed (id : UInt16) (h : willing.Abreast actual) :
    (endFailed id willing).InStep (endFailed id actual) :=
  (h.sendEnd ..).andThen (fun _ _ => .refl) fun _ _ _ habreast => .abreast rfl habreast

/-- On a channel that its application has left broken, a request cannot be ended. -/
theorem failed_dispatch {server : Server} {context : Context} {factory : RoleFactory}
    (hfactory : server.roles.resolve? context.role = some factory) {channel : Channel}
    (h : (invoke (factory context server.services) context.id channel).2.Broken) :
    (server.dispatch context channel).Failed := by
  simp only [dispatch, hfactory]
  generalize invoke (factory context server.services) context.id channel = invoked at h ⊢
  obtain ⟨ending, left⟩ := invoked
  have hended : ∀ {channel : Channel}, channel.Broken → (endFailed context.id channel).Failed :=
    fun hbroken => (hbroken.sendEnd ..).andThen _
  cases ending with
  | finished exitCode => exact ((h.of_leads (left.leads_tell ..)).sendEnd ..).andThen _
  | failed error =>
    cases error with
    | transport e => exact ⟨e, rfl⟩
    | application | missingService => exact hended (h.of_leads (left.leads_tell ..))
  | crashed reason =>
    dsimp only
    generalize htold : left.tell .error .dispatch _ = told
    have hbroken : (told.endOpenStreams context.id).2.Broken :=
      h.of_leads ((htold ▸ left.leads_tell ..).trans (told.leads_endOpenStreams ..))
    generalize told.endOpenStreams context.id = outcome at hbroken ⊢
    obtain ⟨_ | _, between⟩ := outcome
    · exact ⟨_, rfl⟩
    · exact hended hbroken

section

variable (server : Server) (h : willing.Abreast actual)

include h

/-- A complete request is dispatched in step: an application that ends differently has left its
channel broken, and the record that would end the request fails. -/
theorem inStep_dispatch (context : Context) :
    (server.dispatch context willing).InStep (server.dispatch context actual) := by
  cases hfactory : server.roles.resolve? context.role with
  | none =>
    simp only [dispatch, hfactory]
    exact ((h.tell ..).sendEnd ..).andThen (fun _ _ => .refl) fun _ _ _ habreast =>
      .abreast rfl habreast
  | some factory =>
    have hinvoke := inStep_invoke (factory context server.services) context.id h
    cases hinvoke with
    | behind _ hbehind =>
      exact .behind (failed_dispatch hfactory hbehind.broken) (hbehind.of_leads
        (leads_dispatch_of_invoke hfactory willing) (leads_dispatch_of_invoke hfactory actual))
    | abreast hsame habreast =>
      simp only [dispatch, hfactory]
      generalize invoke (factory context server.services) context.id willing = invoked,
        invoke (factory context server.services) context.id actual = invoked' at hsame habreast ⊢
      obtain ⟨ending, willing'⟩ := invoked
      obtain ⟨ending', actual'⟩ := invoked'
      obtain rfl : ending' = ending := hsame
      cases ending' with
      | finished exitCode =>
        exact ((habreast.tell ..).sendEnd ..).andThen (fun _ _ => .refl) fun _ _ _ habreast =>
          .abreast rfl habreast
      | failed error =>
        cases error with
        | transport e => exact .abreast rfl habreast
        | application | missingService => exact inStep_endFailed _ (habreast.tell ..)
      | crashed reason =>
        exact ((habreast.tell ..).endOpenStreams ..).andThen (fun _ _ => leads_endFailed ..)
          fun _ _ _ habreast => inStep_endFailed _ habreast

omit server in
/-- A request is refused in step. -/
theorem inStep_refuse (request : Request) (reason : AbortReason) :
    (refuse request reason willing).InStep (refuse request reason actual) := by
  unfold refuse
  dsimp only
  split
  · exact .abreast rfl (h.tell ..)
  · exact ((h.tell ..).sendEnd ..).andThen (fun _ _ => .refl) fun _ _ _ habreast =>
      .abreast rfl habreast

/-- A request is answered in step, whether it is complete or not. -/
theorem inStep_answer (request : Request) (outcome : RunOutcome) :
    (server.answer request outcome willing).InStep (server.answer request outcome actual) := by
  cases outcome with
  | complete => exact server.inStep_dispatch h _
  | aborted reason => exact inStep_refuse h request reason

/-- A request is concluded in the same way on both channels, or else the second one has fallen
behind and serving it ends with an error. -/
theorem inStep_conclude (request : Request) (outcome : RunOutcome) :
    Channel.InStep
      ((server.conclude request outcome actual).1 = (server.conclude request outcome willing).1)
      (∃ e, (server.conclude request outcome actual).1 = .last (.error e))
      (server.conclude request outcome willing).2 (server.conclude request outcome actual).2 := by
  have hanswer := server.inStep_answer h request outcome
  have hled := server.leads_conclude_of_answer request outcome willing
  unfold conclude at hled ⊢
  generalize server.answer request outcome willing = answered,
    server.answer request outcome actual = answered' at hanswer hled ⊢
  obtain ⟨result, willing'⟩ := answered
  obtain ⟨result', actual'⟩ := answered'
  cases hanswer with
  | behind hfailed hbehind =>
    obtain ⟨e, rfl⟩ : ∃ e, result' = .error e := hfailed
    exact .behind ⟨e, rfl⟩ (hbehind.of_leads hled .refl)
  | abreast hsame habreast =>
    obtain rfl : result' = result := hsame
    cases result' with
    | error e => exact .abreast rfl habreast
    | ok keep =>
      cases keep with
      | true => exact .abreast rfl habreast
      | false => exact .abreast rfl habreast.close

omit server in
/-- Leaving a connection comes to the same on both channels. -/
theorem abreast_leave (error : TransportError) (request : Request) :
    (leave error request actual).1 = (leave error request willing).1 ∧
      (leave error request willing).2.Abreast (leave error request actual).2 := by
  cases error with
  | closed midFrame => exact ⟨rfl, h.tell ..⟩
  | timeout limit =>
    unfold leave
    cases request.replyId.isSome with
    | true => exact ⟨rfl, h⟩
    | false => exact ⟨rfl, (h.tell ..).close⟩
  | io | protocol => exact ⟨rfl, h⟩

end

end Server

end FastCgi
