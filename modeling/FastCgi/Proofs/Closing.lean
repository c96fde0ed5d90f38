import FastCgi.Proofs.Endings
import FastCgi.Proofs.Reception

/-!
# Once closed, closed for ever

All that can be asked of a channel is an operation (`Channel.Operation`): to receive, to send
something, to send the end of the last request, or to close. Just three things close it, and
`Channel.Closes` lists them: a failed write, a limit that has passed or bytes that are no record are
not among them (`closed_operate_iff`, a step; `closed_operateAll_iff`, a run). A channel that is
closed only makes log entries from then on (`told_operateAll`), whatever is asked of it, and what
that comes to can be told beforehand. So whether its stream has been shut down depends on how it was
closed (`operateAll_closes`).
-/

namespace FastCgi

namespace Channel

/-! ## Operations -/

/-- Something that is asked of a channel. -/
inductive Operation where
  | receive
  | send (sending : Sending)
  /-- To send the end of a request after which the connection is not kept. -/
  | endLast (id : UInt16) (status : ProtocolStatus) (exitCode : Int32)
  | close
deriving DecidableEq, Repr

/-- Does it. Only to receive gives a record. -/
def operate (channel : Channel) : Operation → Outcome (Option Record)
  | .receive => channel.receive.andThen fun record channel => (.ok (some record), channel)
  | .send sending => (channel.perform sending).andThen fun _ channel => (.ok none, channel)
  | .endLast id status exitCode =>
    (channel.sendEnd id status exitCode false).andThen fun _ channel => (.ok none, channel)
  | .close => (.ok none, channel.close)

/-- Does one thing after another, whatever each of them comes to. -/
def operateAll (channel : Channel) (operations : List Operation) : Channel :=
  operations.foldl (fun channel operation => (channel.operate operation).2) channel

/-- Operations may be done in two goes. -/
theorem operateAll_append (channel : Channel) (operations later : List Operation) :
    channel.operateAll (operations ++ later) = (channel.operateAll operations).operateAll later :=
  List.foldl_append

section

variable (channel : Channel)

/-- Whatever is sent, it comes to actions. -/
theorem leads_perform (sending : Sending) : channel.Leads (channel.perform sending).2 := by
  cases sending with
  | content => exact channel.leads_send ..
  | record => exact channel.leads_sendRecord ..
  | stream => exact channel.leads_sendStream ..
  | endStream => exact channel.leads_endStream ..
  | endOpenStreams => exact channel.leads_endOpenStreams ..
  | endRequest => exact channel.leads_sendEnd ..

/-- One step: whatever is asked of a channel comes to actions. -/
theorem leads_operate (operation : Operation) : channel.Leads (channel.operate operation).2 := by
  cases operation with
  | receive => exact channel.leads_receive.andThen fun _ _ => .refl
  | send sending => exact (channel.leads_perform sending).andThen fun _ _ => .refl
  | endLast => exact (channel.leads_sendEnd ..).andThen fun _ _ => .refl
  | close => exact channel.leads_close

/-- Many steps. -/
theorem leads_operateAll (operations : List Operation) :
    channel.Leads (channel.operateAll operations) := by
  induction operations generalizing channel with
  | nil => exact .refl
  | cons operation operations ih => exact (channel.leads_operate operation).trans (ih _)

end

/-! ## What closes a channel -/

/-- The operations that close a channel: to close it, to send the end of the last request if that
succeeds, and to receive if the end of the stream is met. -/
inductive Closes (channel : Channel) : Operation → Prop
  | close : Closes channel .close
  | endLast {id : UInt16} {status : ProtocolStatus} {exitCode : Int32}
      (h : (channel.sendEnd id status exitCode false).1 = .ok ()) :
    Closes channel (.endLast id status exitCode)
  | receive (h : channel.EndsIn .endOfStream) : Closes channel .receive

section

variable {channel : Channel}

/-- Receiving closes a channel that is open if and only if the end of the stream is met. -/
theorem closed_receive_iff (hopen : channel.closed = false) :
    channel.receive.2.closed = true ↔ channel.EndsIn .endOfStream := by
  rw [receive, if_neg (by simp [hopen])]
  have hhears := hears_await hopen
  constructor
  · intro hclosed
    -- All that the channel hears, but for the end of the stream, leaves it open.
    have hresult : ∃ midFrame, channel.await.1 = .error (.closed midFrame) := by
      generalize channel.await = outcome at hhears hclosed
      cases hhears with
      | ended => exact ⟨_, rfl⟩
      | record _ hopened | refused _ _ hopened | putOff _ _ _ hopened =>
        cases hopened.symm.trans hclosed
    obtain ⟨midFrame, hresult⟩ := hresult
    obtain ⟨arrival, hends, hreports⟩ := endsIn_of_await hresult (by simp)
    cases hreports
    exact hends
  · intro hends
    obtain ⟨e, hresult, hreports⟩ := hends.await
    cases hreports
    generalize channel.await = outcome at hhears hresult
    cases hhears with
    | record | refused => cases hresult
    | ended _ _ _ hclosed => exact hclosed
    | putOff hputs =>
      cases hresult
      rcases hputs with ⟨_, hputs⟩ | ⟨_, hputs⟩ <;> cases hputs

/-- To send the end of the last request fails, and leaves the channel open or closed as it was, or
it succeeds and closes the channel. -/
theorem sendEnd_cases (channel : Channel) (id : UInt16) (status : ProtocolStatus)
    (exitCode : Int32) :
    ∃ sent, sent.closed = channel.closed ∧
      ((∃ e, channel.sendEnd id status exitCode false = (.error e, sent)) ∨
        channel.sendEnd id status exitCode false = (.ok (), sent.close)) := by
  have hsent := closed_send channel .endRequest id (EndBody.toBytes ⟨status, exitCode⟩)
  unfold sendEnd
  generalize channel.send .endRequest id (EndBody.toBytes ⟨status, exitCode⟩) = outcome at hsent ⊢
  obtain ⟨e | _, sent⟩ := outcome
  · exact ⟨sent, hsent, .inl ⟨e, rfl⟩⟩
  · exact ⟨sent.tell .debug .channel _, hsent, .inr rfl⟩

/-- To send the end of the last request closes a channel that is open if and only if it succeeds. -/
theorem closed_sendEnd_iff (hopen : channel.closed = false) (id : UInt16) (status : ProtocolStatus)
    (exitCode : Int32) :
    (channel.sendEnd id status exitCode false).2.closed = true ↔
      (channel.sendEnd id status exitCode false).1 = .ok () := by
  obtain ⟨sent, hsent, ⟨e, hsend⟩ | hsend⟩ := channel.sendEnd_cases id status exitCode
  · rw [hsend, hsent, hopen]
    exact ⟨nofun, nofun⟩
  · rw [hsend]
    exact ⟨fun _ => rfl, fun _ => closed_close sent⟩

/-- One step: an open channel is closed by just those operations. -/
theorem closed_operate_iff (hopen : channel.closed = false) (operation : Operation) :
    (channel.operate operation).2.closed = true ↔ channel.Closes operation := by
  have hdone {α β : Type} (outcome : Outcome α) (done : α → β) :
      (outcome.andThen fun a channel => (.ok (done a), channel)).2.closed = outcome.2.closed :=
    closed_andThen fun _ _ => rfl
  cases operation with
  | receive =>
    rw [operate, hdone, closed_receive_iff hopen]
    exact ⟨.receive, fun | .receive h => h⟩
  | send sending =>
    rw [operate, hdone, closed_perform, hopen]
    exact ⟨nofun, nofun⟩
  | endLast id status exitCode =>
    rw [operate, hdone, closed_sendEnd_iff hopen]
    exact ⟨.endLast, fun | .endLast h => h⟩
  | close => exact ⟨fun _ => .close, fun _ => closed_close channel⟩

end

/-! ## Channels that are closed -/

/-- The second channel is the first one but for its log entries. -/
def Told (channel channel' : Channel) : Prop := ∃ journal, channel' = { channel with journal }

/-- An operation is refused with an error, and nothing comes of it but log entries. -/
def Refused {α : Type} (channel : Channel) (e : TransportError) (outcome : Outcome α) : Prop :=
  outcome.1 = .error e ∧ channel.Told outcome.2

/-- The operations for which nothing is read or written: to send no data at all, to end the streams
of a request none of which is open, and to close what is closed. -/
inductive Idle (channel : Channel) : Operation → Prop
  | noData (type : RecordType) (id : UInt16) : Idle channel (.send (.stream type id []))
  | noneOpen {id : UInt16} (h : ∀ s ∈ channel.openStreams, s.2 ≠ id) :
    Idle channel (.send (.endOpenStreams id))
  | close : Idle channel .close

/-- To send a content that no record can hold. -/
def Operation.TooLong : Operation → Prop
  | .send (.content _ _ content) => maxContentLength < content.length
  | _ => False

section

variable {channel channel' channel'' : Channel}

theorem Told.refl (channel : Channel) : channel.Told channel := ⟨_, rfl⟩

/-- What is told in two goes is told. -/
theorem Told.trans (h : channel.Told channel') (h' : channel'.Told channel'') :
    channel.Told channel'' := by
  obtain ⟨journal, rfl⟩ := h
  obtain ⟨journal', rfl⟩ := h'
  exact ⟨journal', rfl⟩

/-- To tell something neither closes nor opens a channel. -/
theorem Told.closed (h : channel.Told channel') : channel'.closed = channel.closed := by
  obtain ⟨journal, rfl⟩ := h
  rfl

/-- What follows an operation that is refused is not done. -/
theorem Refused.andThen {α β : Type} {e : TransportError} {outcome : Outcome α}
    (h : channel.Refused e outcome) (next : α → Channel → Outcome β) :
    channel.Refused e (outcome.andThen next) := by
  obtain ⟨result, channel'⟩ := outcome
  obtain ⟨rfl, htold⟩ := h
  exact ⟨rfl, htold⟩

section

variable (hclosed : channel.closed = true)

include hclosed

/-- To write is refused, and what has been told before that is all that comes of it. -/
theorem refused_write (level : Level) (topic : Topic) (message : String) (bytes : Bytes) :
    channel.Refused (.closed false) ((channel.tell level topic message).write bytes) := by
  have hwrite : (channel.tell level topic message).write bytes =
      (.error (.closed false), channel.tell level topic message) := if_pos hclosed
  rw [hwrite]
  exact ⟨rfl, _, rfl⟩

/-- A record is refused, as it would have to be written. -/
theorem refused_sendRecord (record : Record) :
    channel.Refused (.closed false) (channel.sendRecord record) := refused_write hclosed ..

/-- A content is refused, if a record can hold it. -/
theorem refused_send {content : Bytes} (hlength : content.length ≤ maxContentLength)
    (type : RecordType) (id : UInt16) :
    channel.Refused (.closed false) (channel.send type id content) := by
  rw [send, Record.new, if_pos hlength]
  exact refused_sendRecord hclosed _

/-- Data is refused, in however many records it would go. -/
theorem refused_sendStream {data : Bytes} (hdata : data ≠ []) (type : RecordType) (id : UInt16) :
    channel.Refused (.closed false) (channel.sendStream type id data) := by
  rw [sendStream, if_neg (by simp [hdata])]
  exact (refused_write hclosed ..).andThen _

/-- The end of a stream is refused. -/
theorem refused_endStream (type : RecordType) (id : UInt16) :
    channel.Refused (.closed false) (channel.endStream type id) :=
  (refused_sendRecord hclosed _).andThen _

/-- The first of the streams that are to be ended is refused already. -/
theorem refused_endOpenStreams {id : UInt16} {s : RecordType × UInt16}
    (hs : s ∈ channel.openStreams) (hid : s.2 = id) :
    channel.Refused (.closed false) (channel.endOpenStreams id) := by
  have hmem : s.1 ∈ (channel.openStreams.filter (·.2 = id)).map Prod.fst :=
    List.mem_map_of_mem (List.mem_filter.2 ⟨hs, decide_eq_true hid⟩)
  unfold endOpenStreams
  cases htypes : (channel.openStreams.filter (·.2 = id)).map Prod.fst with
  | nil =>
    rw [htypes] at hmem
    cases hmem
  | cons type types => exact (refused_endStream hclosed type id).andThen _

/-- The end of a request is refused, also if it is not the last one. -/
theorem refused_sendEnd (id : UInt16) (status : ProtocolStatus) (exitCode : Int32) (keep : Bool) :
    channel.Refused (.closed false) (channel.sendEnd id status exitCode keep) :=
  (refused_send hclosed (by simp [EndBody.toBytes, maxContentLength]) _ _).andThen _

/-- On a channel that is closed, whatever is to be read or written is refused. -/
theorem refused_operate {operation : Operation} (hbusy : ¬channel.Idle operation)
    (hfits : ¬operation.TooLong) :
    channel.Refused (.closed false) (channel.operate operation) := by
  cases operation with
  | receive =>
    rw [operate, receive, if_pos hclosed]
    exact ⟨rfl, .refl _⟩
  | endLast id status exitCode => exact (refused_sendEnd hclosed ..).andThen _
  | close => exact absurd .close hbusy
  | send sending =>
    refine Refused.andThen ?_ _
    cases sending with
    | content type id content => exact refused_send hclosed (Nat.le_of_not_lt hfits) type id
    | record record => exact refused_sendRecord hclosed record
    | endStream type id => exact refused_endStream hclosed type id
    | endRequest id status exitCode => exact refused_sendEnd hclosed id status exitCode true
    | stream type id data =>
      refine refused_sendStream hclosed ?_ type id
      rintro rfl
      exact hbusy (.noData type id)
    | endOpenStreams id =>
      have hsome : ∃ s ∈ channel.openStreams, s.2 = id :=
        Decidable.byContradiction fun hnone => hbusy (.noneOpen fun s hs hid => hnone ⟨s, hs, hid⟩)
      obtain ⟨s, hs, hid⟩ := hsome
      exact refused_endOpenStreams hclosed hs hid

end

/-- A content that is too long is refused as such, whether the channel is closed or not. -/
theorem refused_of_tooLong (channel : Channel) (type : RecordType) (id : UInt16) {content : Bytes}
    (h : maxContentLength < content.length) :
    channel.Refused (.protocol (.contentTooLong content.length))
      (channel.operate (.send (.content type id content))) := by
  refine Refused.andThen ?_ _
  rw [perform, send, Record.new, if_neg (Nat.not_le_of_lt h)]
  exact ⟨rfl, .refl _⟩

/-- An operation for which nothing is read or written succeeds, and changes nothing. -/
theorem operate_of_idle (hclosed : channel.closed = true) {operation : Operation}
    (h : channel.Idle operation) : channel.operate operation = (.ok none, channel) := by
  cases h with
  | noData => rfl
  | @noneOpen id hnone =>
    have hfilter : channel.openStreams.filter (·.2 = id) = [] :=
      List.filter_eq_nil_iff.2 fun s hs => by simpa using hnone s hs
    rw [operate, perform, endOpenStreams, hfilter]
    rfl
  | close => rw [operate, close, if_pos hclosed]

/-- One step on a channel that is closed: nothing comes of it but log entries. -/
theorem told_operate (hclosed : channel.closed = true) (operation : Operation) :
    channel.Told (channel.operate operation).2 := by
  by_cases hidle : channel.Idle operation
  · rw [operate_of_idle hclosed hidle]
    exact .refl _
  by_cases hlong : operation.TooLong
  · match operation, hlong with
    | .send (.content type id content), hlong => exact (refused_of_tooLong _ type id hlong).2
  · exact (refused_operate hclosed hidle hlong).2

/-- Many steps. -/
theorem told_operateAll (hclosed : channel.closed = true) (operations : List Operation) :
    channel.Told (channel.operateAll operations) := by
  induction operations generalizing channel with
  | nil => exact .refl _
  | cons operation operations ih =>
    have htold := told_operate hclosed operation
    exact htold.trans (ih (htold.closed.trans hclosed))

end

/-! ## Runs -/

/-- Many steps: a channel is closed once one of those operations has been done to it while it was
open. -/
theorem closed_operateAll_iff {start : Channel} (hopen : start.closed = false)
    (operations : List Operation) :
    (start.operateAll operations).closed = true ↔
      ∃ before operation after, operations = before ++ operation :: after ∧
        (start.operateAll before).closed = false ∧
        (start.operateAll before).Closes operation := by
  constructor
  · intro hclosed
    induction operations using List.reverseRecOn with
    | nil => cases hopen.symm.trans hclosed
    | append_singleton operations operation ih =>
      cases hbefore : (start.operateAll operations).closed with
      | true =>
        obtain ⟨before, closing, after, rfl, hrest⟩ := ih hbefore
        exact ⟨before, closing, after ++ [operation], by simp, hrest⟩
      | false =>
        rw [operateAll_append] at hclosed
        exact ⟨operations, operation, [], rfl, hbefore, (closed_operate_iff hbefore _).1 hclosed⟩
  · rintro ⟨before, operation, after, rfl, hbefore, hcloses⟩
    rw [operateAll_append]
    exact (told_operateAll ((closed_operate_iff hbefore _).2 hcloses) after).closed.trans
      ((closed_operate_iff hbefore _).2 hcloses)

/-- How a channel is closed decides whether its stream is shut down. -/
theorem shutdown_operate {channel : Channel} (hopen : channel.closed = false)
    (hshutdown : channel.connection.shutdown = false) {operation : Operation}
    (h : channel.Closes operation) :
    (channel.operate operation).2.connection.shutdown = true ↔ operation ≠ .receive := by
  cases h with
  | close =>
    exact ⟨fun _ => nofun, fun _ => shutdown_close hopen⟩
  | @endLast id status exitCode hsucceeds =>
    refine ⟨fun _ => nofun, fun _ => ?_⟩
    obtain ⟨sent, hsent, ⟨e, hsend⟩ | hsend⟩ := channel.sendEnd_cases id status exitCode
    · rw [hsend] at hsucceeds
      cases hsucceeds
    · rw [operate, hsend]
      exact shutdown_close (hsent.trans hopen)
  | receive hends =>
    have hreceive : (channel.operate .receive).2 = channel.receive.2 := by
      rw [operate]
      obtain ⟨_ | _, _⟩ := channel.receive <;> rfl
    rw [hreceive, channel.exchanges_receive.shutdown, hshutdown]
    simp

/-- **Closed is for ever.** Whatever is asked of a channel, and however its connection behaves:
- It is closed if and only if it was asked to close, or sent the end of the last request with
  success, or met the end of its stream while it received.
- When it is closed it stays as it is, but for log entries: nothing is read or written any more, and
  no stream is opened or ended. A content too long for a record is still refused as such. What
  neither receives nor has anything to send succeeds, and all else fails because the channel is
  closed.
- The stream is shut down once at most, and not if it is its end that closed the channel. -/
theorem operateAll_closes {start : Channel} (hopen : start.closed = false)
    (hshutdown : start.connection.shutdown = false) (operations : List Operation) :
    let channel := start.operateAll operations
    (channel.closed = true ↔
      ∃ before operation after, operations = before ++ operation :: after ∧
        (start.operateAll before).closed = false ∧
        (start.operateAll before).Closes operation) ∧
    (channel.closed = true →
      (∀ later, ∃ journal, channel.operateAll later = { channel with journal }) ∧
      (∀ type id content, maxContentLength < content.length →
        (channel.operate (.send (.content type id content))).1 =
          .error (.protocol (.contentTooLong content.length))) ∧
      (∀ operation, channel.Idle operation → (channel.operate operation).1 = .ok none) ∧
      (∀ operation, ¬channel.Idle operation → ¬operation.TooLong →
        (channel.operate operation).1 = .error (.closed false))) ∧
    (channel.connection.shutdowns ≤ 1 ∧
      (channel.connection.shutdowns = 1 ↔ channel.connection.shutdown = true)) ∧
    (channel.closed = false → channel.connection.shutdown = false) ∧
    ∀ before operation after, operations = before ++ operation :: after →
      (start.operateAll before).closed = false → (start.operateAll before).Closes operation →
      (channel.connection.shutdown = true ↔ operation ≠ .receive) := by
  intro channel
  have hleads (operations : List Operation) : start.Leads (start.operateAll operations) :=
    start.leads_operateAll operations
  have hunshut (operations : List Operation) :
      (start.operateAll operations).closed = false →
        (start.operateAll operations).connection.shutdown = false :=
    (hleads operations).shutdown_of_opened fun _ => hshutdown
  refine ⟨closed_operateAll_iff hopen operations, fun hclosed => ?_,
    (hleads operations).shutdowns_le_one hshutdown, hunshut operations, ?_⟩
  · refine ⟨told_operateAll hclosed, fun type id content hlong =>
      (refused_of_tooLong channel type id hlong).1, fun operation hidle => ?_,
      fun operation hbusy hfits => (refused_operate hclosed hbusy hfits).1⟩
    rw [operate_of_idle hclosed hidle]
  · rintro before operation after rfl hbefore hcloses
    have hchannel : channel =
        ((start.operateAll before).operate operation).2.operateAll after :=
      operateAll_append ..
    obtain ⟨journal, htold⟩ :=
      told_operateAll ((closed_operate_iff hbefore operation).2 hcloses) after
    rw [hchannel, htold]
    exact shutdown_operate hbefore (hunshut before hbefore) hcloses

/-- A channel that meets the end of its stream behind a write that failed. -/
theorem operateAll_closes_ended :
    let start : Channel := .new { Connection.new [] with flushing := .fails "reset" } ⟨1⟩
    let operations : List Operation :=
      [.endLast 1 .requestComplete 0, .receive, .close, .send (.stream .stdout 1 [7])]
    let channel := start.operateAll operations
    start.closed = false ∧ start.connection.shutdown = false ∧ channel.closed = true ∧
      channel.connection.shutdown = false ∧
      channel.connection.sent = (start.operateAll (operations.take 1)).connection.sent ∧
      (channel.operate (.send (.endStream .stdout 1))).1 = .error (.closed false) ∧
      (channel.operate (.send (.stream .stdout 1 []))).1 = .ok none := by
  intro start operations channel
  obtain ⟨hiff, hclosed, -, -, hshutdown⟩ :=
    @operateAll_closes start rfl rfl operations
  have hbefore : (start.operateAll (operations.take 1)).closed = false := by decide +kernel
  have hends : (start.operateAll (operations.take 1)).EndsIn .endOfStream :=
    (closed_receive_iff hbefore).1 (by decide +kernel)
  have hisClosed : channel.closed = true := hiff.2 ⟨_, .receive, _, rfl, hbefore, .receive hends⟩
  obtain ⟨-, -, hidle, hrefused⟩ := hclosed hisClosed
  refine ⟨rfl, rfl, hisClosed, ?_, by decide +kernel, hrefused _ nofun nofun,
    hidle _ (.noData ..)⟩
  have hnot := hshutdown _ .receive _ rfl hbefore (.receive hends)
  simpa using hnot

end Channel

end FastCgi
