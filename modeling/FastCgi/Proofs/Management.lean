import FastCgi.Proofs.Delivery
import FastCgi.Proofs.Intake
import FastCgi.Proofs.Pairs

/-!
# Management records

A management record belongs to no request, and is not meant to disturb one. `undisturbed_iff` says
when it does not: exactly when one record can hold its answer. An answer gives back the names of the
query with their values behind them, so it may be longer than the query; a query that fits in a
record may ask for more than a record can hold (`process_tooManyNames`), and then the request that
is being received is given up, whichever it is.
-/

namespace FastCgi.Request

/-- A management record that is answered by one record, leaves the request as it is, and is followed
by receiving the next one. -/
def Undisturbed (request : Request) (record : Record) (channel received : Channel) : Prop :=
  ∃ reply channel', request.process record = (.ok (.reply reply), request) ∧
    reply.id = managementId ∧ reply.type = answerType record ∧
    reply.content = answerContent request.info record ∧ channel.Exchanges [reply] channel' ∧
    channel'.closed = false ∧ channel'.delivery = received.delivery ∧
    request.run channel = request.run channel'

section

variable {request : Request} {record : Record} {channel received : Channel}
  (hreliable : channel.connection.Reliable) (hreceive : channel.receive = (.ok record, received))
  (hid : record.id = managementId)

include hreliable hreceive hid

/-- A management record whose answer a record can hold is answered, whatever the request. -/
theorem undisturbed_of_answerable (h : Answerable request.info record) :
    request.Undisturbed record channel received := by
  have hreply := managementReply_of_answerable h
  have hprocess := process_of_management request hid
  rw [hreply] at hprocess
  have hreceived := channel.exchanges_receive
  rw [hreceive] at hreceived
  obtain ⟨htell, hstreams⟩ := request.sends_tellRemark record received
  have hready : (request.tellRemark record received).Ready :=
    htell.ready ⟨hreceived.reliable hreliable, (Channel.closed_of_receive_ok hreceive).2⟩
  obtain ⟨channel', hsend, hsends, hstreams'⟩ :=
    Channel.sendRecord_of_ready hready (wellFormed_of_managementReply hreply)
  have hsent := htell.trans hsends
  have hrun : request.run channel = request.run channel' := by
    rw [run_eq]
    simp only [hreceive, hprocess, hsend]
  exact ⟨_, channel', hprocess, hid, rfl, rfl,
    hreceived.trans (hsent.exchanges (hstreams'.trans hstreams)), (hsends.ready hready).opened,
    hsent.sameInput.delivery, hrun⟩

omit hreliable in
/-- A management record whose answer no record can hold has the request given up, and nothing is
sent. -/
theorem run_of_not_answerable (h : ¬Answerable request.info record) :
    ∃ channel', request.run channel =
        (.ok (.aborted (.protocol (.contentTooLong (answerContent request.info record).length))),
          request.abort, channel') ∧
      channel.Exchanges [] channel' := by
  have hprocess := process_of_management request hid
  rw [managementReply_of_not_answerable h] at hprocess
  have hreceived := channel.exchanges_receive
  rw [hreceive] at hreceived
  obtain ⟨htell, hstreams⟩ := request.sends_tellRemark record received
  refine ⟨request.tellRemark record received, ?_, hreceived.trans (htell.exchanges hstreams)⟩
  rw [run_eq]
  simp only [hreceive, hprocess]

/-- **Management records and requests.** On a channel that takes all that is sent, a management
record leaves the request that is being received undisturbed exactly if one record can hold its
answer. Only a query can have an answer that is too long. Then nothing is sent, and the request is
given up for a reason after which no connection is kept. -/
theorem undisturbed_iff :
    (request.Undisturbed record channel received ↔ Answerable request.info record) ∧
      (record.type ≠ .getValues → Answerable request.info record) ∧
      (¬Answerable request.info record →
        ∃ reason channel', request.run channel = (.ok (.aborted reason), request.abort, channel') ∧
          channel.Exchanges [] channel' ∧ reason.preservesFraming = false) := by
  refine ⟨⟨fun h => ?_, undisturbed_of_answerable hreliable hreceive hid⟩,
    answerable_of_ne_getValues request.info, fun h => ?_⟩
  · obtain ⟨reply, _, hprocess, -⟩ := h
    refine Decidable.byContradiction fun hlong => ?_
    have hfails := process_of_management request hid
    rw [managementReply_of_not_answerable hlong, hprocess] at hfails
    cases hfails
  · obtain ⟨channel', hrun, hexchanges⟩ := run_of_not_answerable hreceive hid h
    exact ⟨_, channel', hrun, hexchanges, rfl⟩

end

/-- A record of a request's type that belongs to no request. -/
def strayInput : Record := ⟨version1, .stdin, managementId, [], 0⟩

/-- A record that belongs to no request is answered, and leaves the request that is being received
alone. -/
theorem undisturbed_strayInput :
    ∃ received, (Channel.new (.new [.data (Record.encodeAll [strayInput])]) ⟨1⟩).receive =
        (.ok strayInput, received) ∧
      (new .default ⟨1, 1⟩).Undisturbed strayInput
        (.new (.new [.data (Record.encodeAll [strayInput])]) ⟨1⟩) received := by
  have hformed : ∀ r ∈ [strayInput], r.WellFormed := by
    intro r hr
    obtain rfl := List.mem_singleton.1 hr
    exact ⟨rfl, trivial, Nat.zero_le _⟩
  obtain ⟨received, hreceive, -⟩ :=
    Channel.receive_of_delivery_cons (Channel.delivery_new hformed ⟨1⟩)
  have htype : strayInput.type ≠ .getValues := by decide
  have hquiet := @undisturbed_iff (new .default ⟨1, 1⟩) _ _ _ (Connection.reliable_new _) hreceive rfl
  exact ⟨received, hreceive, hquiet.1.2 (hquiet.2.1 htype)⟩

/-! ## A query that asks for too much -/

/-- The query that asks for one variable 4095 times. -/
def tooManyNames : Record :=
  ⟨version1, .getValues, managementId,
    NameValue.encode (List.replicate 4095 ("FCGI_MAX_CONNS", "")), 0⟩

/-- The name in the query is read as the text that it is. -/
theorem texts_bytes_name :
    NameValue.texts (NameValue.bytes ("FCGI_MAX_CONNS", "")) = ("FCGI_MAX_CONNS", "") := by
  decide +kernel

/-- The answer repeats every name of the query, with a value behind it. -/
theorem knownValues_tooManyNames :
    knownValues ⟨1, 1⟩ tooManyNames.content = List.replicate 4095 ("FCGI_MAX_CONNS", "1") := by
  have hshort : ∀ pair ∈ List.replicate 4095 ("FCGI_MAX_CONNS", ""), NameValue.Short pair := by
    intro pair hpair
    obtain rfl := List.eq_of_mem_replicate hpair
    exact ⟨by decide, by decide⟩
  have hdecode : NameValue.decode tooManyNames.content =
      .ok (List.replicate 4095 ("FCGI_MAX_CONNS", "")) := by
    rw [NameValue.decode_eq_ok_iff, tooManyNames, NameValue.items_encode hshort]
    refine ⟨rfl, ?_⟩
    rw [List.map_replicate, List.map_replicate, texts_bytes_name]
  rw [knownValues, hdecode]
  exact List.filterMap_replicate_of_some rfl

/-- A query that a record can hold may have an answer that no record can hold, and is not answered
then. -/
theorem process_tooManyNames :
    tooManyNames.WellFormed ∧ tooManyNames.id = managementId ∧
      (new .default ⟨1, 1⟩).process tooManyNames =
        (.error (.protocol (.contentTooLong 69615)), new .default ⟨1, 1⟩) := by
  have hquery : tooManyNames.content.length = 65520 := by
    rw [tooManyNames, NameValue.length_encode_replicate]
    decide
  have hanswer : (answerContent ⟨1, 1⟩ tooManyNames).length = 69615 := by
    have htype : tooManyNames.type = .getValues := rfl
    rw [answerContent, if_pos htype, knownValues_tooManyNames, NameValue.length_encode_replicate]
    decide
  have hlong : ¬Answerable ⟨1, 1⟩ tooManyNames := by
    rw [Answerable, hanswer]
    decide
  have htype : RecordType.getValues.Readable := trivial
  refine ⟨⟨rfl, htype, ?_⟩, rfl, ?_⟩
  · rw [hquery]
    decide
  · have hreply := managementReply_of_not_answerable hlong
    have hid : tooManyNames.id = managementId := rfl
    have hinfo : (new .default ⟨1, 1⟩).info = ⟨1, 1⟩ := rfl
    rw [process_of_management _ hid, hinfo, hreply, hanswer]

end FastCgi.Request
