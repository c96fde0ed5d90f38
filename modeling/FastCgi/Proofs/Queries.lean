import Mathlib.Data.List.Find
import FastCgi.Proofs.Grammar
import FastCgi.Proofs.Management
import FastCgi.Proofs.Spelling

/-!
# Answers to queries

A query is a list of pairs, of which only the names matter. It is answered by the variables that are
asked for, each with its value, in the order and as often as their names stand in the query
(`ServerInfo.answers`). Names are compared as they stand there, byte for byte: no other byte string
is read as the name of a variable (`ServerInfo.find?_decode`). A query that is not made up of pairs
from one end to the other asks for nothing, whatever stands in it. `Request.answers_query` puts this
together with what is sent.
-/

namespace FastCgi

namespace NameValue

/-! ## Queries and answers as bytes -/

/-- Items are decoded, whichever form their lengths have. -/
theorem decode_flatMap_bytes (its : List Item) :
    decode (its.flatMap Item.bytes) =
      .ok (its.map fun item => (Utf8.decode item.name, Utf8.decode item.value)) := by
  obtain ⟨its', hits', hread, hleft⟩ := exists_items (its.flatMap Item.bytes)
  have hends : its'.flatMap Item.bytes ++ (items (its.flatMap Item.bytes)).2 =
      its.flatMap Item.bytes ++ [] := hits'.trans (List.append_nil _).symm
  obtain ⟨rfl, hnil⟩ := flatMap_bytes_inj hends hleft rfl
  refine decode_eq_ok_iff.2 ⟨hnil, ?_⟩
  rw [hread, List.map_map]
  rfl

/-- Nothing else is decoded. -/
theorem exists_decode_eq_error_iff {content : Bytes} :
    (∃ e, decode content = .error e) ↔ ¬∃ its : List Item, its.flatMap Item.bytes = content := by
  rw [← left_eq_nil_iff, decode_eq]
  split
  next hnil => exact ⟨nofun, fun hleft => absurd hnil hleft⟩
  next hleft => exact ⟨fun _ => hleft, fun _ => ⟨_, rfl⟩⟩

/-- Pairs take as many bytes at least as any one of them has in its name and its value. -/
theorem length_le_length_encode {pair : String × String} {pairs : List (String × String)}
    (h : pair ∈ pairs) :
    (bytes pair).1.length + (bytes pair).2.length ≤ (encode pairs).length := by
  induction h with
  | head pairs =>
    rw [encode_cons]
    simp only [encode, List.flatMap_singleton, encodePair, bytes, List.length_append]
    omega
  | tail other _ ih =>
    rw [encode_cons, List.length_append]
    omega

/-- Pairs that one record can hold are read back from it. -/
theorem decode_encode_of_fits {pairs : List (String × String)}
    (h : (encode pairs).length ≤ maxContentLength) : decode (encode pairs) = .ok pairs := by
  refine decode_encode fun pair hpair => ?_
  have hlength := length_le_length_encode hpair
  have hmax : maxContentLength = 65535 := rfl
  exact ⟨by omega, by omega⟩

end NameValue

/-! ## Variables -/

namespace ServerInfo

variable (info : ServerInfo)

/-- The variables that a server has values for, with these values. -/
def advertised : List (String × String) :=
  [("FCGI_MAX_CONNS", Nat.repr info.maxConnections), ("FCGI_MAX_REQS", Nat.repr info.maxRequests),
    ("FCGI_MPXS_CONNS", "0")]

/-- The answer to the items of a query: for each item with the name of a variable, that variable. -/
def answers (its : List NameValue.Item) : List (String × String) :=
  its.filterMap fun item => info.advertised.find? fun known => Bytes.ofString known.1 = item.name

/-- A variable that is looked up is one of those that are advertised. -/
theorem map_lookup? (name : String) :
    (info.lookup? name).map (name, ·) = info.advertised.find? (·.1 = name) := by
  unfold lookup?
  split
  next h => simp [advertised, h]
  next hconns =>
    split
    next h => simp [advertised, h]
    next hreqs =>
      split
      next h => simp [advertised, h]
      next hmpxs => simp [advertised, Ne.symm hconns, Ne.symm hreqs, Ne.symm hmpxs]

/-- No byte string is read as the name of a variable but that name itself. -/
theorem find?_decode (name : Bytes) :
    info.advertised.find? (·.1 = Utf8.decode name) =
      info.advertised.find? fun known => Bytes.ofString known.1 = name := by
  have hplain : ∀ known ∈ info.advertised, Utf8.replacement ∉ known.1.toList := by
    simp only [advertised, List.forall_mem_cons]
    decide
  refine List.find?_congr fun known hknown => ?_
  rw [decide_eq_decide, eq_comm, Utf8.decode_eq_iff (hplain known hknown), eq_comm]

/-- The values that are found for a query are those that its items ask for. -/
theorem knownValues_flatMap_bytes (its : List NameValue.Item) :
    Request.knownValues info (its.flatMap NameValue.Item.bytes) = info.answers its := by
  rw [Request.knownValues, NameValue.decode_flatMap_bytes]
  dsimp only
  rw [List.filterMap_map, answers]
  refine congrArg (List.filterMap · its) (funext fun item => ?_)
  exact (info.map_lookup? _).trans (info.find?_decode item.name)

end ServerInfo

namespace Request

/-! ## What is sent -/

/-- A record that is answered by another one and leaves the request as it is. On a channel that takes
all that is sent, that is all that is sent, and receiving goes on with what follows. -/
def AnsweredBy (request : Request) (record reply : Record) : Prop :=
  request.process record = (.ok (.reply reply), request) ∧
    ∀ channel received : Channel, channel.connection.Reliable →
      channel.receive = (.ok record, received) →
      ∃ channel', channel.Exchanges [reply] channel' ∧ channel'.closed = false ∧
        channel'.delivery = received.delivery ∧ request.run channel = request.run channel'

section

variable (request : Request) {record : Record} (hid : record.id = managementId)

include hid

/-- A management record has the same answer on every channel. -/
theorem exists_answeredBy (hanswerable : Answerable request.info record) :
    ∃ reply, request.AnsweredBy record reply ∧ reply.type = answerType record ∧
      reply.id = managementId ∧ reply.content = answerContent request.info record := by
  have hprocess := process_of_management request hid
  rw [managementReply_of_answerable hanswerable] at hprocess
  refine ⟨_, ⟨hprocess, fun channel received hreliable hreceive => ?_⟩, rfl, hid, rfl⟩
  obtain ⟨reply, channel', hprocess', -, -, -, hexchanges, hopened, hdelivery, hrun⟩ :=
    undisturbed_of_answerable hreliable hreceive hid hanswerable
  cases hprocess.symm.trans hprocess'
  exact ⟨channel', hexchanges, hopened, hdelivery, hrun⟩

/-- A query is answered by one record with the values that are known, if it can hold them. -/
theorem exists_answeredBy_query (htype : record.type = .getValues)
    (hfits : (NameValue.encode (knownValues request.info record.content)).length ≤
      maxContentLength) :
    ∃ reply, request.AnsweredBy record reply ∧ reply.type = .getValuesResult ∧
      reply.id = managementId ∧
      reply.content = NameValue.encode (knownValues request.info record.content) := by
  have hcontent : answerContent request.info record =
      NameValue.encode (knownValues request.info record.content) := if_pos htype
  have hanswerable : Answerable request.info record := by rwa [Answerable, hcontent]
  obtain ⟨reply, hanswered, hreplyType, hreplyId, hreplyContent⟩ :=
    request.exists_answeredBy hid hanswerable
  exact ⟨reply, hanswered, hreplyType.trans (if_pos htype), hreplyId, hreplyContent.trans hcontent⟩

/-- **Queries are answered faithfully.** Whatever request is being received:
- A query that is made up of items is answered by one record, if it can hold the answer. That record
  is read back as the variables that the items name, with the values that the server has for them,
  in the order of the items. All else in the query makes no difference: the values, the items
  between, with whatever bytes for names, and the form in which lengths are written.
- A query that cannot be decoded is answered by one record without content, also if there are items
  in front of the damage. It is one that is not made up of items. -/
theorem answers_query (htype : record.type = .getValues) :
    (∀ its : List NameValue.Item, its.flatMap NameValue.Item.bytes = record.content →
      (NameValue.encode (request.info.answers its)).length ≤ maxContentLength →
      ∃ reply, request.AnsweredBy record reply ∧ reply.type = .getValuesResult ∧
        reply.id = managementId ∧
        NameValue.decode reply.content = .ok (request.info.answers its)) ∧
    (∀ e, NameValue.decode record.content = .error e →
      ∃ reply, request.AnsweredBy record reply ∧ reply.type = .getValuesResult ∧
        reply.id = managementId ∧ reply.content = []) ∧
    ((∃ e, NameValue.decode record.content = .error e) ↔
      ¬∃ its : List NameValue.Item, its.flatMap NameValue.Item.bytes = record.content) := by
  refine ⟨fun its hits hfits => ?_, fun e he => ?_, NameValue.exists_decode_eq_error_iff⟩
  · have hknown := request.info.knownValues_flatMap_bytes its
    rw [hits] at hknown
    obtain ⟨reply, hanswered, hreplyType, hreplyId, hcontent⟩ :=
      request.exists_answeredBy_query hid htype (by rwa [hknown])
    refine ⟨reply, hanswered, hreplyType, hreplyId, ?_⟩
    rw [hcontent, hknown, NameValue.decode_encode_of_fits hfits]
  · have hnothing : NameValue.encode (knownValues request.info record.content) = [] := by
      rw [knownValues, he]
      rfl
    obtain ⟨reply, hanswered, hreplyType, hreplyId, hcontent⟩ :=
      request.exists_answeredBy_query hid htype (by rw [hnothing]; exact Nat.zero_le _)
    exact ⟨reply, hanswered, hreplyType, hreplyId, hcontent.trans hnothing⟩

end

/-- A query of the given content. -/
def query (content : Bytes) : Record := ⟨version1, .getValues, managementId, content, 0⟩

/-- A query for two variables, one of them twice and first with a value and a long length. Between
them stand a name that is no text and a name with a blank behind it. -/
def mixedItems : List NameValue.Item :=
  [⟨.long 13, .short 1, Bytes.ofString "FCGI_MAX_REQS", [0x78], rfl, rfl⟩,
    ⟨.short 2, .short 0, [0xC3, 0x28], [], rfl, rfl⟩,
    ⟨.short 15, .short 0, Bytes.ofString "FCGI_MPXS_CONNS", [], rfl, rfl⟩,
    ⟨.short 16, .short 0, Bytes.ofString "FCGI_MPXS_CONNS ", [], rfl, rfl⟩,
    ⟨.short 13, .short 0, Bytes.ofString "FCGI_MAX_REQS", [], rfl, rfl⟩]

/-- A query that is sent in one go is received. -/
theorem receive_query (content : Bytes) (h : content.length ≤ maxContentLength) :
    ∃ received, (Channel.new (.new [.data (Record.encodeAll [query content])]) ⟨1⟩).receive =
      (.ok (query content), received) := by
  have hformed : ∀ r ∈ [query content], r.WellFormed := by
    intro r hr
    obtain rfl := List.mem_singleton.1 hr
    exact ⟨rfl, trivial, h⟩
  obtain ⟨received, hreceive, -⟩ :=
    Channel.receive_of_delivery_cons (Channel.delivery_new hformed ⟨1⟩)
  exact ⟨received, hreceive⟩

/-- The query as it is, on a channel, and cut short by its last byte. -/
theorem answers_query_mixed :
    let content := mixedItems.flatMap NameValue.Item.bytes
    let request : Request := new .default ⟨10, 12⟩
    let channel := Channel.new (.new [.data (Record.encodeAll [query content])]) ⟨1⟩
    (∃ reply, request.AnsweredBy (query content) reply ∧
      NameValue.decode reply.content =
        .ok [("FCGI_MAX_REQS", "12"), ("FCGI_MPXS_CONNS", "0"), ("FCGI_MAX_REQS", "12")] ∧
      ∃ channel', channel.Exchanges [reply] channel') ∧
    ∃ reply, request.AnsweredBy (query content.dropLast) reply ∧ reply.content = [] := by
  intro content request channel
  obtain ⟨reply, hanswered, -, -, hcontent⟩ :=
    (@answers_query request (query content) rfl rfl).1 mixedItems rfl (by decide)
  obtain ⟨reply', hanswered', -, -, hcontent'⟩ :=
    (@answers_query request (query content.dropLast) rfl rfl).2.1
      (.truncatedNameValue 14) (by decide +kernel)
  obtain ⟨received, hreceive⟩ := receive_query content (by decide)
  obtain ⟨channel', hexchanges, -⟩ :=
    hanswered.2 channel received (Connection.reliable_new _) hreceive
  exact ⟨⟨reply, hanswered, hcontent.trans (by decide), channel', hexchanges⟩, reply', hanswered',
    hcontent'⟩

end Request

end FastCgi
