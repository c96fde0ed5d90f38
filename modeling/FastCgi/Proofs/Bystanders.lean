import Mathlib.Data.List.Basic
import FastCgi.Proofs.Acceptance

/-!
# Records of others

While a request is being received, records may come in between that are not its own: management
records, and records of other ids. `run_among_bystanders` says that they do not touch the request,
wherever they stand, and what they are answered. What the run comes to is a matter of the request's
own records (`fate_eq_own`); which answers are sent follows from the records that the run takes,
among which are all those of others that stand before its end.
-/

namespace FastCgi.Request

/-- The answer to a record that is not of the request being received. Each management record has
one, a BEGIN record is refused, and any other record goes without. -/
def bystanderReply? (info : ServerInfo) (record : Record) : Option Record :=
  if record.id = managementId then
    some ⟨version1, answerType record, managementId, answerContent info record,
      paddingFor (answerContent info record).length⟩
  else if record.type = .beginRequest then some (.endRequest record.id ⟨.cantMultiplex, 0⟩)
  else none

/-- A record of another id is answered as that of a bystander: to the request it makes no difference
which request is being received. -/
theorem reply?_of_bystander {info : ServerInfo} {id : UInt16} {record : Record}
    (hforeign : record.id ≠ id) (hanswer : record.id = managementId → Answerable info record) :
    reply? info (some id) record = bystanderReply? info record := by
  by_cases hid : record.id = managementId
  · simp [reply?, bystanderReply?, Record.isManagement, hid,
      managementReply_of_answerable (hanswer hid), Except.toOption]
  · simp [reply?, bystanderReply?, Record.isManagement, hid, Ne.symm hforeign]

/-- The records of a request itself are not answered one by one. -/
theorem reply?_of_own {info : ServerInfo} {id : UInt16} {record : Record}
    (hown : record.id = id) (hid : id ≠ managementId) : reply? info (some id) record = none := by
  simp [reply?, Record.isManagement, hown, hid]

/-- What is answered to some records is what is answered to those of others among them. -/
theorem filterMap_reply? {info : ServerInfo} {id : UInt16} (hid : id ≠ managementId)
    {records : List Record}
    (hanswers : ∀ r ∈ records, r.id = managementId → Answerable info r) :
    records.filterMap (reply? info (some id)) =
      (records.filter (·.id ≠ id)).filterMap (bystanderReply? info) := by
  rw [List.filterMap_filter]
  refine List.filterMap_congr fun r hr => ?_
  by_cases hown : r.id = id
  · rw [reply?_of_own hown hid, if_neg (by simp [hown])]
  · rw [reply?_of_bystander hown (hanswers r hr), if_pos (by simp [hown])]

/-- The records of others all stand before the record, if any, with which the request ends that is
sent the others. -/
def EndBehind (request : Request) (id : UInt16) (records : List Record) : Prop :=
  ∀ front bystander back, records = front ++ bystander :: back → bystander.id ≠ id →
    (request.fate (front.filter (·.id = id))).1 = none

section

variable {request : Request} (h : request.Open) {records : List Record}
  (hanswers : ∀ r ∈ records, r.id = managementId → Answerable request.info r)

include h hanswers

/-- A request leaves no records of others behind if they stand before its end. -/
theorem own_of_mem_rest (hend : request.EndBehind request.context.id records) {record : Record}
    (hrecord : record ∈ (request.intake records).rest) : record.id = request.context.id := by
  refine Decidable.byContradiction fun hforeign => ?_
  obtain ⟨front, back, hrest⟩ := List.append_of_mem hrecord
  have hsplit := taken_append_rest request records
  rw [hrest, ← List.append_assoc] at hsplit
  have hnone := hend _ record back hsplit.symm hforeign
  have hfront : ∀ r ∈ (request.intake records).taken ++ front,
      r.id = managementId → Answerable request.info r :=
    fun r hr => hanswers r (hsplit ▸ List.mem_append_left _ hr)
  rw [← fate_eq_own h hfront] at hnone
  cases houtcome : (request.fate records).1 with
  | none =>
    rw [rest_of_fate_eq_none houtcome] at hrecord
    cases hrecord
  | some outcome =>
    rw [← fate_taken] at houtcome
    rw [fate_append houtcome, houtcome] at hnone
    cases hnone

/-- The answers that are given while a request is received are those to the records of others. -/
theorem replies_of_bystanders (hend : request.EndBehind request.context.id records) :
    (request.intake records).replies =
      (records.filter (·.id ≠ request.context.id)).filterMap (bystanderReply? request.info) := by
  have hsplit := taken_append_rest request records
  have hreplyId := (continues_intake h records).replyId.trans h.replyId
  have hrest : (request.intake records).rest.filter (·.id ≠ request.context.id) = [] :=
    List.filter_eq_nil_iff.2 fun r hr => by simpa using own_of_mem_rest h hanswers hend hr
  have htaken : records.filter (·.id ≠ request.context.id) =
      (request.intake records).taken.filter (·.id ≠ request.context.id) := by
    rw [← List.append_nil (List.filter _ (request.intake records).taken), ← hrest,
      ← List.filter_append, hsplit]
  rw [replies_intake (.inr h), hreplyId, htaken]
  exact filterMap_reply? h.id fun r hr => hanswers r (hsplit ▸ List.mem_append_left _ hr)

end

/-- **Records of others do not touch a request.** Take a BEGIN record and records of the same id
behind it, and put records of other ids and management records anywhere in between, as long as they
come before the end of the request. A run comes to the same outcome, and leaves the same request,
with them and without them. Without them nothing is sent, and with them the answers to them, in
order. -/
theorem run_among_bystanders (limits : Limits) (info : ServerInfo) (previousId : Option UInt16)
    {opening : Record} {own records : List Record} {failure : TransportError}
    (htype : opening.type = .beginRequest) (hid : opening.id ≠ managementId)
    (hlength : opening.content.length = bodyLength)
    (hown : records.filter (·.id = opening.id) = own)
    (hend : ∀ front bystander back, records = front ++ bystander :: back →
      bystander.id ≠ opening.id →
        ((new limits info previousId).fate (opening :: front.filter (·.id = opening.id))).1 = none)
    (hanswers : ∀ r ∈ records, r.id = managementId → Answerable info r)
    {channel channel' : Channel} (hdelivery : channel.delivery = ⟨opening :: own, failure⟩)
    (hdelivery' : channel'.delivery = ⟨opening :: records, failure⟩)
    (hreliable : channel'.connection.Reliable) :
    ∃ outcome request final final',
      (new limits info previousId).run channel = (outcome, request, final) ∧
      (new limits info previousId).run channel' = (outcome, request, final') ∧
      channel.Exchanges [] final ∧
      channel'.Exchanges
        ((records.filter (·.id ≠ opening.id)).filterMap (bystanderReply? info)) final' := by
  have hfresh := fresh_new limits info previousId
  obtain ⟨asks, hasks⟩ := BeginBody.exists_of_length hlength
  have hopening := (process_of_fresh hfresh hid).trans (processFirst_of_begin hfresh htype hasks)
  have hopen := (new limits info previousId).open_begun hid asks
  -- From the BEGIN record on, the two runs differ in the records of others only.
  have hfate : (new limits info previousId).fate (opening :: records) =
      (new limits info previousId).fate (opening :: own) := by
    rw [fate_of_more _ hopening, fate_of_more _ hopening, ← hown]
    exact fate_eq_own hopen hanswers
  have hquiet : ((new limits info previousId).intake (opening :: own)).replies = [] := by
    rw [intake_of_more _ hopening]
    refine @replies_of_own _ hopen own fun r hr => ?_
    rw [← hown] at hr
    exact of_decide_eq_true (List.mem_filter.1 hr).2
  have hreplies : ((new limits info previousId).intake (opening :: records)).replies =
      (records.filter (·.id ≠ opening.id)).filterMap (bystanderReply? info) := by
    rw [intake_of_more _ hopening]
    refine replies_of_bystanders hopen hanswers fun front bystander back hsplit hforeign => ?_
    have hnone := hend front bystander back hsplit hforeign
    rwa [fate_of_more _ hopening] at hnone
  obtain ⟨final, hruns⟩ := exists_runs (.inl hfresh) (fun hne => absurd hquiet hne) hdelivery
  obtain ⟨final', hruns'⟩ := run_eq_intake (.inl hfresh) hreliable hdelivery'
  refine ⟨_, _, final, final', hruns.run, ?_, ?_, ?_⟩
  · rw [hruns'.run, result_of_fate hfate]
  · have hexchanges := hruns.exchanges
    rwa [hquiet] at hexchanges
  · have hexchanges := hruns'.exchanges
    rwa [hreplies] at hexchanges

/-- The first record of a request without a body. -/
def crowdedBegin : Record := ⟨version1, .beginRequest, 1, [0, 1, 1, 0, 0, 0, 0, 0], 0⟩

/-- The rest of it, with a query, the records of another request, and a stray record in between. -/
def crowdedRest : List Record :=
  [⟨version1, .params, 1, [1, 1, 65], 0⟩,
    ⟨version1, .getValues, managementId, NameValue.encode [("FCGI_MPXS_CONNS", "")], 0⟩,
    ⟨version1, .params, 1, [98], 0⟩, ⟨version1, .beginRequest, 2, [], 0⟩,
    ⟨version1, .params, 1, [], 0⟩, ⟨version1, .params, 2, [7], 0⟩,
    ⟨version1, .stdin, managementId, [], 0⟩, ⟨version1, .stdin, 1, [], 0⟩]

/-- The request comes to the same by itself and among the others. Its query, the other request and
the stray record are answered, in that order. -/
theorem run_crowded :
    let run (records : List Record) := (new .default ⟨1, 1⟩).run
      (.new (.new [.data (Record.encodeAll records)]) ⟨1⟩)
    ∃ request final final',
      run (crowdedBegin :: crowdedRest.filter (·.id = 1)) = (.ok .complete, request, final) ∧
      run (crowdedBegin :: crowdedRest) = (.ok .complete, request, final') ∧
      Channel.Exchanges (.new (.new [.data (Record.encodeAll (crowdedBegin :: crowdedRest))]) ⟨1⟩)
        [⟨version1, .getValuesResult, managementId, NameValue.encode [("FCGI_MPXS_CONNS", "0")], 6⟩,
          .endRequest 2 ⟨.cantMultiplex, 0⟩,
          ⟨version1, .unknownType, managementId, unknownTypeBody 5, 0⟩] final' := by
  intro run
  have hformed : ∀ r ∈ crowdedBegin :: crowdedRest, r.WellFormed := by decide +kernel
  have hformed' : ∀ r ∈ crowdedBegin :: crowdedRest.filter (·.id = 1), r.WellFormed :=
    fun r hr => hformed r (List.Sublist.mem hr (.cons_cons _ List.filter_sublist))
  have hanswers : ∀ r ∈ crowdedRest, r.id = managementId → Answerable ⟨1, 1⟩ r := by
    decide +kernel
  have hreplies : (crowdedRest.filter (·.id ≠ crowdedBegin.id)).filterMap
      (bystanderReply? ⟨1, 1⟩) = [⟨version1, .getValuesResult, managementId,
          NameValue.encode [("FCGI_MPXS_CONNS", "0")], 6⟩,
        .endRequest 2 ⟨.cantMultiplex, 0⟩,
        ⟨version1, .unknownType, managementId, unknownTypeBody 5, 0⟩] := by decide +kernel
  have hcomplete : ((new .default ⟨1, 1⟩).fate
      (crowdedBegin :: crowdedRest.filter (·.id = 1))).1 = some .complete := by decide +kernel
  have hfrontes : ∀ n < crowdedRest.length, crowdedRest[n]?.all (·.id = crowdedBegin.id) = true ∨
      ((new .default ⟨1, 1⟩).fate (crowdedBegin ::
        (crowdedRest.take n).filter (·.id = crowdedBegin.id))).1 = none := by decide +kernel
  have hend : ∀ front bystander back, crowdedRest = front ++ bystander :: back →
      bystander.id ≠ crowdedBegin.id →
        ((new .default ⟨1, 1⟩).fate
          (crowdedBegin :: front.filter (·.id = crowdedBegin.id))).1 = none := by
    intro front bystander back hsplit hforeign
    have hfront := hfrontes front.length (by simp [hsplit])
    rw [hsplit] at hfront
    simpa [hforeign] using hfront
  obtain ⟨outcome, request, final, final', hrun, hrun', -, hexchanges⟩ :=
    run_among_bystanders .default ⟨1, 1⟩ none rfl (by decide) rfl rfl hend hanswers
      (Channel.delivery_new hformed' ⟨1⟩) (Channel.delivery_new hformed ⟨1⟩)
      (Connection.reliable_new _)
  obtain ⟨_, hends, -⟩ := run_of_fate (.inl (fresh_new ..)) hcomplete
    (fun _ => Connection.reliable_new _)
    ⟨[], by rw [Channel.delivery_new hformed' ⟨1⟩, List.append_nil]⟩
  obtain rfl := (Prod.mk.inj (hrun.symm.trans hends)).1
  rw [hreplies] at hexchanges
  exact ⟨request, final, final', hrun, hrun', hexchanges⟩

end FastCgi.Request
