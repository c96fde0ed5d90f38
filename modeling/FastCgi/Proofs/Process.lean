import FastCgi.Proofs.Wire
import FastCgi.Request.Run

/-!
# What one record does to a request

While records are being received for it, a request is either fresh, of which nothing has arrived, or
open, between its BEGIN record and its end. `Takes` lists everything that one record can do to such
a request, with the condition under which it does, and `takes_process` says that nothing else
happens. Later modules argue by the cases of `Takes` and do not look into `Request.process` again.
-/

namespace FastCgi.Request

/-! ## Requests being received -/

/-- A request of which nothing has arrived. -/
structure Fresh (request : Request) : Prop where
  context : request.context = .new
  decoder : request.decoder = .new
  paramsBytes : request.paramsBytes = 0
  replyId : request.replyId = none

/-- A request that has begun and not ended. What is answered goes to its own id, which is never that
of management records. -/
structure Open (request : Request) : Prop where
  stage : request.stage = .streamingParams ∨ request.stage = .streamingBody
  replyId : request.replyId = some request.context.id
  id : request.context.id ≠ managementId

/-- A request for which records are being received. -/
abbrev Receiving (request : Request) : Prop := request.Fresh ∨ request.Open

/-- A new request has received nothing. -/
theorem fresh_new (limits : Limits) (info : ServerInfo) (previousId : Option UInt16) :
    (new limits info previousId).Fresh := ⟨rfl, rfl, rfl, rfl⟩

/-- A request of which nothing has arrived is in the first stage. -/
theorem Fresh.stage {request : Request} (h : request.Fresh) : request.stage = .awaitingBegin := by
  rw [Request.stage, h.context]
  rfl

/-- A request that has begun has left the first stage. -/
theorem Open.stage_ne {request : Request} (h : request.Open) : request.stage ≠ .awaitingBegin := by
  rcases h.stage with hstage | hstage <;> simp [hstage]

/-- A request right after its BEGIN record. -/
def begun (request : Request) (id : UInt16) (body : BeginBody) : Request :=
  { request with
    replyId := some id, context := ⟨id, body.role, body.keep, .empty, #[], .streamingParams⟩ }

/-- The BEGIN record of an id other than that of management records makes a request begin. -/
theorem open_begun (request : Request) {id : UInt16} (hid : id ≠ managementId) (body : BeginBody) :
    (request.begun id body).Open := ⟨.inl rfl, rfl, hid⟩

/-- What stays the same of a request from its BEGIN record on. -/
structure Continues (request request' : Request) : Prop where
  limits : request'.limits = request.limits
  info : request'.info = request.info
  replyId : request'.replyId = request.replyId
  previousId : request'.previousId = request.previousId
  id : request'.context.id = request.context.id
  role : request'.context.role = request.context.role
  keep : request'.context.keep = request.context.keep

theorem Continues.refl (request : Request) : request.Continues request :=
  ⟨rfl, rfl, rfl, rfl, rfl, rfl, rfl⟩

/-- What stays the same in one step and in the next stays the same in both. -/
theorem Continues.trans {request request' request'' : Request} (h : request.Continues request')
    (h' : request'.Continues request'') : request.Continues request'' :=
  ⟨h'.limits.trans h.limits, h'.info.trans h.info, h'.replyId.trans h.replyId,
    h'.previousId.trans h.previousId, h'.id.trans h.id, h'.role.trans h.role,
    h'.keep.trans h.keep⟩

/-- A request that has reached another stage. -/
def moveTo (request : Request) (stage : Stage) : Request :=
  { request with context := { request.context with stage } }

/-- To go on to another stage changes nothing else. -/
theorem continues_moveTo (request : Request) (stage : Stage) :
    request.Continues (request.moveTo stage) := ⟨rfl, rfl, rfl, rfl, rfl, rfl, rfl⟩

/-- To give a request up changes its stage, unless it has ended. -/
theorem abort_eq (request : Request) :
    request.abort = if request.stage.isTerminal then request else request.moveTo .aborted := by
  unfold abort Context.advance stage
  cases hstage : request.context.stage <;> rfl

/-- To give a request up changes nothing but its stage. -/
theorem continues_abort (request : Request) : request.Continues request.abort := by
  rw [abort_eq]
  split
  · exact .refl _
  · exact continues_moveTo ..

/-! ## Records of the request itself -/

/-- A request with one more piece of its parameters. -/
def withParams (request : Request) (piece : Bytes) : Request :=
  { request with
    context := { request.context with
      params := request.context.params.extend (request.decoder.feed piece).1 }
    decoder := (request.decoder.feed piece).2
    paramsBytes := request.paramsBytes + piece.length }

/-- A request with all of its parameters. -/
def withAllParams (request : Request) : Request :=
  { request.moveTo .streamingBody with decoder := .new }

/-- A request with one more piece of its body. -/
def withBody (request : Request) (piece : Bytes) : Request :=
  { request with context := request.context.addBody piece }

/-- A record that has a request given up, in a way that leaves the connection readable. -/
def GivesUp (request : Request) (outcome : Outcome) : Prop :=
  ∃ reason request', outcome = (.error reason, request') ∧ request.Continues request' ∧
    reason.preservesFraming = true

section

variable {request : Request}

/-- The peer may have a request given up at any time. -/
theorem givesUp_of_abortRequest {record : Record} (htype : record.type = .abortRequest) :
    request.GivesUp (request.processOwn record) := by
  refine ⟨.abortRequested, request, ?_, .refl _, rfl⟩
  unfold processOwn
  rw [htype]

/-- A record of another type than the stage asks for has a request given up. -/
theorem givesUp_of_unexpected {record : Record}
    (hparams : request.stage = .streamingParams → record.type ≠ .params)
    (hbody : request.stage = .streamingBody → record.type ≠ .stdin) :
    request.GivesUp (request.processOwn record) := by
  by_cases habort : record.type = .abortRequest
  · exact givesUp_of_abortRequest habort
  refine ⟨.protocol (.unexpectedRecord record.type request.stage), request, ?_, .refl _, rfl⟩
  unfold processOwn
  split
  next htype => exact absurd htype habort
  next hstage htype => exact absurd htype (hparams hstage)
  next hstage htype => exact absurd htype (hbody hstage)
  next => rfl

/-- A piece of the parameters is taken within the limit. -/
theorem processOwn_params {record : Record} (hstage : request.stage = .streamingParams)
    (htype : record.type = .params) (hne : record.content ≠ [])
    (hlimit : request.paramsBytes + record.content.length ≤ request.limits.params) :
    request.processOwn record = (.ok .more, request.withParams record.content) := by
  simp only [processOwn, hstage, htype, Record.isEmpty, List.isEmpty_iff, hne, if_false, addParams,
    Nat.not_lt.2 hlimit, withParams]

/-- The end of the parameters is taken if no pair was cut short. -/
theorem processOwn_endParams {record : Record} (hstage : request.stage = .streamingParams)
    (htype : record.type = .params) (hempty : record.content = [])
    (hpending : request.decoder.pending = []) :
    request.processOwn record = (.ok .more, request.withAllParams) := by
  have hcontext : request.context.stage = .streamingParams := hstage
  simp only [processOwn, hstage, htype, Record.isEmpty, hempty, List.isEmpty_nil, if_true,
    endParams, NameValue.Decoder.finish, hpending, Context.advance, hcontext]
  rfl

/-- A piece that takes the parameters beyond their limit has the request given up. -/
theorem processOwn_params_of_lt {record : Record} (hstage : request.stage = .streamingParams)
    (htype : record.type = .params) (hne : record.content ≠ [])
    (hlimit : request.limits.params < request.paramsBytes + record.content.length) :
    request.processOwn record =
      (.error (.limitExceeded .params request.limits.params),
        { request with paramsBytes := request.paramsBytes + record.content.length }) := by
  simp only [processOwn, hstage, htype, Record.isEmpty, List.isEmpty_iff, hne, if_false, addParams,
    hlimit, if_true]

/-- The end of the parameters has the request given up if a pair was cut short. -/
theorem processOwn_endParams_of_pending {record : Record}
    (hstage : request.stage = .streamingParams) (htype : record.type = .params)
    (hempty : record.content = []) (hpending : request.decoder.pending ≠ []) :
    request.processOwn record =
      (.error (.protocol (.truncatedNameValue request.decoder.pending.length)),
        { request with decoder := .new }) := by
  simp only [processOwn, hstage, htype, Record.isEmpty, hempty, List.isEmpty_nil, if_true,
    endParams, NameValue.Decoder.finish, List.isEmpty_iff, hpending, if_false]

/-- While its parameters are being received, a request takes the next piece of them and their end.
Any other record of its own has it given up. -/
theorem processOwn_of_streamingParams (hstage : request.stage = .streamingParams)
    (record : Record) :
    (record.type = .params ∧ record.content ≠ [] ∧
        request.paramsBytes + record.content.length ≤ request.limits.params ∧
        request.processOwn record = (.ok .more, request.withParams record.content)) ∨
      (record.type = .params ∧ record.content = [] ∧ request.decoder.pending = [] ∧
        request.processOwn record = (.ok .more, request.withAllParams)) ∨
      request.GivesUp (request.processOwn record) := by
  by_cases htype : record.type = .params
  · by_cases hempty : record.content = []
    · by_cases hpending : request.decoder.pending = []
      · exact .inr (.inl ⟨htype, hempty, hpending,
          processOwn_endParams hstage htype hempty hpending⟩)
      · exact .inr (.inr ⟨_, _, processOwn_endParams_of_pending hstage htype hempty hpending,
          ⟨rfl, rfl, rfl, rfl, rfl, rfl, rfl⟩, rfl⟩)
    · rcases Nat.lt_or_ge request.limits.params
        (request.paramsBytes + record.content.length) with hlimit | hlimit
      · exact .inr (.inr ⟨_, _, processOwn_params_of_lt hstage htype hempty hlimit,
          ⟨rfl, rfl, rfl, rfl, rfl, rfl, rfl⟩, rfl⟩)
      · exact .inl ⟨htype, hempty, hlimit, processOwn_params hstage htype hempty hlimit⟩
  · refine .inr (.inr (givesUp_of_unexpected (fun _ => htype) fun hbody => ?_))
    rw [hstage] at hbody
    cases hbody

/-- A piece of the body is taken within the limit. -/
theorem processOwn_body {record : Record} (hstage : request.stage = .streamingBody)
    (htype : record.type = .stdin) (hne : record.content ≠ [])
    (hlimit : request.context.body.length + record.content.length ≤ request.limits.body) :
    request.processOwn record = (.ok .more, request.withBody record.content) := by
  rw [Context.length_body] at hlimit
  simp only [processOwn, hstage, htype, Record.isEmpty, List.isEmpty_iff, hne, if_false, addBody,
    Nat.not_lt.2 hlimit, withBody]

/-- A piece that takes the body beyond its limit has the request given up. -/
theorem processOwn_body_of_lt {record : Record} (hstage : request.stage = .streamingBody)
    (htype : record.type = .stdin) (hne : record.content ≠ [])
    (hlimit : request.limits.body < request.context.body.length + record.content.length) :
    request.processOwn record =
      (.error (.limitExceeded .stdin request.limits.body), request) := by
  rw [Context.length_body] at hlimit
  simp only [processOwn, hstage, htype, Record.isEmpty, List.isEmpty_iff, hne, if_false, addBody,
    hlimit, if_true]

/-- The end of the body completes the request. -/
theorem processOwn_endBody {record : Record} (hstage : request.stage = .streamingBody)
    (htype : record.type = .stdin) (hempty : record.content = []) :
    request.processOwn record = (.ok .complete, request.moveTo .complete) := by
  have hcontext : request.context.stage = .streamingBody := hstage
  simp only [processOwn, hstage, htype, Record.isEmpty, hempty, List.isEmpty_nil, if_true, endBody,
    Context.advance, hcontext]
  rfl

/-- While its body is being received, a request takes the next piece of it and its end. Any other
record of its own has it given up. -/
theorem processOwn_of_streamingBody (hstage : request.stage = .streamingBody) (record : Record) :
    (record.type = .stdin ∧ record.content ≠ [] ∧
        request.context.body.length + record.content.length ≤ request.limits.body ∧
        request.processOwn record = (.ok .more, request.withBody record.content)) ∨
      (record.type = .stdin ∧ record.content = [] ∧
        request.processOwn record = (.ok .complete, request.moveTo .complete)) ∨
      request.GivesUp (request.processOwn record) := by
  by_cases htype : record.type = .stdin
  · by_cases hempty : record.content = []
    · exact .inr (.inl ⟨htype, hempty, processOwn_endBody hstage htype hempty⟩)
    · rcases Nat.lt_or_ge request.limits.body
        (request.context.body.length + record.content.length) with hlimit | hlimit
      · exact .inr (.inr ⟨_, _, processOwn_body_of_lt hstage htype hempty hlimit, .refl _, rfl⟩)
      · exact .inl ⟨htype, hempty, hlimit, processOwn_body hstage htype hempty hlimit⟩
  · refine .inr (.inr (givesUp_of_unexpected (fun hparams => ?_) fun _ => htype))
    rw [hstage] at hparams
    cases hparams

end

/-- What a record of the request itself comes to: the request goes on, is complete, or is given up in
a way that leaves the connection readable. The record is never answered. -/
inductive TakesOwn (request : Request) : Outcome → Prop
  | more {request' : Request} :
    request.Continues request' → request'.Open → TakesOwn request (.ok .more, request')
  | complete {request' : Request} :
    request.Continues request' → request'.stage = .complete →
      TakesOwn request (.ok .complete, request')
  | aborts {reason : AbortReason} {request' : Request} :
    request.Continues request' → reason.preservesFraming = true →
      TakesOwn request (.error reason, request')

/-- A record that has a request given up is a record of its own. -/
theorem GivesUp.takesOwn {request : Request} {outcome : Outcome} (h : request.GivesUp outcome) :
    request.TakesOwn outcome := by
  obtain ⟨reason, request', rfl, hcontinues, hframing⟩ := h
  exact .aborts hcontinues hframing

/-- Every record of its own does one of these things to a request that has begun, by its stage and
by the type of the record. -/
theorem takesOwn_processOwn {request : Request} (h : request.Open) (record : Record) :
    request.TakesOwn (request.processOwn record) := by
  rcases h.stage with hstage | hstage
  · rcases processOwn_of_streamingParams hstage record with
      ⟨-, -, -, hmore⟩ | ⟨-, -, -, hmore⟩ | habort
    · rw [hmore]
      exact .more ⟨rfl, rfl, rfl, rfl, rfl, rfl, rfl⟩ ⟨.inl hstage, h.replyId, h.id⟩
    · rw [hmore]
      exact .more ⟨rfl, rfl, rfl, rfl, rfl, rfl, rfl⟩ ⟨.inr rfl, h.replyId, h.id⟩
    · exact habort.takesOwn
  · rcases processOwn_of_streamingBody hstage record with ⟨-, -, -, hmore⟩ | ⟨-, -, hend⟩ | habort
    · rw [hmore]
      exact .more ⟨rfl, rfl, rfl, rfl, rfl, rfl, rfl⟩ ⟨.inr hstage, h.replyId, h.id⟩
    · rw [hend]
      exact .complete (continues_moveTo ..) rfl
    · exact habort.takesOwn

/-! ## Management records -/

/-- The type of the answer to a management record. -/
def answerType (record : Record) : RecordType :=
  if record.type = .getValues then .getValuesResult else .unknownType

/-- The content of the answer to a management record. -/
def answerContent (info : ServerInfo) (record : Record) : Bytes :=
  if record.type = .getValues then NameValue.encode (knownValues info record.content)
  else unknownTypeBody record.type.code

/-- Whether one record can hold the answer to a management record. -/
def Answerable (info : ServerInfo) (record : Record) : Prop :=
  (answerContent info record).length ≤ maxContentLength

instance (info : ServerInfo) (record : Record) : Decidable (Answerable info record) :=
  inferInstanceAs (Decidable (_ ≤ _))

/-- The answer to a management record is one record, if that can hold its content. -/
theorem managementReply_eq (info : ServerInfo) (record : Record) :
    managementReply info record =
      Record.new (answerType record) record.id (answerContent info record) := by
  unfold managementReply answerType answerContent
  split <;> rfl

/-- There is an answer if a record can hold it. -/
theorem managementReply_of_answerable {info : ServerInfo} {record : Record}
    (h : Answerable info record) :
    managementReply info record =
      .ok ⟨version1, answerType record, record.id, answerContent info record,
        paddingFor (answerContent info record).length⟩ := by
  rw [managementReply_eq]
  exact Record.new_eq_ok_iff.2 ⟨h, rfl⟩

/-- Without a record that can hold it, there is no answer, but the length that it would have had. -/
theorem managementReply_of_not_answerable {info : ServerInfo} {record : Record}
    (h : ¬Answerable info record) :
    managementReply info record = .error (.contentTooLong (answerContent info record).length) := by
  rw [managementReply_eq, Record.new]
  exact if_neg h

/-- Only a query can have an answer that no record can hold. -/
theorem answerable_of_ne_getValues (info : ServerInfo) {record : Record}
    (h : record.type ≠ .getValues) : Answerable info record := by
  have hlength : (unknownTypeBody record.type.code).length = 8 := rfl
  rw [Answerable, answerContent, if_neg h, hlength]
  decide

/-- An answer can be sent. -/
theorem wellFormed_of_managementReply {info : ServerInfo} {record reply : Record}
    (h : managementReply info record = .ok reply) : reply.WellFormed := by
  rw [managementReply_eq] at h
  have htype : (answerType record).Readable := by
    unfold answerType
    split <;> trivial
  exact Record.wellFormed_of_new htype h

/-! ## Any record -/

/-- Everything that one record can do to a request that is being received. -/
inductive Takes (request : Request) (record : Record) : Outcome → Prop
  /-- A management record is answered and changes nothing. -/
  | answered {reply : Record} : record.id = managementId →
    managementReply request.info record = .ok reply → Takes request record (.ok (.reply reply), request)
  /-- A management record whose answer no record can hold has the request given up. -/
  | unanswered {e : ProtocolError} : record.id = managementId →
    managementReply request.info record = .error e → Takes request record (.error (.protocol e), request)
  /-- What is left of the request before is passed over. -/
  | trailing : record.id ≠ managementId → request.Fresh → record.type ≠ .beginRequest →
    request.previousId = some record.id → Takes request record (.ok .more, request)
  /-- Any other record that begins no request has no place before one. -/
  | stray : record.id ≠ managementId → request.Fresh → record.type ≠ .beginRequest →
    request.previousId ≠ some record.id →
      Takes request record (.error (.protocol (.unexpectedRecord record.type .awaitingBegin)),
        { request with replyId := some record.id })
  /-- A BEGIN record whose body has the wrong size begins no request. -/
  | malformed {e : ProtocolError} : record.id ≠ managementId → request.Fresh →
    record.type = .beginRequest → BeginBody.ofBytes record.content = .error e →
      Takes request record (.error (.protocol e), { request with replyId := some record.id })
  /-- A BEGIN record begins the request. -/
  | begins {body : BeginBody} : record.id ≠ managementId → request.Fresh →
    record.type = .beginRequest → BeginBody.ofBytes record.content = .ok body →
      Takes request record (.ok .more, request.begun record.id body)
  /-- No other request may begin before this one has ended. -/
  | refused : record.id ≠ managementId → request.Open → record.id ≠ request.context.id →
    record.type = .beginRequest →
      Takes request record (.ok (.reply (.endRequest record.id ⟨.cantMultiplex, 0⟩)), request)
  /-- Any other record of another request is passed over. -/
  | foreign : record.id ≠ managementId → request.Open → record.id ≠ request.context.id →
    record.type ≠ .beginRequest → Takes request record (.ok .more, request)
  /-- The records of the request itself make it go on or end. -/
  | own {outcome : Outcome} : record.id ≠ managementId → request.Open →
    record.id = request.context.id → request.TakesOwn outcome → Takes request record outcome

/-- A management record is answered in whatever stage a request is, and does not change it. -/
theorem process_of_management (request : Request) {record : Record}
    (h : record.id = managementId) :
    request.process record =
      match managementReply request.info record with
      | .error e => (.error (.protocol e), request)
      | .ok reply => (.ok (.reply reply), request) := by
  rw [process]
  exact if_pos (by simp [Record.isManagement, h])

/-- A request that has not begun takes a record as its first. -/
theorem process_of_fresh {request : Request} {record : Record} (h : request.Fresh)
    (hid : record.id ≠ managementId) :
    request.process record = request.processFirst record := by
  rw [process, if_neg (by simp [Record.isManagement, hid]), if_pos h.stage]

/-- A record of another id is none of the request that has begun. -/
theorem process_of_foreign {request : Request} {record : Record} (h : request.Open)
    (hid : record.id ≠ managementId) (hforeign : record.id ≠ request.context.id) :
    request.process record = request.processForeign record := by
  rw [process, if_neg (by simp [Record.isManagement, hid]), if_neg h.stage_ne, if_pos hforeign]

/-- A record of the id of the request is one of its own. -/
theorem process_of_own {request : Request} {record : Record} (h : request.Open)
    (hown : record.id = request.context.id) :
    request.process record = request.processOwn record := by
  have hid : record.id ≠ managementId := hown ▸ h.id
  rw [process, if_neg (by simp [Record.isManagement, hid]), if_neg h.stage_ne,
    if_neg (fun h => h hown)]

/-- A BEGIN record whose body can be read begins a request with its id. -/
theorem processFirst_of_begin {request : Request} {record : Record} (h : request.Fresh)
    (htype : record.type = .beginRequest) {body : BeginBody}
    (hbody : BeginBody.ofBytes record.content = .ok body) :
    request.processFirst record = (.ok .more, request.begun record.id body) := by
  have hstart : request.context.start record.id body =
      .ok ⟨record.id, body.role, body.keep, .empty, #[], .streamingParams⟩ := by
    rw [h.context]
    rfl
  simp only [processFirst, isTrailing, htype, ne_eq, not_true_eq_false, decide_false,
    Bool.false_and, Bool.false_eq_true, if_false, hbody, hstart, begun]

/-- As the first record of a request, one that is no BEGIN record is passed over or has the request
given up, and a BEGIN record begins the request if its body can be read. -/
theorem takes_processFirst {request : Request} {record : Record} (h : request.Fresh)
    (hid : record.id ≠ managementId) : request.Takes record (request.processFirst record) := by
  by_cases htype : record.type = .beginRequest
  · cases hbody : BeginBody.ofBytes record.content with
    | error e =>
      simp only [processFirst, isTrailing, htype, ne_eq, not_true_eq_false, decide_false,
        Bool.false_and, Bool.false_eq_true, if_false, hbody]
      exact .malformed hid h htype hbody
    | ok body =>
      rw [processFirst_of_begin h htype hbody]
      exact .begins hid h htype hbody
  · by_cases hprevious : request.previousId = some record.id
    · have htrailing : request.isTrailing record = true := by simp [isTrailing, htype, hprevious]
      rw [processFirst, if_pos htrailing]
      exact .trailing hid h htype hprevious
    · have htrailing : ¬request.isTrailing record = true := by
        simp [isTrailing, htype, hprevious]
      have hstage : request.context.stage = .awaitingBegin := h.stage
      simp only [processFirst, if_neg htrailing, htype, ne_eq, not_false_eq_true, if_true,
        unexpected, stage, hstage]
      exact .stray hid h htype hprevious

/-- One record does what `Takes` says and nothing else. -/
theorem takes_process {request : Request} (h : request.Receiving) (record : Record) :
    request.Takes record (request.process record) := by
  by_cases hid : record.id = managementId
  · rw [process_of_management request hid]
    split
    next hreply => exact .unanswered hid hreply
    next hreply => exact .answered hid hreply
  rcases h with h | h
  · rw [process_of_fresh h hid]
    exact takes_processFirst h hid
  by_cases hown : record.id = request.context.id
  · rw [process_of_own h hown]
    exact .own hid h hown (takesOwn_processOwn h record)
  rw [process_of_foreign h hid hown, processForeign]
  split
  next htype =>
    rw [Record.new_endRequest]
    exact .refused hid h hown htype
  next htype => exact .foreign hid h hown htype

/-! ## What goes on, and what is answered -/

/-- The answer that a record calls for while the request of the given id is being received. The BEGIN
record of another request is refused, and nothing but management records is answered beside. -/
def reply? (info : ServerInfo) (own : Option UInt16) (record : Record) : Option Record :=
  if record.isManagement then (managementReply info record).toOption
  else if record.type = .beginRequest ∧ own ≠ some record.id then
    some (.endRequest record.id ⟨.cantMultiplex, 0⟩)
  else none

/-- A request cannot both have begun and not have begun. -/
theorem Fresh.not_open {request : Request} (h : request.Fresh) : ¬request.Open :=
  fun hopen => hopen.stage_ne h.stage

namespace Takes

variable {request request' : Request} {record reply : Record} {outcome : Outcome}

/-- A request that needs more records goes on receiving them. -/
theorem receiving (h : request.Takes record (.ok .more, request')) : request'.Receiving := by
  cases h with
  | trailing _ hfresh => exact .inl hfresh
  | begins hid => exact .inr (open_begun _ hid _)
  | foreign _ hopen => exact .inr hopen
  | own _ _ _ hown => cases hown with
    | more _ hopen => exact .inr hopen

/-- A record that is answered does not change the request. -/
theorem answer (h : request.Takes record (.ok (.reply reply), request')) :
    request' = request ∧ reply.WellFormed := by
  cases h with
  | answered _ hreply => exact ⟨rfl, wellFormed_of_managementReply hreply⟩
  | refused => exact ⟨rfl, Record.wellFormed_endRequest ..⟩
  | own _ _ _ hown => cases hown

/-- The last record of a complete request is one of its own. -/
theorem complete (h : request.Takes record (.ok .complete, request')) :
    request.Open ∧ record.id = request.context.id ∧ request.Continues request' ∧
      request'.stage = .complete := by
  cases h with
  | own _ hopen hid hown => cases hown with
    | complete hcontinues hstage => exact ⟨hopen, hid, hcontinues, hstage⟩

/-- A request that has begun keeps its id, its role and all that it answers with. -/
theorem continues (h : request.Takes record outcome) (hopen : request.Open) :
    request.Continues outcome.2 := by
  cases h with
  | trailing _ hfresh | stray _ hfresh | malformed _ hfresh | begins _ hfresh =>
    exact absurd hopen hfresh.not_open
  | answered | unanswered | refused | foreign => exact .refl _
  | own _ _ _ hown => cases hown with
    | more hcontinues | complete hcontinues | aborts hcontinues => exact hcontinues

/-- A request that is on its way stays on its way if it needs more. -/
theorem opened (h : request.Takes record (.ok .more, request')) (hopen : request.Open) :
    request'.Open := by
  refine h.receiving.resolve_left fun hfresh => ?_
  have hreplyId := (h.continues hopen).replyId
  rw [hfresh.replyId, hopen.replyId] at hreplyId
  cases hreplyId

/-- No record changes what the server says of itself. -/
theorem info (h : request.Takes record outcome) : outcome.2.info = request.info := by
  cases h with
  | own hid hopen hown htakes => exact (continues (.own hid hopen hown htakes) hopen).info
  | _ => rfl

/-- A record is answered as `reply?` says if the id is the one that the request has now, if it has
any. -/
theorem reply?_eq (h : request.Takes record outcome) (own : Option UInt16)
    (hown : ∀ id, outcome.2.replyId = some id → own = some id) :
    reply? request.info own record =
      match outcome.1 with
      | .ok (.reply reply) => some reply
      | _ => none := by
  cases h with
  | answered hid hreply => simp [reply?, Record.isManagement, hid, hreply, Except.toOption]
  | unanswered hid hreply => simp [reply?, Record.isManagement, hid, hreply, Except.toOption]
  | trailing hid _ htype | stray hid _ htype | foreign hid _ _ htype =>
    simp [reply?, Record.isManagement, hid, htype]
  | malformed hid | begins hid =>
    have hsame := hown _ rfl
    simp [reply?, Record.isManagement, hid, hsame]
  | refused hid hopen hforeign htype =>
    have hsame := hown _ hopen.replyId
    simp [reply?, Record.isManagement, hid, htype, hsame, Ne.symm hforeign]
  | own hid hopen hsame htakes =>
    have hcontinues := continues (.own hid hopen hsame htakes) hopen
    have hsame := hown record.id (by rw [hcontinues.replyId, hopen.replyId, hsame])
    have hnone : reply? request.info own record = none := by
      simp [reply?, Record.isManagement, hid, hsame]
    rw [hnone]
    cases htakes <;> rfl

end Takes

end FastCgi.Request
