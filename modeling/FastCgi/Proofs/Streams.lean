import FastCgi.Proofs.Fate
import FastCgi.Proofs.Pairs

/-!
# The streams of a request

What is known of a request while its parameters arrive is a matter of their concatenation alone,
wherever it is cut into records (`withParams_withParams`), and the same goes for its body. A request
that has begun is therefore one of two families, with the bytes received so far for an argument:
`afterParams` and `afterBody`. Each of them collects one stream (`Collects`), and this makes it
possible to follow a request through its own records forwards (`fate_of_streams`) and back from its
end (`exists_streams`).
-/

namespace FastCgi.Request

/-! ## Pieces put together -/

/-- Two pieces of the parameters, one after the other, are one piece. -/
theorem withParams_withParams (request : Request) (piece piece' : Bytes) :
    (request.withParams piece).withParams piece' = request.withParams (piece ++ piece') := by
  have hitems := NameValue.items_append (request.decoder.pending ++ piece) piece'
  rw [List.append_assoc] at hitems
  simp only [withParams, NameValue.Decoder.feed_eq, NameValue.Decoder.pending_holding, hitems,
    List.map_append, Dictionary.extend_append, List.length_append, Nat.add_assoc]

/-- Two pieces of the body, one after the other, are one piece. -/
theorem withBody_withBody (request : Request) (piece piece' : Bytes) :
    (request.withBody piece).withBody piece' = request.withBody (piece ++ piece') := by
  have : request.context.stdin ++ piece ++ piece' = request.context.stdin ++ (piece ++ piece') := by
    apply Array.toList_inj.1
    simp
  simp only [withBody, Context.addBody, this]

/-! ## Complete streams -/

/-- What a record says, without the request it says it of. -/
def part (record : Record) : RecordType × Bytes := (record.type, record.content)

/-- What the records of a request say that follow its BEGIN record: pieces of the parameters and
their end, and pieces of the body and their end. -/
def parts (params body : List Bytes) : List (RecordType × Bytes) :=
  params.map (.params, ·) ++ (.params, []) :: (body.map (.stdin, ·) ++ [(.stdin, [])])

/-- The records of two streams are the pieces of the one and its end, and then those of the other. -/
theorem exists_of_parts {params body : List Bytes} {records : List Record}
    (h : records.map part = parts params body) :
    ∃ front endParams middle endBody, records = front ++ endParams :: (middle ++ [endBody]) ∧
      front.map part = params.map (.params, ·) ∧ part endParams = (.params, []) ∧
      middle.map part = body.map (.stdin, ·) ∧ part endBody = (.stdin, []) := by
  obtain ⟨front, back, rfl, hfront, hback⟩ := List.map_eq_append_iff.1 h
  obtain ⟨endParams, back, rfl, hendParams, hback⟩ := List.map_eq_cons_iff.1 hback
  obtain ⟨middle, back, rfl, hmiddle, hback⟩ := List.map_eq_append_iff.1 hback
  obtain ⟨endBody, back, rfl, hendBody, hback⟩ := List.map_eq_cons_iff.1 hback
  obtain rfl := List.map_eq_nil_iff.1 hback
  exact ⟨front, endParams, middle, endBody, rfl, hfront, hendParams, hmiddle, hendBody⟩

/-- Pieces of two streams that a request takes. No piece is empty, which would be the end of its
stream, both streams are within their limits, and no pair of the parameters is cut short. -/
structure Streams (limits : Limits) (params body : List Bytes) : Prop where
  params_ne_nil : ∀ piece ∈ params, piece ≠ []
  body_ne_nil : ∀ piece ∈ body, piece ≠ []
  params_length : params.flatten.length ≤ limits.params
  pairs : (NameValue.items params.flatten).2 = []
  body_length : body.flatten.length ≤ limits.body

/-! ## Collecting a stream -/

/-- A request that collects a stream within a limit, given for every content that the stream may have
so far. Of the records with its id, it takes the pieces that fit and perhaps the end of the stream,
and is given up at any other. -/
structure Collects (state : Bytes → Request) (id : UInt16) (type : RecordType) (limit : Nat) :
    Prop where
  piece : ∀ (content : Bytes) (record : Record), record.id = id → record.type = type →
    record.content ≠ [] → (content ++ record.content).length ≤ limit →
      (state content).process record = (.ok .more, state (content ++ record.content))
  other : ∀ (content : Bytes) (record : Record), record.id = id →
    ¬(record.type = type ∧ record.content = []) →
    ¬(record.type = type ∧ (content ++ record.content).length ≤ limit) →
      (state content).GivesUp ((state content).process record)

namespace Collects

variable {state : Bytes → Request} {id : UInt16} {type : RecordType} {limit : Nat}

/-- Pieces that fit are collected one after another. -/
theorem fate (h : Collects state id type limit) {pieces : List Bytes} {records : List Record}
    (content : Bytes) (hparts : records.map part = pieces.map (type, ·))
    (hids : ∀ r ∈ records, r.id = id) (hne : ∀ piece ∈ pieces, piece ≠ [])
    (hlimit : (content ++ pieces.flatten).length ≤ limit) (tail : List Record) :
    (state content).fate (records ++ tail) = (state (content ++ pieces.flatten)).fate tail := by
  induction pieces generalizing records content with
  | nil =>
    obtain rfl := List.map_eq_nil_iff.1 hparts
    rw [List.flatten_nil, List.append_nil]
    rfl
  | cons piece pieces ih =>
    cases records with
    | nil => cases hparts
    | cons record records =>
      obtain ⟨hpart, hrest⟩ := List.cons.inj hparts
      obtain ⟨htype, rfl⟩ := Prod.mk.inj hpart
      rw [List.flatten_cons, ← List.append_assoc] at hlimit ⊢
      have hprocess := h.piece content record (hids record (.head _)) htype
        (hne record.content (.head _))
        (Nat.le_trans (List.prefix_append ..).length_le hlimit)
      rw [List.cons_append, fate_of_more _ hprocess]
      exact ih _ hrest (fun r hr => hids r (.tail _ hr)) (fun p hp => hne p (.tail _ hp)) hlimit

/-- Pieces that do not fit have the request given up, whichever of them is the first that does
not. -/
theorem fate_of_lt (h : Collects state id type limit) {reason : AbortReason}
    (hover : ∀ (content : Bytes) (record : Record), record.id = id → record.type = type →
      record.content ≠ [] → limit < (content ++ record.content).length →
        ∃ request', (state content).process record = (.error reason, request'))
    {pieces : List Bytes} {records : List Record} (content : Bytes)
    (hparts : records.map part = pieces.map (type, ·)) (hids : ∀ r ∈ records, r.id = id)
    (hne : ∀ piece ∈ pieces, piece ≠ []) (hfits : content.length ≤ limit)
    (hlimit : limit < (content ++ pieces.flatten).length) (tail : List Record) :
    ((state content).fate (records ++ tail)).1 = some (.aborted reason) := by
  induction pieces generalizing records content with
  | nil =>
    rw [List.flatten_nil, List.append_nil] at hlimit
    exact absurd hfits (Nat.not_le.2 hlimit)
  | cons piece pieces ih =>
    cases records with
    | nil => cases hparts
    | cons record records =>
      obtain ⟨hpart, hrest⟩ := List.cons.inj hparts
      obtain ⟨htype, rfl⟩ := Prod.mk.inj hpart
      have hown := hids record (.head _)
      have hpiece := hne record.content (.head _)
      rcases Nat.lt_or_ge limit (content ++ record.content).length with hlt | hle
      · obtain ⟨request', hprocess⟩ := hover content record hown htype hpiece hlt
        rw [List.cons_append, fate_of_error _ hprocess]
      · rw [List.flatten_cons, ← List.append_assoc] at hlimit
        rw [List.cons_append, fate_of_more _ (h.piece content record hown htype hpiece hle)]
        exact ih _ hrest (fun r hr => hids r (.tail _ hr)) (fun p hp => hne p (.tail _ hp)) hle
          hlimit

end Collects

/-! ## A request that has begun -/

/-- A request that has begun, and of whose parameters some bytes have arrived. -/
def afterParams (request : Request) (id : UInt16) (asks : BeginBody) (params : Bytes) : Request :=
  (request.begun id asks).withParams params

/-- A request that has begun, with all of its parameters and some bytes of its body. -/
def afterBody (request : Request) (id : UInt16) (asks : BeginBody) (params body : Bytes) :
    Request :=
  (request.afterParams id asks params).withAllParams.withBody body

section

variable {request : Request} (hfresh : request.Fresh) {id : UInt16} (hid : id ≠ managementId)
  (asks : BeginBody)

include hid in
/-- A request is on its way while its parameters arrive. -/
theorem open_afterParams (params : Bytes) : (request.afterParams id asks params).Open :=
  ⟨.inl rfl, rfl, hid⟩

include hid in
/-- A request is on its way while its body arrives. -/
theorem open_afterBody (params body : Bytes) : (request.afterBody id asks params body).Open :=
  ⟨.inr rfl, rfl, hid⟩

/-- One more piece of the body goes behind what has arrived of it. -/
theorem afterBody_withBody (params body piece : Bytes) :
    (request.afterBody id asks params body).withBody piece =
      request.afterBody id asks params (body ++ piece) := withBody_withBody ..

/-- One more piece of the parameters goes behind what has arrived of them. -/
theorem afterParams_withParams (params piece : Bytes) :
    (request.afterParams id asks params).withParams piece =
      request.afterParams id asks (params ++ piece) := withParams_withParams ..

/-- The end of the parameters opens an empty body. -/
theorem afterBody_nil (params : Bytes) :
    request.afterBody id asks params [] = (request.afterParams id asks params).withAllParams := by
  simp [afterBody, withBody, Context.addBody]

/-- The body is what has arrived of it. -/
theorem body_afterBody (params body : Bytes) :
    (request.afterBody id asks params body).context.body = body := by
  rw [afterBody, withBody, Context.body_addBody]
  rfl

include hfresh

/-- After its BEGIN record nothing has arrived of the parameters. -/
theorem afterParams_nil : request.afterParams id asks [] = request.begun id asks := by
  have hitems : NameValue.items [] = ([], []) := NameValue.items_of_none rfl
  simp [afterParams, withParams, begun, NameValue.Decoder.feed_eq, hfresh.decoder, hitems]

/-- The decoder of a request that has not begun holds nothing, so that it gives the pairs of what it
is fed. -/
theorem feed_of_fresh (params : Bytes) :
    request.decoder.feed params =
      ((NameValue.items params).1.map NameValue.texts, .holding (NameValue.items params).2) := by
  rw [hfresh.decoder, NameValue.Decoder.feed_eq]
  rfl

/-- What the decoder holds is what is left of the parameters behind their pairs. -/
theorem pending_afterParams (params : Bytes) :
    (request.afterParams id asks params).decoder.pending = (NameValue.items params).2 := by
  show (request.decoder.feed params).2.pending = _
  rw [feed_of_fresh hfresh, NameValue.Decoder.pending_holding]

/-- The bytes that are counted are those of the parameters. -/
theorem paramsBytes_afterParams (params : Bytes) :
    (request.afterParams id asks params).paramsBytes = params.length := by
  have hnone : (request.begun id asks).paramsBytes = 0 := hfresh.paramsBytes
  rw [afterParams, withParams, hnone, Nat.zero_add]

/-- What is known of a request in the end. -/
theorem context_afterBody (params body : Bytes) :
    ((request.afterBody id asks params body).moveTo .complete).context =
      ⟨id, asks.role, asks.keep, .ofList ((NameValue.items params).1.map NameValue.texts),
        body.toArray, .complete⟩ := by
  simp [afterBody, afterParams, moveTo, withBody, withAllParams, withParams, Context.addBody,
    feed_of_fresh hfresh, Dictionary.ofList, begun]

include hid

/-- While its parameters are being received, a request collects them. -/
theorem collects_afterParams :
    Collects (request.afterParams id asks) id .params request.limits.params where
  piece params record hown htype hne hlimit := by
    rw [process_of_own (open_afterParams hid asks params) hown, ← afterParams_withParams]
    refine processOwn_params rfl htype hne ?_
    rwa [paramsBytes_afterParams hfresh, ← List.length_append]
  other params record hown hend hpiece := by
    rw [process_of_own (open_afterParams hid asks params) hown]
    rcases @processOwn_of_streamingParams (request.afterParams id asks params) rfl record with
      ⟨htype, -, hlimit, -⟩ | ⟨htype, hempty, -, -⟩ | hgives
    · rw [paramsBytes_afterParams hfresh, ← List.length_append] at hlimit
      exact absurd ⟨htype, hlimit⟩ hpiece
    · exact absurd ⟨htype, hempty⟩ hend
    · exact hgives

omit hfresh in
/-- While its body is being received, a request collects it. -/
theorem collects_afterBody (params : Bytes) :
    Collects (request.afterBody id asks params) id .stdin request.limits.body where
  piece body record hown htype hne hlimit := by
    rw [process_of_own (open_afterBody hid asks params body) hown, ← afterBody_withBody]
    refine processOwn_body rfl htype hne ?_
    rwa [body_afterBody, ← List.length_append]
  other body record hown hend hpiece := by
    rw [process_of_own (open_afterBody hid asks params body) hown]
    rcases @processOwn_of_streamingBody (request.afterBody id asks params body) rfl record with
      ⟨htype, -, hlimit, -⟩ | ⟨htype, hempty, -⟩ | hgives
    · rw [body_afterBody, ← List.length_append] at hlimit
      exact absurd ⟨htype, hlimit⟩ hpiece
    · exact absurd ⟨htype, hempty⟩ hend
    · exact hgives

/-- The end of the parameters opens the body if they can be decoded, and has the request given up
otherwise. -/
theorem process_endParams (params : Bytes) {record : Record} (hown : record.id = id)
    (hpart : part record = (.params, [])) :
    if (NameValue.items params).2 = [] then
      (request.afterParams id asks params).process record =
        (.ok .more, request.afterBody id asks params [])
    else (request.afterParams id asks params).GivesUp
      ((request.afterParams id asks params).process record) := by
  obtain ⟨htype, hempty⟩ := Prod.mk.inj hpart
  rw [process_of_own (open_afterParams hid asks params) hown]
  split
  next hitems =>
    rw [afterBody_nil]
    exact processOwn_endParams rfl htype hempty ((pending_afterParams hfresh asks params).trans hitems)
  next hitems =>
    rcases @processOwn_of_streamingParams (request.afterParams id asks params) rfl record with
      ⟨-, hne, -⟩ | ⟨-, -, hpending, -⟩ | hgives
    · exact absurd hempty hne
    · exact absurd ((pending_afterParams hfresh asks params).symm.trans hpending) hitems
    · exact hgives

/-- If a pair of the parameters is cut short, their end says how many bytes there are of it. -/
theorem process_endParams_of_left (params : Bytes) (hleft : (NameValue.items params).2 ≠ [])
    {record : Record} (hown : record.id = id) (hpart : part record = (.params, [])) :
    ∃ request', (request.afterParams id asks params).process record =
      (.error (.protocol (.truncatedNameValue (NameValue.items params).2.length)), request') := by
  obtain ⟨htype, hempty⟩ := Prod.mk.inj hpart
  have hpending : (request.afterParams id asks params).decoder.pending =
      (NameValue.items params).2 := pending_afterParams hfresh asks params
  rw [process_of_own (open_afterParams hid asks params) hown, ← hpending]
  exact ⟨_, processOwn_endParams_of_pending rfl htype hempty (by rwa [hpending])⟩

/-- A piece that takes the parameters beyond their limit has the request given up. -/
theorem process_params_of_lt (params : Bytes) (record : Record) (hown : record.id = id)
    (htype : record.type = .params) (hne : record.content ≠ [])
    (hlimit : request.limits.params < (params ++ record.content).length) :
    ∃ request', (request.afterParams id asks params).process record =
      (.error (.limitExceeded .params request.limits.params), request') := by
  rw [process_of_own (open_afterParams hid asks params) hown]
  refine ⟨_, processOwn_params_of_lt rfl htype hne ?_⟩
  rwa [paramsBytes_afterParams hfresh, ← List.length_append]

omit hfresh in
/-- A piece that takes the body beyond its limit has the request given up. -/
theorem process_body_of_lt (params body : Bytes) (record : Record) (hown : record.id = id)
    (htype : record.type = .stdin) (hne : record.content ≠ [])
    (hlimit : request.limits.body < (body ++ record.content).length) :
    ∃ request', (request.afterBody id asks params body).process record =
      (.error (.limitExceeded .stdin request.limits.body), request') := by
  rw [process_of_own (open_afterBody hid asks params body) hown]
  refine ⟨_, processOwn_body_of_lt rfl htype hne ?_⟩
  rwa [body_afterBody, ← List.length_append]

omit hfresh in
/-- The end of the body completes the request. -/
theorem process_endBody (params body : Bytes) {record : Record} (hown : record.id = id)
    (hpart : part record = (.stdin, [])) :
    (request.afterBody id asks params body).process record =
      (.ok .complete, (request.afterBody id asks params body).moveTo .complete) := by
  obtain ⟨htype, hempty⟩ := Prod.mk.inj hpart
  rw [process_of_own (open_afterBody hid asks params body) hown]
  exact processOwn_endBody rfl htype hempty

/-! ## Forwards and backwards through its own records -/

/-- A request that receives both of its streams in full is complete. -/
theorem fate_of_streams {params body : List Bytes} {records : List Record}
    (hparts : records.map part = parts params body) (hids : ∀ r ∈ records, r.id = id)
    (hstreams : Streams request.limits params body) (tail : List Record) :
    (request.begun id asks).fate (records ++ tail) =
      (some .complete, (request.afterBody id asks params.flatten body.flatten).moveTo .complete) := by
  obtain ⟨front, endParams, middle, endBody, rfl, hfront, hendParams, hmiddle, hendBody⟩ :=
    exists_of_parts hparts
  have hends : endParams.id = id ∧ endBody.id = id := ⟨hids _ (by simp), hids _ (by simp)⟩
  have hmore := process_endParams hfresh hid asks params.flatten hends.1 hendParams
  rw [if_pos hstreams.pairs] at hmore
  have hcomplete : (request.afterBody id asks params.flatten body.flatten).process endBody = _ :=
    process_endBody hid asks params.flatten body.flatten hends.2 hendBody
  rw [List.append_assoc, ← afterParams_nil hfresh,
    (collects_afterParams hfresh hid asks).fate [] hfront (fun r hr => hids r (by simp [hr]))
      hstreams.params_ne_nil hstreams.params_length,
    List.nil_append, List.cons_append, fate_of_more _ hmore, List.append_assoc,
    (collects_afterBody hid asks params.flatten).fate [] hmiddle
      (fun r hr => hids r (by simp [hr])) hstreams.body_ne_nil hstreams.body_length,
    List.nil_append, List.cons_append, fate_of_complete _ hcomplete]

end

end FastCgi.Request
