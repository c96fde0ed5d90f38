import FastCgi.Proofs.Acceptance

/-!
# Streams cut into records

A peer may cut the parameters and the body of a request into records wherever it likes, also inside
a length, a name or a character. What becomes of the request is a matter of the two streams alone:
`Limits.verdict` says what, without a word on records, and `run_eq_verdict` that a run comes to it
whatever the cuts are. Which record has the request given up does depend on the cuts, so the
induction is on the pieces that fit (`Collects.fate`) and on those up to the first that does not
(`Collects.fate_of_lt`).
-/

namespace FastCgi

/-- What becomes of a request that is sent these parameters and this body, and nothing else. The
parameters are looked at first: how long they are, and whether they end inside a pair. -/
def Limits.verdict (limits : Limits) (params body : Bytes) : RunOutcome :=
  if limits.params < params.length then .aborted (.limitExceeded .params limits.params)
  else match NameValue.decode params with
    | .error _ => .aborted (.protocol (.truncatedNameValue (NameValue.items params).2.length))
    | .ok _ =>
      if limits.body < body.length then .aborted (.limitExceeded .stdin limits.body)
      else .complete

namespace Request

/-! ## Cutting -/

/-- A submission cuts two streams if it has a BEGIN record first, and behind it, all with the id of
that record, the pieces of the parameters and their end, and the pieces of the body and its end. -/
structure Submission.Cuts (s : Submission) (params body : Bytes) : Prop where
  before : s.before = []
  opening_type : s.opening.type = .beginRequest
  opening_id : s.opening.id ≠ managementId
  opening_length : s.opening.content.length = bodyLength
  own : ∀ r ∈ s.after, r.id = s.opening.id
  parts : s.after.map part = parts s.params s.body
  params_ne_nil : ∀ piece ∈ s.params, piece ≠ []
  params_flatten : s.params.flatten = params
  body_ne_nil : ∀ piece ∈ s.body, piece ≠ []
  body_flatten : s.body.flatten = body

/-- No record that cuts two streams is a management record. -/
theorem Submission.Cuts.id_ne {s : Submission} {params body : Bytes} (h : s.Cuts params body)
    {record : Record} (hrecord : record ∈ s.records) : record.id ≠ managementId := by
  rw [Submission.records, h.before, List.nil_append] at hrecord
  rcases List.mem_cons.1 hrecord with rfl | hrecord
  · exact h.opening_id
  · rw [h.own record hrecord]
    exact h.opening_id

/-- A submission whose streams are in order is of the shape that makes a complete request. -/
theorem Submission.Cuts.accepted {s : Submission} {params body : Bytes} (h : s.Cuts params body)
    {limits : Limits} (hverdict : limits.verdict params body = .complete)
    (previousId : Option UInt16) : s.Accepted limits previousId := by
  have hown : s.after.filter (·.id = s.opening.id) = s.after :=
    List.filter_eq_self.2 fun r hr => by simpa using h.own r hr
  unfold Limits.verdict at hverdict
  split at hverdict
  next => cases hverdict
  next hparams =>
    split at hverdict
    next => cases hverdict
    next pairs hpairs =>
      split at hverdict
      next => cases hverdict
      next hbody =>
        exact {
          before := by rw [h.before]; exact nofun
          opening_type := h.opening_type
          opening_id := h.opening_id
          opening_length := h.opening_length
          own := by rw [hown, h.parts]
          params_ne_nil := h.params_ne_nil
          params_length := by rw [h.params_flatten]; exact Nat.not_lt.1 hparams
          pairs := ⟨pairs, by rw [h.params_flatten]; exact hpairs⟩
          body_ne_nil := h.body_ne_nil
          body_length := by rw [h.body_flatten]; exact Nat.not_lt.1 hbody }

/-! ## The verdict on two streams -/

section

variable {request : Request} (hfresh : request.Fresh) {id : UInt16} (hid : id ≠ managementId)
  (asks : BeginBody)

include hfresh hid

/-- A request that has begun ends as the verdict on its two streams is, wherever they are cut. -/
theorem fate_of_parts {params body : List Bytes} {records : List Record}
    (hparts : records.map part = parts params body) (hids : ∀ r ∈ records, r.id = id)
    (hparams : ∀ piece ∈ params, piece ≠ []) (hbody : ∀ piece ∈ body, piece ≠ []) :
    ((request.begun id asks).fate records).1 =
      some (request.limits.verdict params.flatten body.flatten) := by
  obtain ⟨front, endParams, middle, endBody, rfl, hfront, hendParams, hmiddle, hendBody⟩ :=
    exists_of_parts hparts
  have hfrontIds : ∀ r ∈ front, r.id = id := fun r hr => hids r (by simp [hr])
  have hmiddleIds : ∀ r ∈ middle, r.id = id := fun r hr => hids r (by simp [hr])
  have hcollects := collects_afterParams hfresh hid asks
  have hcollects' := @collects_afterBody request id hid asks params.flatten
  rw [← afterParams_nil hfresh]
  rcases Nat.lt_or_ge request.limits.params params.flatten.length with hlong | hfits
  · rw [Limits.verdict, if_pos hlong]
    exact hcollects.fate_of_lt (process_params_of_lt hfresh hid asks) [] hfront hfrontIds hparams
      (Nat.zero_le _) hlong _
  rw [Limits.verdict, if_neg (Nat.not_lt.2 hfits),
    hcollects.fate [] hfront hfrontIds hparams hfits, List.nil_append, NameValue.decode_eq]
  by_cases hleft : (NameValue.items params.flatten).2 = []
  · have hend := process_endParams hfresh hid asks params.flatten (hids _ (by simp)) hendParams
    rw [if_pos hleft] at hend
    rw [if_pos hleft, fate_of_more _ hend]
    rcases Nat.lt_or_ge request.limits.body body.flatten.length with hlong | hfits'
    · simp only [hlong, if_true]
      exact hcollects'.fate_of_lt (process_body_of_lt hid asks params.flatten) [] hmiddle
        hmiddleIds hbody (Nat.zero_le _) hlong _
    · have hcomplete := @process_endBody request id hid asks params.flatten body.flatten endBody
        (hids endBody (by simp)) hendBody
      simp only [Nat.not_lt.2 hfits', if_false]
      rw [hcollects'.fate [] hmiddle hmiddleIds hbody hfits', List.nil_append,
        fate_of_complete _ hcomplete]
  · obtain ⟨_, hend⟩ := process_endParams_of_left hfresh hid asks params.flatten hleft
      (hids endParams (by simp)) hendParams
    rw [if_neg hleft, fate_of_error _ hend]

end

/-! ## Runs -/

/-- The records that cut two streams begin a request, and end it as the verdict on them is. -/
theorem Submission.Cuts.fate {s : Submission} {params body : Bytes} (h : s.Cuts params body)
    {request : Request} (hfresh : request.Fresh) :
    (request.fate s.records).1 = some (request.limits.verdict params body) := by
  obtain ⟨asks, hasks⟩ := BeginBody.exists_of_length h.opening_length
  have hopening := (process_of_fresh hfresh h.opening_id).trans
    (processFirst_of_begin hfresh h.opening_type hasks)
  have hparts := fate_of_parts hfresh h.opening_id asks h.parts h.own h.params_ne_nil h.body_ne_nil
  rw [h.params_flatten, h.body_flatten] at hparts
  rw [Submission.records, h.before, List.nil_append, fate_of_more _ hopening, hparts]

/-- Nothing is answered to the records that cut two streams. -/
theorem Submission.Cuts.replies {s : Submission} {params body : Bytes} (h : s.Cuts params body)
    {request : Request} (hfresh : request.Fresh) : (request.intake s.records).replies = [] := by
  obtain ⟨asks, hasks⟩ := BeginBody.exists_of_length h.opening_length
  have hopening := (process_of_fresh hfresh h.opening_id).trans
    (processFirst_of_begin hfresh h.opening_type hasks)
  have hreplies := replies_of_own (request.open_begun h.opening_id asks) h.own
  rw [Submission.records, h.before, List.nil_append, intake_of_more _ hopening]
  exact hreplies

/-- Runs on records that cut two streams come to the verdict on the streams, and to what is known of
a complete request. -/
theorem Submission.Cuts.run {s : Submission} {params body : Bytes} (h : s.Cuts params body)
    (limits : Limits) (info : ServerInfo) (previousId : Option UInt16) {channel : Channel}
    (hbegins : s.records <+: channel.delivery.records) :
    ((new limits info previousId).run channel).1 = .ok (limits.verdict params body) ∧
      (limits.verdict params body = .complete →
        ∃ asks pairs, BeginBody.ofBytes s.opening.content = .ok asks ∧
          NameValue.decode params = .ok pairs ∧
          ((new limits info previousId).run channel).2.1.context =
            ⟨s.opening.id, asks.role, asks.keep, .ofList pairs, body.toArray, .complete⟩) := by
  have hfresh := fresh_new limits info previousId
  have hreplies := h.replies hfresh
  obtain ⟨channel', hrun, -⟩ :=
    run_of_fate (.inl hfresh) (h.fate hfresh) (fun hne => absurd hreplies hne) hbegins
  rw [hrun]
  refine ⟨rfl, fun hverdict => ?_⟩
  have haccepted := h.accepted hverdict previousId
  obtain ⟨asks, hasks⟩ := BeginBody.exists_of_length h.opening_length
  obtain ⟨pairs, hpairs⟩ := haccepted.pairs
  have hfate := fate_of_accepted hfresh (fun r hr hid => absurd hid (h.id_ne hr)) haccepted hasks
    (List.prefix_refl _)
  rw [h.params_flatten] at hpairs
  refine ⟨asks, pairs, hasks, hpairs, ?_⟩
  rw [hfate, (NameValue.decode_eq_ok_iff.1 hpairs).2, h.params_flatten, h.body_flatten]
  exact context_afterBody hfresh asks params body

/-- **What becomes of a request does not depend on how its streams are cut.** However the parameters
and the body are cut into records, a run comes to the verdict on the two of them, and two runs on
two ways of cutting them come to the same. If the request is complete, its parameters are the pairs
of the one stream, and its body is the other. -/
theorem run_eq_verdict (limits : Limits) (info : ServerInfo) (previousId : Option UInt16)
    {params body : Bytes} {s s' : Submission} (hcuts : s.Cuts params body)
    (hcuts' : s'.Cuts params body) {channel channel' : Channel}
    (hbegins : s.records <+: channel.delivery.records)
    (hbegins' : s'.records <+: channel'.delivery.records) :
    let run := (new limits info previousId).run channel
    let run' := (new limits info previousId).run channel'
    run.1 = .ok (limits.verdict params body) ∧ run'.1 = run.1 ∧
      (run.1 = .ok .complete → ∃ asks pairs, BeginBody.ofBytes s.opening.content = .ok asks ∧
        NameValue.decode params = .ok pairs ∧
        run.2.1.context =
          ⟨s.opening.id, asks.role, asks.keep, .ofList pairs, body.toArray, .complete⟩ ∧
        run'.2.1.context.params = run.2.1.context.params ∧
        run'.2.1.context.stdin = run.2.1.context.stdin) := by
  intro run run'
  obtain ⟨houtcome, hcontext⟩ := hcuts.run limits info previousId hbegins
  obtain ⟨houtcome', hcontext'⟩ := hcuts'.run limits info previousId hbegins'
  refine ⟨houtcome, houtcome'.trans houtcome.symm, fun hcomplete => ?_⟩
  have hverdict : limits.verdict params body = .complete :=
    Except.ok.inj (houtcome.symm.trans hcomplete)
  obtain ⟨asks, pairs, hasks, hpairs, hrun⟩ := hcontext hverdict
  obtain ⟨asks', pairs', -, hpairs', hrun'⟩ := hcontext' hverdict
  obtain rfl : pairs' = pairs := Except.ok.inj (hpairs'.symm.trans hpairs)
  exact ⟨asks, pairs', hasks, hpairs, hrun, by rw [hrun, hrun'], by rw [hrun, hrun']⟩

/-- A parameter whose name has its length in the long form, and a body of two bytes, in records of
the given pieces. -/
def twoByteBody (params body : List Bytes) : Submission :=
  let record (part : RecordType × Bytes) : Record := ⟨version1, part.1, 1, part.2, 0⟩
  ⟨[], ⟨version1, .beginRequest, 1, [0, 1, 0, 0, 0, 0, 0, 0], 0⟩, (parts params body).map record,
    params, body⟩

/-- Two ways of cutting the same streams, of which one cuts a length and a pair: the body is too
long in both. -/
theorem run_twoByteBody :
    let cut := twoByteBody [[128, 0], [0, 1, 1, 65], [98]] [[120], [121]]
    let uncut := twoByteBody [[128, 0, 0, 1, 1, 65, 98]] [[120, 121]]
    let run (s : Submission) := (new ⟨7, 1⟩ ⟨1, 1⟩).run
      (.new (.new [.data (Record.encodeAll s.records)]) ⟨1⟩)
    cut.Cuts [128, 0, 0, 1, 1, 65, 98] [120, 121] ∧
      uncut.Cuts [128, 0, 0, 1, 1, 65, 98] [120, 121] ∧
      (run cut).1 = .ok (.aborted (.limitExceeded .stdin 1)) ∧
      (run uncut).1 = .ok (.aborted (.limitExceeded .stdin 1)) := by
  intro cut uncut run
  have hcut : cut.Cuts [128, 0, 0, 1, 1, 65, 98] [120, 121] :=
    ⟨rfl, rfl, by decide, rfl, by decide, rfl, by decide, rfl, by decide, rfl⟩
  have huncut : uncut.Cuts [128, 0, 0, 1, 1, 65, 98] [120, 121] :=
    ⟨rfl, rfl, by decide, rfl, by decide, rfl, by decide, rfl, by decide, rfl⟩
  have hformed : ∀ r ∈ cut.records ++ uncut.records, r.WellFormed := by decide
  have hverdict : (⟨7, 1⟩ : Limits).verdict [128, 0, 0, 1, 1, 65, 98] [120, 121] =
      .aborted (.limitExceeded .stdin 1) := by decide +kernel
  have hbegins : ∀ s : Submission, (∀ r ∈ s.records, r.WellFormed) → s.records <+:
      (Channel.new (.new [.data (Record.encodeAll s.records)]) ⟨1⟩).delivery.records := by
    intro s hs
    exact ⟨[], by rw [Submission.delivery hs, List.append_nil]⟩
  obtain ⟨hrun, hrun', -⟩ := run_eq_verdict ⟨7, 1⟩ ⟨1, 1⟩ none hcut huncut
    (hbegins cut fun r hr => hformed r (List.mem_append_left _ hr))
    (hbegins uncut fun r hr => hformed r (List.mem_append_right _ hr))
  rw [hverdict] at hrun
  exact ⟨hcut, huncut, hrun, hrun'.trans hrun⟩

end Request

end FastCgi
