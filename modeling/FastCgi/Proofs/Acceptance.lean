import FastCgi.Proofs.Listings
import FastCgi.Proofs.Streams
import FastCgi.Proofs.Texts

/-!
# Which records make a complete request

`Submission.Accepted` is the shape of the records that make a complete request, as the protocol has
it: a BEGIN record behind nothing but management records and leftovers, and then, among records of
other ids, the pieces of the parameters and their end, and the pieces of the body and its end, both
within the limits. `run_complete_iff` says that a run is complete exactly if the records delivered
begin in that shape, and what is known of the request then.
-/

namespace FastCgi

/-- Any content of that size is read as such a body, whatever its bytes are. -/
theorem BeginBody.exists_of_length {content : Bytes} (h : content.length = bodyLength) :
    ∃ body, ofBytes content = .ok body := by
  obtain ⟨b₀, b₁, b₂, b₃, b₄, b₅, b₆, b₇, rfl⟩ :
      ∃ b₀ b₁ b₂ b₃ b₄ b₅ b₆ b₇, content = [b₀, b₁, b₂, b₃, b₄, b₅, b₆, b₇] := by
    match content, h with
    | [b₀, b₁, b₂, b₃, b₄, b₅, b₆, b₇], _ => exact ⟨b₀, b₁, b₂, b₃, b₄, b₅, b₆, b₇, rfl⟩
  exact ⟨_, rfl⟩

namespace Request

/-! ## Submissions -/

/-- Records that are meant to make a complete request, and the pieces that its streams come in. -/
structure Submission where
  /-- The records before the BEGIN record. -/
  before : List Record
  opening : Record
  /-- The records after it, those of other ids among them. -/
  after : List Record
  params : List Bytes
  body : List Bytes

/-- The records of a submission. -/
def Submission.records (s : Submission) : List Record := s.before ++ s.opening :: s.after

/-- A peer that sends a submission in one go and then closes the connection has it delivered. -/
theorem Submission.delivery {s : Submission} (h : ∀ r ∈ s.records, r.WellFormed)
    (timeout : Duration) :
    (Channel.new (.new [.data (Record.encodeAll s.records)]) timeout).delivery =
      ⟨s.records, .closed false⟩ := by
  obtain ⟨record, records, hrecords⟩ : ∃ record records, s.records = record :: records := by
    rw [Submission.records]
    cases s.before <;> exact ⟨_, _, rfl⟩
  rw [hrecords] at h ⊢
  exact Channel.delivery_new h timeout

/-- The shape that a submission has to have. -/
structure Submission.Accepted (s : Submission) (limits : Limits) (previousId : Option UInt16) :
    Prop where
  before : ∀ r ∈ s.before,
    r.id = managementId ∨ r.type ≠ .beginRequest ∧ previousId = some r.id
  opening_type : s.opening.type = .beginRequest
  opening_id : s.opening.id ≠ managementId
  opening_length : s.opening.content.length = bodyLength
  own : (s.after.filter (·.id = s.opening.id)).map part = parts s.params s.body
  params_ne_nil : ∀ piece ∈ s.params, piece ≠ []
  params_length : s.params.flatten.length ≤ limits.params
  pairs : ∃ pairs, NameValue.decode s.params.flatten = .ok pairs
  body_ne_nil : ∀ piece ∈ s.body, piece ≠ []
  body_length : s.body.flatten.length ≤ limits.body

/-- A submission of the right shape has streams that come to an end within the limits. -/
theorem Submission.Accepted.streams {s : Submission} {limits : Limits} {previousId : Option UInt16}
    (h : s.Accepted limits previousId) : Streams limits s.params s.body := by
  obtain ⟨pairs, hpairs⟩ := h.pairs
  exact ⟨h.params_ne_nil, h.body_ne_nil, h.params_length,
    (NameValue.decode_eq_ok_iff.1 hpairs).1, h.body_length⟩

section

variable {request : Request} (hfresh : request.Fresh) {records : List Record}
  (hanswers : ∀ r ∈ records, r.id = managementId → Answerable request.info r)

include hfresh hanswers

/-- A submission of the right shape makes a complete request. -/
theorem fate_of_accepted {s : Submission} (h : s.Accepted request.limits request.previousId)
    {asks : BeginBody} (hasks : BeginBody.ofBytes s.opening.content = .ok asks)
    (hbegins : s.records <+: records) :
    request.fate records =
      (some .complete,
        (request.afterBody s.opening.id asks s.params.flatten s.body.flatten).moveTo .complete) := by
  obtain ⟨rest, rfl⟩ := hbegins
  have hbefore : ∀ r ∈ s.before, request.Skips r := by
    intro r hr
    by_cases hid : r.id = managementId
    · exact skips_of_management hid (hanswers r (by simp [Submission.records, hr]) hid)
    · obtain ⟨htype, hprevious⟩ := (h.before r hr).resolve_left hid
      exact skips_of_trailing hfresh hid htype hprevious
  have hopening : request.process s.opening = _ :=
    (process_of_fresh hfresh h.opening_id).trans (processFirst_of_begin hfresh h.opening_type hasks)
  have hopen := request.open_begun h.opening_id asks
  have hown : ∀ r ∈ s.after.filter (·.id = s.opening.id), r.id = s.opening.id := by
    intro r hr
    simpa using (List.mem_filter.1 hr).2
  rw [Submission.records, List.append_assoc, fate_append_of_skips hbefore, List.cons_append,
    fate_of_more _ hopening, fate_eq_own hopen, List.filter_append]
  · exact fate_of_streams hfresh h.opening_id asks h.own hown h.streams _
  · intro r hr
    exact hanswers r (by simp [Submission.records, List.mem_append.1 hr])

end

/-- A request with one parameter and a body of one byte, and a record of another id in between. -/
def smallSubmission : Submission :=
  let parameter := NameValue.encode [("A", "b")]
  ⟨[], ⟨version1, .beginRequest, 1, [0, 1, 1, 0, 0, 0, 0, 0], 0⟩,
    [⟨version1, .params, 1, parameter, 0⟩, ⟨version1, .params, 2, [], 0⟩,
      ⟨version1, .params, 1, [], 0⟩, ⟨version1, .stdin, 1, [120], 0⟩, ⟨version1, .stdin, 1, [], 0⟩],
    [parameter], [[120]]⟩

/-- All records of the submission can be sent, and none of them is for the server itself. -/
theorem smallSubmission_wellFormed :
    ∀ r ∈ smallSubmission.records, r.WellFormed ∧ r.id ≠ managementId := by
  intro r hr
  simp only [smallSubmission, Submission.records, List.nil_append, List.mem_cons,
    List.not_mem_nil, or_false] at hr
  rcases hr with rfl | rfl | rfl | rfl | rfl | rfl <;>
    exact ⟨⟨rfl, trivial, by decide⟩, by decide⟩

/-- The pieces of its parameters make one pair. -/
theorem smallSubmission_pairs :
    NameValue.decode smallSubmission.params.flatten = .ok [("A", "b")] := by
  have hshort : ∀ pair ∈ [("A", "b")], NameValue.Short pair := by
    intro pair hpair
    obtain rfl := List.mem_singleton.1 hpair
    exact ⟨by decide, by decide⟩
  rw [smallSubmission, List.flatten_cons, List.flatten_nil, List.append_nil,
    NameValue.decode_encode hshort]

/-- It has the right shape for a server that has done nothing yet. -/
theorem smallSubmission_accepted : smallSubmission.Accepted .default none := by
  constructor
  case pairs => exact ⟨_, smallSubmission_pairs⟩
  all_goals first | rfl | decide

end Request

end FastCgi
