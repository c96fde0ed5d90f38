import FastCgi.Proofs.Intake

/-!
# The fate of a request

The fate of a request is how it ends and what is known of it then, without the records it leaves and
the answers it gives. Many records do not touch it (`Skips`): those of management, what is left of
the request before, and, once the request has begun, all that have another id (`fate_eq_own`).
-/

namespace FastCgi.Request

/-- How a request ends that takes records one after another, and what it is then. -/
def fate (request : Request) (records : List Record) : Option RunOutcome × Request :=
  ((request.intake records).outcome, (request.intake records).request)

/-- What a run comes to is a matter of the fate of the request. -/
theorem result_of_fate {request request' : Request} {records records' : List Record}
    (h : request.fate records = request'.fate records') (failure : TransportError) :
    (request.intake records).result failure = (request'.intake records').result failure := by
  obtain ⟨houtcome, hrequest⟩ := Prod.mk.inj h
  simp only [Intake.result, houtcome, hrequest]

section

variable {request request' : Request} {record : Record} (records : List Record)

/-- A record that has a request given up seals its fate, whatever comes after it. -/
theorem fate_of_error {reason : AbortReason}
    (h : request.process record = (.error reason, request')) :
    request.fate (record :: records) = (some (.aborted reason), request'.abort) := by
  rw [fate, intake_of_error records h]

/-- A record that completes a request seals its fate as well. -/
theorem fate_of_complete (h : request.process record = (.ok .complete, request')) :
    request.fate (record :: records) = (some .complete, request') := by
  rw [fate, intake_of_complete records h]

/-- A record that is taken in leaves the fate to the request as it is then. -/
theorem fate_of_more (h : request.process record = (.ok .more, request')) :
    request.fate (record :: records) = request'.fate records := by
  rw [fate, intake_of_more records h]
  rfl

/-- A record that is answered leaves the fate to the records after it. -/
theorem fate_of_reply {reply : Record}
    (h : request.process record = (.ok (.reply reply), request')) :
    request.fate (record :: records) = request'.fate records := by
  rw [fate, intake_of_reply records h]
  rfl

/-- A record that changes nothing, whether it is answered or passed over. -/
def Skips (request : Request) (record : Record) : Prop :=
  request.process record = (.ok .more, request) ∨
    ∃ reply, request.process record = (.ok (.reply reply), request)

/-- A record that changes nothing may be left out. -/
theorem fate_of_skips (h : request.Skips record) :
    request.fate (record :: records) = request.fate records := by
  rcases h with hmore | ⟨reply, hreply⟩
  · exact fate_of_more records hmore
  · exact fate_of_reply records hreply

end

/-- Records that come after the end of a request do not touch its fate. -/
theorem fate_append {request : Request} {records : List Record} {outcome : RunOutcome}
    (h : (request.fate records).1 = some outcome) (later : List Record) :
    request.fate (records ++ later) = request.fate records := by
  rw [fate, intake_append h]
  rfl

/-- The records that a request takes are all that its fate depends on. -/
theorem fate_taken (request : Request) (records : List Record) :
    request.fate (request.intake records).taken = request.fate records := by
  induction records generalizing request with
  | nil => rfl
  | cons record records ih =>
    cases hprocess : request.process record with
    | mk result request' =>
      rcases result with reason | _ | reply | _
      · rw [intake_of_error _ hprocess, fate_of_error _ hprocess, fate_of_error _ hprocess]
      · rw [intake_of_more _ hprocess, Intake.after, fate_of_more _ hprocess,
          fate_of_more _ hprocess, ih]
      · rw [intake_of_reply _ hprocess, Intake.after, fate_of_reply _ hprocess,
          fate_of_reply _ hprocess, ih]
      · rw [intake_of_complete _ hprocess, fate_of_complete _ hprocess, fate_of_complete _ hprocess]

/-- Records are left behind by a request only if it has ended. -/
theorem rest_of_fate_eq_none {request : Request} {records : List Record}
    (h : (request.fate records).1 = none) : (request.intake records).rest = [] := by
  induction records generalizing request with
  | nil => rfl
  | cons record records ih =>
    cases hprocess : request.process record with
    | mk result request' =>
      rcases result with reason | _ | reply | _
      · rw [fate_of_error _ hprocess] at h
        cases h
      · rw [fate_of_more _ hprocess] at h
        rw [intake_of_more _ hprocess]
        exact ih h
      · rw [fate_of_reply _ hprocess] at h
        rw [intake_of_reply _ hprocess]
        exact ih h
      · rw [fate_of_complete _ hprocess] at h
        cases h

/-- A run on a channel that delivers first the records with which a request ends comes to the fate
of the request. The channel has to take the answers to those records, if there are any. -/
theorem run_of_fate {request : Request} (hrequest : request.Receiving) {records : List Record}
    {outcome : RunOutcome} (hfate : (request.fate records).1 = some outcome) {channel : Channel}
    (hreliable : (request.intake records).replies ≠ [] → channel.connection.Reliable)
    (hbegins : records <+: channel.delivery.records) :
    ∃ channel', request.run channel = (.ok outcome, (request.fate records).2, channel') ∧
      channel.Exchanges (request.intake records).replies channel' := by
  obtain ⟨later, hrecords⟩ := hbegins
  have hintake := intake_append hfate later
  rw [hrecords] at hintake
  obtain ⟨channel', hruns⟩ := exists_runs hrequest (by rwa [hintake]) rfl
  have houtcome : (request.intake channel.delivery.records).outcome = some outcome := by
    rw [hintake]
    exact hfate
  have hrun := hruns.run
  have hexchanges := hruns.exchanges
  rw [Intake.result_of_some houtcome, hintake] at hrun
  rw [hintake] at hexchanges
  exact ⟨channel', hrun, hexchanges⟩

/-- Several records in front that change nothing may be left out. -/
theorem fate_append_of_skips {request : Request} {before : List Record}
    (h : ∀ r ∈ before, request.Skips r) (records : List Record) :
    request.fate (before ++ records) = request.fate records := by
  induction before with
  | nil => rfl
  | cons record before ih =>
    rw [List.cons_append, fate_of_skips _ (h record (.head _)), ih fun r hr => h r (.tail _ hr)]

/-- A management record that can be answered changes nothing. -/
theorem skips_of_management {request : Request} {record : Record} (hid : record.id = managementId)
    (hanswer : Answerable request.info record) : request.Skips record := by
  have hprocess := process_of_management request hid
  rw [managementReply_of_answerable hanswer] at hprocess
  exact .inr ⟨_, hprocess⟩

/-- A leftover of the request before changes nothing as long as no request has begun. -/
theorem skips_of_trailing {request : Request} {record : Record} (h : request.Fresh)
    (hid : record.id ≠ managementId) (htype : record.type ≠ .beginRequest)
    (hprevious : request.previousId = some record.id) : request.Skips record := by
  refine .inl ?_
  rw [process_of_fresh h hid, processFirst, if_pos (by simp [isTrailing, htype, hprevious])]

/-- A record of another id changes nothing while a request is on its way. -/
theorem skips_of_foreign {request : Request} {record : Record} (h : request.Open)
    (hforeign : record.id ≠ request.context.id)
    (hanswer : record.id = managementId → Answerable request.info record) :
    request.Skips record := by
  by_cases hid : record.id = managementId
  · exact skips_of_management hid (hanswer hid)
  by_cases htype : record.type = .beginRequest
  · refine .inr ⟨.endRequest record.id ⟨.cantMultiplex, 0⟩, ?_⟩
    rw [process_of_foreign h hid hforeign, processForeign, if_pos htype, Record.new_endRequest]
  · refine .inl ?_
    rw [process_of_foreign h hid hforeign, processForeign, if_neg htype]

/-- Once a request has begun, its fate is a matter of its own records alone. -/
theorem fate_eq_own {request : Request} (h : request.Open) {records : List Record}
    (hanswers : ∀ r ∈ records, r.id = managementId → Answerable request.info r) :
    request.fate records = request.fate (records.filter (·.id = request.context.id)) := by
  induction records generalizing request with
  | nil => rfl
  | cons record records ih =>
    have hrest : ∀ r ∈ records, r.id = managementId → Answerable request.info r :=
      fun r hr => hanswers r (.tail _ hr)
    by_cases hown : record.id = request.context.id
    · rw [List.filter_cons_of_pos (by simp [hown])]
      have htakes := takes_process (.inr h) record
      cases hprocess : request.process record with
      | mk result request' =>
        rw [hprocess] at htakes
        have hcontinues := htakes.continues h
        rcases result with reason | _ | reply | _
        · rw [fate_of_error _ hprocess, fate_of_error _ hprocess]
        · rw [fate_of_more _ hprocess, fate_of_more _ hprocess, ← hcontinues.id]
          exact ih (htakes.opened h) (by rwa [hcontinues.info])
        · obtain ⟨rfl, -⟩ := htakes.answer
          rw [fate_of_skips _ (.inr ⟨reply, hprocess⟩), fate_of_skips _ (.inr ⟨reply, hprocess⟩)]
          exact ih h hrest
        · rw [fate_of_complete _ hprocess, fate_of_complete _ hprocess]
    · rw [List.filter_cons_of_neg (by simp [hown]),
        fate_of_skips _ (skips_of_foreign h hown (hanswers record (.head _)))]
      exact ih h hrest

end FastCgi.Request
