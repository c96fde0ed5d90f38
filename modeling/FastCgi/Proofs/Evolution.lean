import FastCgi.Proofs.Process
import Mathlib.Logic.Relation

/-!
# How a request changes

A request may be run several times: after a failure of the channel, and even when it has ended.
`Alters` says what one record can do to a request in any stage, and `Evolves` what stays the same of
it: the stage goes forward on its way, each field changes in its own stage only, and a request that
has ended does not change any more. A run is nothing but such steps (`reaches_run`), so the same
holds of any number of runs on any channels (`runs_evolve`).
-/

namespace FastCgi.Request

variable {request request' request'' : Request} {record : Record} {outcome : Outcome}
  {reason : AbortReason} {step : Step}

/-! ## One record -/

/-- What one record can do to a request, in whatever stage it is. -/
inductive Alters (request : Request) (record : Record) : Outcome → Prop where
  /-- The record is answered or passed over. -/
  | keeps {step : Step} (hstep : step ≠ .complete) : Alters request record (.ok step, request)
  /-- A BEGIN record begins the request. -/
  | begins {body : BeginBody} (hstage : request.stage = .awaitingBegin)
      (hid : record.id ≠ managementId) (htype : record.type = .beginRequest)
      (hbody : BeginBody.ofBytes record.content = .ok body) :
    Alters request record (.ok .more, { request with
      replyId := some record.id
      context := { request.context with
        id := record.id, role := body.role, keep := body.keep, stage := .streamingParams } })
  /-- A piece of the parameters is taken. -/
  | params {piece : Bytes} (hstage : request.stage = .streamingParams) :
    Alters request record (.ok .more, request.withParams piece)
  /-- The parameters end. -/
  | allParams (hstage : request.stage = .streamingParams) :
    Alters request record (.ok .more, request.withAllParams)
  /-- A piece of the body is taken. -/
  | body {piece : Bytes} (hstage : request.stage = .streamingBody) :
    Alters request record (.ok .more, request.withBody piece)
  /-- The body ends. -/
  | completes (hstage : request.stage = .streamingBody) :
    Alters request record (.ok .complete, request.moveTo .complete)
  /-- The record has the request given up. -/
  | fails {reason : AbortReason} {request' : Request}
      (hcontext : request'.context = request.context)
      (hreply : request.stage ≠ .awaitingBegin → request'.replyId = request.replyId) :
    Alters request record (.error reason, request')

/-- A record before any request begins one, or has the request given up. -/
theorem alters_processFirst (hstage : request.stage = .awaitingBegin)
    (hid : record.id ≠ managementId) :
    request.Alters record (request.processFirst record) := by
  have hcontext : request.context.stage = .awaitingBegin := hstage
  unfold processFirst
  split
  next => exact .keeps nofun
  next =>
    split
    next => exact .fails rfl fun hne => absurd hstage hne
    next htype =>
      cases hbody : BeginBody.ofBytes record.content with
      | error e => exact .fails rfl fun hne => absurd hstage hne
      | ok body =>
        simp only [Context.start, Context.advance, hcontext]
        exact .begins hstage hid (Decidable.not_not.1 htype) hbody

/-- A record of another id changes nothing, or has the request given up. -/
theorem alters_processForeign : request.Alters record (request.processForeign record) := by
  unfold processForeign
  split
  next =>
    rw [Record.new_endRequest]
    exact .keeps nofun
  next => exact .keeps nofun

/-- The end of the parameters goes on to the body, or has the request given up for what is left
over. -/
theorem alters_endParams (hstage : request.stage = .streamingParams) :
    request.Alters record request.endParams := by
  have hcontext : request.context.stage = .streamingParams := hstage
  unfold endParams
  cases request.decoder.finish with
  | error e => exact .fails rfl fun _ => rfl
  | ok =>
    simp only [Context.advance, hcontext]
    exact .allParams hstage

/-- A piece of the parameters is gathered, or has the request given up for being too much. -/
theorem alters_addParams (hstage : request.stage = .streamingParams) (piece : Bytes) :
    request.Alters record (request.addParams piece) := by
  unfold addParams
  dsimp only
  split
  next => exact .fails rfl fun _ => rfl
  next => exact .params hstage

/-- The end of the body makes the request complete. -/
theorem alters_endBody (hstage : request.stage = .streamingBody) :
    request.Alters record request.endBody := by
  have hcontext : request.context.stage = .streamingBody := hstage
  unfold endBody
  simp only [Context.advance, hcontext]
  exact .completes hstage

/-- A piece of the body is gathered, or has the request given up for being too much. -/
theorem alters_addBody (hstage : request.stage = .streamingBody) (piece : Bytes) :
    request.Alters record (request.addBody piece) := by
  unfold addBody
  split
  next => exact .fails rfl fun _ => rfl
  next => exact .body hstage

/-- A record of the request itself does what its type and the stage have it do. -/
theorem alters_processOwn : request.Alters record (request.processOwn record) := by
  unfold processOwn
  split
  next => exact .fails rfl fun _ => rfl
  next hstage _ =>
    split
    next => exact alters_endParams hstage
    next => exact alters_addParams hstage _
  next hstage _ =>
    split
    next => exact alters_endBody hstage
    next => exact alters_addBody hstage _
  next => exact .fails rfl fun _ => rfl

/-- One record does what `Alters` says and nothing else. -/
theorem alters_process (request : Request) (record : Record) :
    request.Alters record (request.process record) := by
  by_cases hid : record.id = managementId
  · rw [process_of_management request hid]
    split
    next => exact .fails rfl fun _ => rfl
    next => exact .keeps nofun
  · rw [process, if_neg (by simpa [Record.isManagement] using hid)]
    split
    next hstage => exact alters_processFirst hstage hid
    next =>
      split
      next => exact alters_processForeign
      next => exact alters_processOwn

/-- What a record does, by what it comes to. -/
theorem alters_of_process (h : request.process record = outcome) : request.Alters record outcome :=
  h ▸ request.alters_process record

/-! ## What stays the same -/

/-- How a request may have changed in a step. -/
structure Evolves (request request' : Request) : Prop where
  /-- The stage goes on to the next one, or to the end, if it changes. -/
  stage : request'.stage = request.stage ∨ request.stage.canAdvanceTo request'.stage = true
  /-- What a BEGIN record says does not change after it. -/
  start : request'.context.id = request.context.id ∧ request'.context.role = request.context.role ∧
      request'.context.keep = request.context.keep ∨
    request.stage = .awaitingBegin ∧ request'.stage = .streamingParams
  /-- The parameters change only while they are being received. -/
  params : request'.context.params = request.context.params ∨
    request.stage = .streamingParams ∧ request'.stage = .streamingParams
  /-- The body changes only while it is being received, and grows at its end. -/
  stdin : request'.context.stdin = request.context.stdin ∨
    request.stage = .streamingBody ∧ request'.stage = .streamingBody ∧
      ∃ piece, request'.context.body = request.context.body ++ piece
  /-- Answers go to the same id once the request has left its first stage. -/
  replyId : request.stage ≠ .awaitingBegin → request'.replyId = request.replyId
  /-- A request that has ended does not change. -/
  frozen : request.stage.isTerminal = true → request'.context = request.context

theorem Evolves.refl (request : Request) : request.Evolves request :=
  ⟨.inl rfl, .inl ⟨rfl, rfl, rfl⟩, .inl rfl, .inl rfl, fun _ => rfl, fun _ => rfl⟩

/-- In a step a request evolves: whatever a record does to it, it does not go back. -/
theorem Alters.evolves (h : request.Alters record outcome) : request.Evolves outcome.2 := by
  cases h with
  | keeps => exact .refl _
  | begins hstage =>
    exact ⟨.inr (hstage ▸ rfl), .inr ⟨hstage, rfl⟩, .inl rfl, .inl rfl,
      fun hne => absurd hstage hne, fun hended => by simp [hstage, Stage.isTerminal] at hended⟩
  | params hstage =>
    exact ⟨.inl rfl, .inl ⟨rfl, rfl, rfl⟩, .inr ⟨hstage, hstage⟩, .inl rfl, fun _ => rfl,
      fun hended => by simp [hstage, Stage.isTerminal] at hended⟩
  | allParams hstage | completes hstage =>
    exact ⟨.inr (hstage ▸ rfl), .inl ⟨rfl, rfl, rfl⟩, .inl rfl, .inl rfl, fun _ => rfl,
      fun hended => by simp [hstage, Stage.isTerminal] at hended⟩
  | @body piece hstage =>
    exact ⟨.inl rfl, .inl ⟨rfl, rfl, rfl⟩, .inl rfl,
      .inr ⟨hstage, hstage, piece, Context.body_addBody ..⟩, fun _ => rfl,
      fun hended => by simp [hstage, Stage.isTerminal] at hended⟩
  | @fails _ request' hcontext hreply =>
    exact ⟨.inl (congrArg Context.stage hcontext), .inl (by simp [hcontext]),
      .inl (congrArg Context.params hcontext), .inl (congrArg Context.stdin hcontext), hreply,
      fun _ => hcontext⟩

/-- A record that has a request given up leaves what is known of it as it was. -/
theorem Alters.context_of_error (h : request.Alters record (.error reason, request')) :
    request'.context = request.context := by
  cases h with
  | fails hcontext => exact hcontext

/-- A record that has a request given up once it has begun leaves the id to answer to. -/
theorem Alters.replyId_of_error (h : request.Alters record (.error reason, request'))
    (hstage : request.stage ≠ .awaitingBegin) : request'.replyId = request.replyId := by
  cases h with
  | fails _ hreply => exact hreply hstage

/-- The record with which a request is complete takes it to its last stage. -/
theorem Alters.stage_of_complete (h : request.Alters record (.ok .complete, request')) :
    request'.stage = .complete := by
  cases h with
  | keeps hstep => exact absurd rfl hstep
  | completes => rfl

/-- Any other record that is taken leaves it on its way. -/
theorem Alters.open_of_ok (h : request.Alters record (.ok step, request'))
    (hstep : step ≠ .complete) (hopen : request.stage.isTerminal = false) :
    request'.stage.isTerminal = false := by
  cases h with
  | keeps => exact hopen
  | begins | allParams => rfl
  | params | body => exact hopen
  | completes => exact absurd rfl hstep

/-! ## Giving a request up -/

/-- A request that is given up before its end is aborted, and nothing else is forgotten of it. -/
theorem context_abort (hopen : request.stage.isTerminal = false) :
    request.abort.context = { request.context with stage := .aborted } := by
  rw [abort_eq, hopen]
  rfl

/-- To give a request up changes its stage at most. -/
theorem context_abort_eq (request : Request) :
    request.abort.context = { request.context with stage := request.abort.stage } := by
  rw [abort_eq]
  split <;> rfl

/-- A request that has ended cannot be given up. -/
theorem abort_of_terminal (hended : request.stage.isTerminal = true) : request.abort = request := by
  rw [abort_eq, if_pos hended]

/-- To give a request up changes only its stage, and that only if it has not ended. -/
theorem evolves_abort (request : Request) : request.Evolves request.abort := by
  cases hended : request.stage.isTerminal with
  | true =>
    rw [abort_of_terminal hended]
    exact .refl request
  | false =>
    rw [abort_eq, if_neg (by simp [hended])]
    refine ⟨.inr ?_, .inl ⟨rfl, rfl, rfl⟩, .inl rfl, .inl rfl, fun _ => rfl, fun h => ?_⟩
    · show request.stage.canAdvanceTo .aborted = true
      cases hstage : request.stage <;> simp [hstage, Stage.isTerminal] at hended <;> rfl
    · cases hended.symm.trans h

/-- The same holds of a request of which as much is known. -/
theorem Evolves.of_context_eq (h : request'.Evolves request'')
    (hcontext : request'.context = request.context)
    (hreply : request.stage ≠ .awaitingBegin → request'.replyId = request.replyId) :
    request.Evolves request'' := by
  obtain ⟨hstage, hstart, hparams, hstdin, hreply', hfrozen⟩ := h
  simp only [Request.stage, hcontext] at hstage hstart hparams hstdin hreply' hfrozen
  exact ⟨hstage, hstart, hparams, hstdin, fun hne => (hreply' hne).trans (hreply hne), hfrozen⟩

/-! ## Many steps -/

/-- One step of a run. -/
inductive Advances (request : Request) : Request → Prop where
  /-- A record is taken. -/
  | takes {record : Record} {step : Step} {request' : Request}
      (h : request.process record = (.ok step, request')) : Advances request request'
  /-- A record has the request given up. -/
  | givesUp {record : Record} {reason : AbortReason} {request' : Request}
      (h : request.process record = (.error reason, request')) : Advances request request'.abort
  /-- What arrives is not a record, and has the request given up. -/
  | unreadable : Advances request request.abort

/-- A request becomes another one in the course of any number of runs. -/
abbrev Reaches : Request → Request → Prop := Relation.ReflTransGen Advances

/-- Every step of a run is one in which a request evolves. -/
theorem Advances.evolves (h : request.Advances request') : request.Evolves request' := by
  cases h with
  | takes h => exact (alters_of_process h).evolves
  | givesUp h =>
    have halters := alters_of_process h
    exact (evolves_abort _).of_context_eq halters.context_of_error halters.replyId_of_error
  | unreadable => exact evolves_abort request

/-- What a request that has begun answers to, and what its BEGIN record said, stays as it is. -/
theorem Reaches.start (h : request.Reaches request') (hstage : request.stage ≠ .awaitingBegin) :
    request'.stage ≠ .awaitingBegin ∧ request'.replyId = request.replyId ∧
      request'.context.id = request.context.id ∧ request'.context.role = request.context.role ∧
      request'.context.keep = request.context.keep := by
  induction h with
  | refl => exact ⟨hstage, rfl, rfl, rfl, rfl⟩
  | @tail before after _ hstep ih =>
    obtain ⟨hbefore, hreply, hid, hrole, hkeep⟩ := ih
    have hevolves := hstep.evolves
    obtain ⟨hid', hrole', hkeep'⟩ | ⟨hawaiting, -⟩ := hevolves.start
    · refine ⟨fun hafter => ?_, (hevolves.replyId hbefore).trans hreply, hid'.trans hid,
        hrole'.trans hrole, hkeep'.trans hkeep⟩
      obtain hsame | hadvances := hevolves.stage
      · exact hbefore (hsame.symm.trans hafter)
      · rw [hafter] at hadvances
        cases hstage' : before.stage <;> simp [hstage', Stage.canAdvanceTo] at hadvances
    · exact absurd hawaiting hbefore

/-- Nothing that is known of a request changes once it has ended. -/
theorem Reaches.frozen (h : request.Reaches request') (hended : request.stage.isTerminal = true) :
    request'.context = request.context := by
  induction h with
  | refl => rfl
  | tail _ hstep ih =>
    refine (hstep.evolves.frozen ?_).trans ih
    rw [Request.stage, ih]
    exact hended

/-- What holds of a run, if it holds of runs that end at once, and of those that go on after a
record is taken. -/
theorem run_induction {motive : Request → Except TransportError RunOutcome → Request → Prop}
    (unreadable : ∀ request e, motive request (.ok (.aborted (.protocol e))) request.abort)
    (fails : ∀ request e, motive request (.error e) request)
    (givesUp : ∀ {request record reason request'},
      request.process record = (.error reason, request') →
      motive request (.ok (.aborted reason)) request'.abort)
    (completes : ∀ {request record request'}, request.process record = (.ok .complete, request') →
      motive request (.ok .complete) request')
    (goesOn : ∀ {request record step request' result last},
      request.process record = (.ok step, request') → step ≠ .complete →
      motive request' result last → motive request result last)
    (request : Request) (channel : Channel) :
    motive request (request.run channel).1 (request.run channel).2.1 := by
  induction request, channel using run.induct with
  | case1 request channel e channel₁ hreceive =>
    rw [run_eq, hreceive]
    exact unreadable request e
  | case2 request channel e channel₁ hnot hreceive =>
    have hrun : request.run channel = (.error e, request, channel₁) := by
      rw [run_eq, hreceive]
      simp
    rw [hrun]
    exact fails request e
  | case3 request channel record channel₁ hreceive hlt told hremark reason request₁ hprocess =>
    rw [run_eq, hreceive]
    simp only [hprocess]
    exact givesUp hprocess
  | case4 request channel record channel₁ hreceive hlt told hremark request₁ hprocess =>
    rw [run_eq, hreceive]
    simp only [hprocess]
    exact completes hprocess
  | case5 request channel record channel₁ hreceive hlt told hremark request₁ hprocess ih =>
    rw [run_eq, hreceive]
    simp only [hprocess]
    exact goesOn hprocess (by simp) ih
  | case6 request channel record channel₁ hreceive hlt told hremark reply request₁ hprocess e
      channel₂ hsend =>
    rw [run_eq, hreceive]
    simp only [hprocess]
    rw [show (request.tellRemark record channel₁).sendRecord reply = _ from hsend]
    exact goesOn hprocess (by simp) (fails request₁ e)
  | case7 request channel record channel₁ hreceive hlt told hremark reply request₁ hprocess
      channel₂ hsend hkeeps ih =>
    rw [run_eq, hreceive]
    simp only [hprocess]
    rw [show (request.tellRemark record channel₁).sendRecord reply = _ from hsend]
    exact goesOn hprocess (by simp) ih

/-- A run takes a request from step to step. -/
theorem reaches_run (request : Request) (channel : Channel) :
    request.Reaches (request.run channel).2.1 :=
  run_induction (motive := fun request _ last => request.Reaches last)
    (fun _ _ => .single .unreadable) (fun _ _ => .refl) (fun h => .single (.givesUp h))
    (fun h => .single (.takes h)) (fun h _ hlast => .head (.takes h) hlast) request channel

/-- A result of a run that goes with the stage in which the request is left. -/
def Tells : Except TransportError RunOutcome → Stage → Prop
  | .ok .complete, stage => stage = .complete
  | .ok (.aborted _), stage => stage = .aborted
  | .error _, stage => stage.isTerminal = false

/-- The result of a run tells the stage of the request, if the request had not ended before. -/
theorem tells_run (hopen : request.stage.isTerminal = false) (channel : Channel) :
    Tells (request.run channel).1 (request.run channel).2.1.stage := by
  refine run_induction (motive := fun request result last =>
    request.stage.isTerminal = false → Tells result last.stage) ?_ ?_ ?_ ?_ ?_ request channel hopen
  · intro request e hopen
    exact congrArg Context.stage (context_abort hopen)
  · intro request e hopen
    exact hopen
  · intro request record reason request' h hopen
    have hcontext := (alters_of_process h).context_of_error
    have hopen' : request'.stage.isTerminal = false := by rwa [stage, hcontext]
    exact congrArg Context.stage (context_abort hopen')
  · intro request record request' h _
    exact (alters_of_process h).stage_of_complete
  · intro request record step request' result last h hstep hlast hopen
    exact hlast ((alters_of_process h).open_of_ok hstep hopen)

/-- A result and a stage that go together tell each other: the cases exclude one another. -/
theorem Tells.iff {result : Except TransportError RunOutcome} {stage : Stage}
    (h : Tells result stage) :
    (result = .ok .complete ↔ stage = .complete) ∧
      ((∃ reason, result = .ok (.aborted reason)) ↔ stage = .aborted) ∧
      ((∃ e, result = .error e) ↔ stage.isTerminal = false) := by
  rcases result with e | _ | reason
  · have h : stage.isTerminal = false := h
    cases stage <;> simp [Stage.isTerminal] at h ⊢
  · cases (show stage = .complete from h)
    simp [Stage.isTerminal]
  · cases (show stage = .aborted from h)
    simp [Stage.isTerminal]

/-! ## Any number of runs -/

/-- A request after several runs, each on some channel. -/
def runs (request : Request) (channels : List Channel) : Request :=
  channels.foldl (fun request channel => (request.run channel).2.1) request

/-- Several runs take a request from step to step, each from where the one before has left it. -/
theorem reaches_runs (request : Request) (channels : List Channel) :
    request.Reaches (request.runs channels) := by
  induction channels generalizing request with
  | nil => exact .refl
  | cons channel channels ih => exact (reaches_run request channel).trans (ih _)

/-- A request that is in its first stage after a step has not changed. -/
theorem Evolves.context_eq (h : request.Evolves request')
    (hstage' : request'.stage = .awaitingBegin) : request'.context = request.context := by
  have hstage : request'.stage = request.stage := h.stage.resolve_right fun hadvances => by
    rw [hstage'] at hadvances
    cases hstage : request.stage <;> simp [hstage, Stage.canAdvanceTo] at hadvances
  have hstart := h.start.resolve_right fun hstart => by cases hstage'.symm.trans hstart.2
  have hparams := h.params.resolve_right fun hparams => by cases hstage'.symm.trans hparams.2
  have hstdin := h.stdin.resolve_right fun hstdin => by cases hstage'.symm.trans hstdin.2.1
  have hfields : ∀ context context' : Context, context'.id = context.id ∧
      context'.role = context.role ∧ context'.keep = context.keep →
      context'.params = context.params → context'.stdin = context.stdin →
      context'.stage = context.stage → context' = context := by
    rintro ⟨⟩ ⟨⟩ ⟨rfl, rfl, rfl⟩ rfl rfl rfl
    rfl
  exact hfields _ _ hstart hparams hstdin hstage

/-- Nothing is known of a request as long as no BEGIN record was accepted. -/
theorem Reaches.context_eq (h : Reaches request request')
    (hstage : request'.stage = .awaitingBegin) : request'.context = request.context := by
  induction h with
  | refl => rfl
  | tail _ hstep ih =>
    have hcontext := hstep.evolves.context_eq hstage
    refine hcontext.trans (ih ?_)
    rw [Request.stage, ← hcontext]
    exact hstage

/-- A BEGIN record is the only one that takes a request from its first stage. -/
theorem begins_of_process (h : request.process record = (.ok step, request'))
    (hstage : request.stage = .awaitingBegin) (hstage' : request'.stage ≠ .awaitingBegin) :
    record.id ≠ managementId ∧ record.type = .beginRequest ∧
      (∃ body, BeginBody.ofBytes record.content = .ok body ∧ request'.context =
        { request.context with
          id := record.id, role := body.role, keep := body.keep, stage := .streamingParams }) ∧
      request'.replyId = some record.id := by
  cases alters_of_process h with
  | keeps => exact absurd hstage hstage'
  | begins _ hid htype hbody => exact ⟨hid, htype, ⟨_, hbody, rfl⟩, rfl⟩
  | params hother | allParams hother | body hother | completes hother =>
    cases hstage.symm.trans hother

/-- A BEGIN record whose body has the wrong size has the request given up before it has begun. -/
theorem process_of_malformed {e : ProtocolError} (hstage : request.stage = .awaitingBegin)
    (hid : record.id ≠ managementId) (htype : record.type = .beginRequest)
    (hbody : BeginBody.ofBytes record.content = .error e) :
    request.process record =
      (.error (.protocol e), { request with replyId := some record.id }) := by
  rw [process, if_neg (by simpa [Record.isManagement] using hid), if_pos hstage]
  simp [processFirst, isTrailing, htype, hbody]

/-- Take any request that has come about from a new one in any number of runs, on channels that may
fail at any point, and all that a run can do to it. Its stage goes forward on its way, what its
BEGIN record says changes with that record only, its parameters and its body only in their own
stages, and nothing once it has ended (`Evolves`). A record that has it given up, as one beyond a
limit does, changes nothing but the stage, and a BEGIN record with a bad body leaves it as new but
for that. After a BEGIN record that is accepted its id is that of the record, which is not zero, and
it answers to that id for ever. As long as it has not ended, the result of the next run tells in
which stage it leaves the request. -/
theorem runs_evolve (limits : Limits) (info : ServerInfo) (previousId : Option UInt16) :
    (∀ channels,
      (new limits info previousId).Reaches ((new limits info previousId).runs channels)) ∧
    ∀ request, (new limits info previousId).Reaches request →
      (∀ channel, request.Reaches (request.run channel).2.1) ∧
      (∀ request', request.Advances request' → request.Evolves request') ∧
      (∀ record reason request', request.process record = (.error reason, request') →
        request'.abort.context = { request.context with stage := request'.abort.stage }) ∧
      (∀ record e, request.stage = .awaitingBegin → record.id ≠ managementId →
        record.type = .beginRequest → BeginBody.ofBytes record.content = .error e →
        ∃ request', request.process record = (.error (.protocol e), request') ∧
          request'.abort.context = { Context.new with stage := .aborted }) ∧
      (∀ record step begun, request.process record = (.ok step, begun) →
        request.stage = .awaitingBegin → begun.stage ≠ .awaitingBegin →
        record.type = .beginRequest ∧ record.id ≠ 0 ∧
        (∃ body, BeginBody.ofBytes record.content = .ok body ∧ begun.context =
          ⟨record.id, body.role, body.keep, .empty, #[], .streamingParams⟩) ∧
        ∀ later, begun.Reaches later →
          later.context.id = record.id ∧ later.replyId = some record.id) ∧
      (request.stage.isTerminal = true → ∀ later, request.Reaches later →
        later.context = request.context) ∧
      (request.stage.isTerminal = false → ∀ channel,
        ((request.run channel).1 = .ok .complete ↔ (request.run channel).2.1.stage = .complete) ∧
        ((∃ reason, (request.run channel).1 = .ok (.aborted reason)) ↔
          (request.run channel).2.1.stage = .aborted) ∧
        ((∃ e, (request.run channel).1 = .error e) ↔
          (request.run channel).2.1.stage.isTerminal = false)) := by
  refine ⟨reaches_runs _, fun request hreaches => ⟨request.reaches_run, fun request' => ?_, ?_, ?_,
    ?_, fun hended later hlater => hlater.frozen hended, fun hopen channel => ?_⟩⟩
  · exact Advances.evolves
  · intro record reason request' h
    rw [← (alters_of_process h).context_of_error]
    exact context_abort_eq request'
  · intro record e hstage hid htype hbody
    have hprocess := process_of_malformed hstage hid htype hbody
    have hopen : request.stage.isTerminal = false := by simp [hstage, Stage.isTerminal]
    have hcontext : request.context = .new := hreaches.context_eq hstage
    refine ⟨_, hprocess, (context_abort ?_).trans ?_⟩
    · exact hopen
    · exact congrArg (fun context : Context => { context with stage := .aborted }) hcontext
  · intro record step begun h hstage hbegun
    obtain ⟨hid, htype, ⟨body, hbody, hcontext⟩, hreply⟩ := begins_of_process h hstage hbegun
    rw [hreaches.context_eq hstage] at hcontext
    refine ⟨htype, hid, ⟨body, hbody, hcontext⟩, fun later hlater => ?_⟩
    obtain ⟨-, hreply', hid', -⟩ := hlater.start hbegun
    exact ⟨hid'.trans (congrArg Context.id hcontext), hreply'.trans hreply⟩
  · exact (tells_run hopen channel).iff

end FastCgi.Request
