import FastCgi.Channel
import FastCgi.Request

/-!
# Receiving a request

`Request.run` receives records from a channel until the request is complete, is given up, or the
channel fails. Since every record that is received leaves fewer bytes to read, it comes to an end
(`run_unread_le`), and a request that was begun leaves fewer than there were.
-/

namespace FastCgi

/-- How receiving a request ends when the channel does not fail. -/
inductive RunOutcome where
  | complete
  | aborted (reason : AbortReason)
deriving DecidableEq, Repr

namespace RunOutcome

/-- Whether the request has arrived in full. -/
def isComplete : RunOutcome → Bool
  | complete => true
  | aborted _ => false

/-- Whether records can still be read from the connection. -/
def preservesFraming : RunOutcome → Bool
  | complete => true
  | aborted reason => reason.preservesFraming

end RunOutcome

namespace Request

/-- Makes the log entry about a record, if there is one to make. -/
def tellRemark (request : Request) (record : Record) (channel : Channel) : Channel :=
  match request.remark? record with
  | some remark => channel.tell .debug .request remark
  | none => channel

/-- Remarks about a record leave what is to be read. -/
theorem keeps_tellRemark (request : Request) (record : Record) (channel : Channel) :
    channel.Keeps (request.tellRemark record channel) := by
  unfold tellRemark
  split
  · exact Channel.keeps_tell ..
  · exact .refl _

/-- Receives records until the request ends. Records that cannot be read, or that the request cannot
take, make it end; any other failure of the channel is passed on, and the request stays as it
is. -/
def run (request : Request) (channel : Channel) :
    Except TransportError RunOutcome × Request × Channel :=
  match h : channel.receive with
  | (.error (.protocol e), channel) => (.ok (.aborted (.protocol e)), request.abort, channel)
  | (.error e, channel) => (.error e, request, channel)
  | (.ok record, received) =>
    have hlt := Channel.receive_unread_lt h
    let told := request.tellRemark record received
    have hremark : told.unread = received.unread :=
      (request.keeps_tellRemark record received).unread
    match request.process record with
    | (.error reason, request) => (.ok (.aborted reason), request.abort, told)
    | (.ok .complete, request) => (.ok .complete, request, told)
    | (.ok .more, request) => request.run told
    | (.ok (.reply reply), request) =>
      match hsend : told.sendRecord reply with
      | (.error e, channel) => (.error e, request, channel)
      | (.ok (), channel') =>
        have hkeeps : channel'.unread = told.unread := by
          have := (told.keeps_sendRecord reply).unread
          rwa [hsend] at this
        request.run channel'
termination_by channel.unread
decreasing_by
  · exact Nat.lt_of_le_of_lt (Nat.le_of_eq hremark) hlt
  · exact Nat.lt_of_le_of_lt (Nat.le_of_eq (hkeeps.trans hremark)) hlt

/-- One record's worth of receiving a request. -/
theorem run_eq (request : Request) (channel : Channel) :
    request.run channel =
      match channel.receive with
      | (.error (.protocol e), channel) => (.ok (.aborted (.protocol e)), request.abort, channel)
      | (.error e, channel) => (.error e, request, channel)
      | (.ok record, channel) =>
        match request.process record with
        | (.error reason, request') =>
          (.ok (.aborted reason), request'.abort, request.tellRemark record channel)
        | (.ok .complete, request') => (.ok .complete, request', request.tellRemark record channel)
        | (.ok .more, request') => request'.run (request.tellRemark record channel)
        | (.ok (.reply reply), request') =>
          match (request.tellRemark record channel).sendRecord reply with
          | (.error e, channel) => (.error e, request', channel)
          | (.ok (), channel) => request'.run channel := by
  rw [run]
  split
  next h => simp only [h]
  next h => simp only [h]
  next h =>
    simp only [h]
    split
    · rfl
    · rfl
    · rfl
    · split
      next hsend => simp only [hsend]
      next hsend => simp only [hsend]

/-- A request that ended leaves fewer bytes to read, unless what is left cannot be read at all. -/
theorem run_unread_lt {request request' : Request} {channel channel' : Channel}
    {outcome : RunOutcome} (h : request.run channel = (.ok outcome, request', channel'))
    (hframing : outcome.preservesFraming = true) : channel'.unread < channel.unread := by
  induction request, channel using run.induct with
  | case1 request channel e channel₁ hreceive =>
    rw [run_eq, hreceive] at h
    cases h
    simp [RunOutcome.preservesFraming, AbortReason.preservesFraming,
      Channel.preservesFraming_of_receive hreceive] at hframing
  | case2 request channel e channel₁ hnot hreceive =>
    rw [run_eq, hreceive] at h
    simp at h
  | case3 request channel record channel₁ hreceive hlt told hremark reason request₁ hprocess
  | case4 request channel record channel₁ hreceive hlt told hremark request₁ hprocess =>
    rw [run_eq, hreceive] at h
    simp only [hprocess] at h
    cases h
    exact hremark ▸ hlt
  | case5 request channel record channel₁ hreceive hlt told hremark request₁ hprocess ih =>
    rw [run_eq, hreceive] at h
    simp only [hprocess] at h
    have := ih h
    omega
  | case6 request channel record channel₁ hreceive hlt told hremark reply request₁ hprocess e
      channel₂ hsend =>
    rw [run_eq, hreceive] at h
    simp only [hprocess] at h
    rw [show (request.tellRemark record channel₁).sendRecord reply = _ from hsend] at h
    cases h
  | case7 request channel record channel₁ hreceive hlt told hremark reply request₁ hprocess
      channel₂ hsend hkeeps ih =>
    rw [run_eq, hreceive] at h
    simp only [hprocess] at h
    rw [show (request.tellRemark record channel₁).sendRecord reply = _ from hsend] at h
    have := ih h
    omega

end Request

end FastCgi
