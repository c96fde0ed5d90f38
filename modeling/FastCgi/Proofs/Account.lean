import FastCgi.Proofs.OpenStreams
import FastCgi.Server

/-!
# What applications send

On a channel that takes all that is sent, what an application does there is settled by the
application alone: `Program.account` is the records that it sends, how it ends, and its output then,
with no channel in sight, and `exec_eq_account` says that on such a channel it comes to that. By
induction on the program, what is shown of one flush (`Output.flushed`) carries over to whole
applications (`Role.account`), and from there to what the server makes of a request that has ended
(`conclude_eq_account`).
-/

namespace FastCgi

/-! ## Flushing -/

namespace Output

/-- The records of all that was written and has not been sent, STDOUT first. -/
def records (output : Output) : List Record :=
  Channel.streamRecords .stdout output.id output.stdout ++
    Channel.streamRecords .stderr output.id output.stderr

/-- The ends of the streams. -/
def terminators (output : Output) : List Record :=
  .endOfStream .stdout output.id ::
    if output.stderrUsed then [.endOfStream .stderr output.id] else []

/-- An output all of which has been sent. -/
def drained (output : Output) : Output :=
  { output with
    stdout := [], stderr := []
    bytesSent := output.bytesSent + output.stdout.length + output.stderr.length }

/-- What a flush sends, and the output after it. -/
def flushed (output : Output) (final : Bool) : List Record × Output :=
  if output.finished then ([], output)
  else if final then
    (output.records ++ output.terminators, { output.drained with finished := true })
  else (output.records, output.drained)

/-- A flush is about the same request before and after. -/
theorem id_flushed (output : Output) (final : Bool) : (output.flushed final).2.id = output.id := by
  unfold flushed
  split
  · rfl
  split <;> rfl

/-- A flush sends nothing but output of the request. -/
theorem outputOf_of_mem_flushed {output : Output} {final : Bool} {record : Record}
    (h : record ∈ (output.flushed final).1) : record.OutputOf output.id := by
  have hrecords : record ∈ output.records → record.OutputOf output.id := by
    intro h
    rcases List.mem_append.1 h with h | h
    · obtain ⟨htype, hid, -⟩ := Channel.of_mem_streamRecords h
      exact ⟨.inl htype, hid⟩
    · obtain ⟨htype, hid, -⟩ := Channel.of_mem_streamRecords h
      exact ⟨.inr htype, hid⟩
  unfold flushed at h
  split at h
  next => cases h
  split at h
  next =>
    rcases List.mem_append.1 h with h | h
    · exact hrecords h
    unfold terminators at h
    rcases List.mem_cons.1 h with rfl | h
    · exact ⟨.inl rfl, rfl⟩
    · split at h
      · obtain rfl := List.mem_singleton.1 h
        exact ⟨.inr rfl, rfl⟩
      · cases h
  next => exact hrecords h

section

variable {channel : Channel} (hready : channel.Ready) (output : Output)

include hready

/-- Sending what was written to STDOUT succeeds, and sends it on that stream. Nothing is left
waiting. -/
theorem sendStdout_of_ready :
    ∃ channel', output.sendStdout channel =
        (.ok (), { output with
          stdout := [], bytesSent := output.bytesSent + output.stdout.length }, channel') ∧
      channel.Emits (Channel.streamRecords .stdout output.id output.stdout) channel' := by
  unfold sendStdout
  split
  next hempty =>
    have hnil : output.stdout = [] := List.isEmpty_iff.1 hempty
    refine ⟨channel, ?_, ?_⟩
    · rw [hnil, List.length_nil, Nat.add_zero, ← hnil]
    · rw [hnil, Channel.streamRecords_nil]
      exact .refl _
  next =>
    obtain ⟨channel', hsend, hemits⟩ :=
      Channel.emits_sendStream hready .stdout output.id output.stdout
    rw [hsend]
    exact ⟨channel', rfl, hemits⟩

/-- Sending what was written to STDERR succeeds, and sends it on that stream. Nothing is left
waiting. -/
theorem sendStderr_of_ready :
    ∃ channel', output.sendStderr channel =
        (.ok (), { output with
          stderr := [], bytesSent := output.bytesSent + output.stderr.length }, channel') ∧
      channel.Emits (Channel.streamRecords .stderr output.id output.stderr) channel' := by
  unfold sendStderr
  split
  next hempty =>
    have hnil : output.stderr = [] := List.isEmpty_iff.1 hempty
    refine ⟨channel, ?_, ?_⟩
    · rw [hnil, List.length_nil, Nat.add_zero, ← hnil]
    · rw [hnil, Channel.streamRecords_nil]
      exact .refl _
  next =>
    obtain ⟨channel', hsend, hemits⟩ :=
      Channel.emits_sendStream hready .stderr output.id output.stderr
    rw [hsend]
    exact ⟨channel', rfl, hemits⟩

/-- Ending the streams succeeds, and sends the ends of those that are to be ended. -/
theorem finish_of_ready :
    ∃ channel', output.finish channel = (.ok (), { output with finished := true }, channel') ∧
      channel.Emits output.terminators channel' := by
  obtain ⟨between, hend, hemits⟩ := Channel.emits_endStream hready .stdout output.id
  rw [finish, hend, Channel.Outcome.andThen_ok, terminators]
  cases output.stderrUsed with
  | false => exact ⟨between, rfl, hemits⟩
  | true =>
    obtain ⟨channel', hend', hemits'⟩ :=
      Channel.emits_endStream (hemits.ready hready) .stderr output.id
    rw [if_pos rfl, hend']
    exact ⟨channel', rfl, hemits.trans hemits'⟩

/-- A flush succeeds, and sends what it is to send. -/
theorem flush_of_ready (final : Bool) :
    ∃ channel', output.flush channel final = (.ok (), (output.flushed final).2, channel') ∧
      channel.Emits (output.flushed final).1 channel' := by
  unfold flush flushed
  split
  · exact ⟨channel, rfl, .refl _⟩
  obtain ⟨channel₁, hstdout, hemits₁⟩ := output.sendStdout_of_ready hready
  have hready₁ := hemits₁.ready hready
  obtain ⟨channel₂, hstderr, hemits₂⟩ := sendStderr_of_ready hready₁ { output with
    stdout := [], bytesSent := output.bytesSent + output.stdout.length }
  have hemits := hemits₁.trans hemits₂
  rw [hstdout]
  simp only [hstderr]
  split
  · obtain ⟨channel₃, hfinish, hemits₃⟩ := output.drained.finish_of_ready (hemits₂.ready hready₁)
    exact ⟨channel₃, hfinish, hemits.trans hemits₃⟩
  · exact ⟨channel₂, rfl, hemits⟩

end

end Output

/-! ## Applications -/

/-- What a program comes to on a channel that takes all that is sent. -/
structure Account (α : Type) where
  /-- The records that it sent. -/
  sent : List Record
  ending : Ending α
  /-- Its output at its end. -/
  output : Output

namespace Program

variable {α : Type}

/-- What a program comes to that acts on an output. -/
def account : Program α → Output → Account α
  | .done result, output => ⟨[], .done result, output⟩
  | .fail error, output => ⟨[], .failed error, output⟩
  | .crash reason, output => ⟨[], .crashed reason, output⟩
  | .stdout data next, output => next.account (output.writeStdout data)
  | .stderr data next, output => next.account (output.writeStderr data)
  | .tell _ _ _ next, output => next.account output
  | .flush final next, output =>
    let rest := (next (.ok ())).account (output.flushed final).2
    { rest with sent := (output.flushed final).1 ++ rest.sent }

/-- A program acts on the output of one request, from its beginning to its end. -/
theorem id_account (program : Program α) (output : Output) :
    (program.account output).output.id = output.id := by
  induction program generalizing output with
  | done | fail | crash => rfl
  | stdout data next ih => exact ih (output.writeStdout data)
  | stderr data next ih => exact ih (output.writeStderr data)
  | tell level topic message next ih => exact ih output
  | flush final next ih => exact (ih (.ok ()) _).trans (output.id_flushed final)

/-- Whatever a program does, it sends nothing but output of its request. -/
theorem outputOf_of_mem_account {program : Program α} {output : Output} {record : Record}
    (h : record ∈ (program.account output).sent) : record.OutputOf output.id := by
  induction program generalizing output with
  | done | fail | crash => cases h
  | stdout data next ih => exact @ih (output.writeStdout data) h
  | stderr data next ih => exact @ih (output.writeStderr data) h
  | tell level topic message next ih => exact ih h
  | flush final next ih =>
    rcases List.mem_append.1 h with h | h
    · exact Output.outputOf_of_mem_flushed h
    · rw [← output.id_flushed final]
      exact ih (.ok ()) h

/-- A program comes to its account. -/
theorem exec_eq_account (program : Program α) (output : Output) {channel : Channel}
    (hready : channel.Ready) :
    ∃ channel', program.exec output channel =
        ((program.account output).ending, (program.account output).output, channel') ∧
      channel.Emits (program.account output).sent channel' := by
  induction program generalizing output channel with
  | done | fail | crash => exact ⟨channel, rfl, .refl _⟩
  | stdout data next ih => exact ih (output.writeStdout data) hready
  | stderr data next ih => exact ih (output.writeStderr data) hready
  | tell level topic message next ih =>
    have htell := (Channel.Emits.refl channel).tell level topic message
    obtain ⟨channel', hexec, hemits⟩ := ih output (htell.ready hready)
    exact ⟨channel', hexec, htell.trans hemits⟩
  | flush final next ih =>
    obtain ⟨between, hflush, hemits⟩ := output.flush_of_ready hready final
    obtain ⟨channel', hexec, hemits'⟩ := ih (.ok ()) (output.flushed final).2 (hemits.ready hready)
    refine ⟨channel', ?_, hemits.trans hemits'⟩
    rw [exec, hflush]
    exact hexec

/-- The last flush sends what was written to STDOUT, and ends it. -/
theorem account_flushOutput (id : UInt16) (data : Bytes) :
    let flush := (Program.flushOutput true).account ((Output.new id).writeStdout data)
    flush.sent = Channel.streamRecords .stdout id data ++ [.endOfStream .stdout id] ∧
      flush.ending = .done () := by
  simp [Program.flushOutput, Program.account, Output.flushed, Output.new, Output.writeStdout,
    Output.records, Output.terminators, Channel.streamRecords_nil]

end Program

namespace Server

/-- How an application ends, by the endings of its run and of its last flush. -/
def RoleOutcome.ofEndings : Ending Int32 → Ending Unit → RoleOutcome
  | .crashed reason, _ => .crashed (crashReason reason)
  | _, .crashed reason => .crashed (crashReason reason)
  | .done _, .failed error => .failed error
  | .done exitCode, .done () => .finished exitCode
  | .failed error, _ => .failed error

end Server

/-- What an application sends for a request of the given id, and how it ends. One that has broken
down does not flush its output any more. -/
def Role.account (role : Role) (id : UInt16) : List Record × Server.RoleOutcome :=
  let run := role.run.account (.new id)
  let last := (role.flush true).account run.output
  match run.ending with
  | .crashed reason => (run.sent, .crashed (Server.crashReason reason))
  | ending => (run.sent ++ last.sent, .ofEndings ending last.ending)

/-- What an application sends and what its last flush sends is all output of its request. -/
theorem Role.outputOf_of_mem_account {role : Role} {id : UInt16} {record : Record}
    (h : record ∈ (role.account id).1) : record.OutputOf id := by
  simp only [account] at h
  split at h
  next => exact Program.outputOf_of_mem_account h
  next =>
    rcases List.mem_append.1 h with h | h
    · exact Program.outputOf_of_mem_account h
    · have houtput := Program.outputOf_of_mem_account h
      rwa [Program.id_account] at houtput

/-- The output of a request as its application leaves it. If that broke down, its streams have been
ended on its behalf. -/
def Role.output (role : Role) (id : UInt16) (streams : List (RecordType × UInt16)) : List Record :=
  match (role.account id).2 with
  | .crashed _ => (role.account id).1 ++
      Channel.endings (Channel.openAll streams (role.account id).1) id
  | _ => (role.account id).1

/-- Also what is sent on behalf of an application that broke down is output of its request, since
only output was open. -/
theorem Role.outputOf_of_mem_output {role : Role} {id : UInt16}
    {streams : List (RecordType × UInt16)} (honly : ∀ s ∈ streams, s.1.IsOutput) {record : Record}
    (h : record ∈ role.output id streams) : record.OutputOf id := by
  unfold output at h
  split at h
  next =>
    rcases List.mem_append.1 h with h | h
    · exact outputOf_of_mem_account h
    · obtain ⟨s, hs, rfl⟩ := List.mem_map.1 h
      refine ⟨?_, rfl⟩
      by_cases hopen : s ∈ streams
      · exact honly s hopen
      · obtain ⟨r, hr, rfl, -⟩ := Channel.exists_of_mem_openAll (List.mem_filter.1 hs).1 hopen
        exact (outputOf_of_mem_account hr).type
  next => exact outputOf_of_mem_account h

namespace Server

/-- An application comes to its account. -/
theorem invoke_eq_account (role : Role) (id : UInt16) {channel : Channel} (hready : channel.Ready) :
    ∃ channel', invoke role id channel = ((role.account id).2, channel') ∧
      channel.Emits (role.account id).1 channel' := by
  obtain ⟨between, hrun, hemits⟩ := role.run.exec_eq_account (.new id) hready
  obtain ⟨channel', hflush, hemits'⟩ :=
    (role.flush true).exec_eq_account (role.run.account (.new id)).output (hemits.ready hready)
  have hboth := hemits.trans hemits'
  rw [invoke, hrun, Role.account]
  cases (role.run.account (.new id)).ending with
  | crashed reason => exact ⟨between, rfl, hemits⟩
  | done exitCode =>
    simp only [hflush]
    cases ((role.flush true).account (role.run.account (.new id)).output).ending <;>
      exact ⟨channel', rfl, hboth⟩
  | failed error =>
    simp only [hflush]
    cases ((role.flush true).account (role.run.account (.new id)).output).ending with
    | done | crashed => exact ⟨channel', rfl, hboth⟩
    | failed => exact ⟨_, rfl, hboth.tell ..⟩

end Server

end FastCgi
