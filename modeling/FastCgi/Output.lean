import FastCgi.Channel

/-!
# The output of a request

What an application writes is collected in memory, in one buffer for each of its two streams, and
goes out when it is flushed. The last flush ends the streams: STDOUT always, STDERR only if anything
was ever written to it. After that nothing is sent any more.
-/

namespace FastCgi

/-- The output of one request. -/
structure Output where
  /-- The id of the request. -/
  id : UInt16
  /-- What was written to STDOUT and has not been sent. -/
  stdout : Bytes
  /-- What was written to STDERR and has not been sent. -/
  stderr : Bytes
  /-- Whether anything was ever written to STDERR. -/
  stderrUsed : Bool
  /-- The number of bytes sent on both streams. -/
  bytesSent : Nat
  /-- Whether the streams have been ended. -/
  finished : Bool
deriving DecidableEq, Repr, Inhabited

namespace Output

/-- The output of a request that has written nothing yet. -/
def new (id : UInt16) : Output := ⟨id, [], [], false, 0, false⟩

/-- Writes to STDOUT. -/
def writeStdout (output : Output) (data : Bytes) : Output :=
  { output with stdout := output.stdout ++ data }

/-- Writes to STDERR. -/
def writeStderr (output : Output) (data : Bytes) : Output :=
  { output with
    stderr := output.stderr ++ data, stderrUsed := output.stderrUsed || !data.isEmpty }

/-- The number of bytes that wait for the next flush. -/
def buffered (output : Output) : Nat := output.stdout.length + output.stderr.length

/-- What an operation on an output comes to, with the output and its channel after it. -/
abbrev Outcome := Except TransportError Unit × Output × Channel

/-- Sends what was written to STDOUT. Nothing is forgotten if that fails. -/
def sendStdout (output : Output) (channel : Channel) : Outcome :=
  if output.stdout.isEmpty then (.ok (), output, channel)
  else match channel.sendStream .stdout output.id output.stdout with
    | (.error e, channel) => (.error e, output, channel)
    | (.ok (), channel) =>
      (.ok (), { output with stdout := [], bytesSent := output.bytesSent + output.stdout.length },
        channel)

/-- Sends what was written to STDERR. Nothing is forgotten if that fails. -/
def sendStderr (output : Output) (channel : Channel) : Outcome :=
  if output.stderr.isEmpty then (.ok (), output, channel)
  else match channel.sendStream .stderr output.id output.stderr with
    | (.error e, channel) => (.error e, output, channel)
    | (.ok (), channel) =>
      (.ok (), { output with stderr := [], bytesSent := output.bytesSent + output.stderr.length },
        channel)

/-- Ends the streams. -/
def finish (output : Output) (channel : Channel) : Outcome :=
  match (channel.endStream .stdout output.id).andThen fun _ channel =>
    if output.stderrUsed then channel.endStream .stderr output.id else (.ok (), channel) with
  | (.error e, channel) => (.error e, output, channel)
  | (.ok (), channel) => (.ok (), { output with finished := true }, channel)

/-- Sends what has been written and not sent, STDOUT first, and ends the streams if this is the last
flush. Once they have been ended, nothing is left to do. -/
def flush (output : Output) (channel : Channel) (final : Bool) : Outcome :=
  if output.finished then (.ok (), output, channel)
  else match output.sendStdout channel with
    | (.error e, output, channel) => (.error e, output, channel)
    | (.ok (), output, channel) =>
      match output.sendStderr channel with
      | (.error e, output, channel) => (.error e, output, channel)
      | (.ok (), output, channel) =>
        if final then output.finish channel else (.ok (), output, channel)

/-! ## Flushing reads nothing -/

/-- Sending what was written to STDOUT reads nothing. -/
theorem keeps_sendStdout (output : Output) (channel : Channel) :
    channel.Keeps (output.sendStdout channel).2.2 := by
  have hsend := channel.keeps_sendStream .stdout output.id output.stdout
  unfold sendStdout
  split
  · exact .refl _
  · split <;> next h => rw [h] at hsend; exact hsend

/-- Sending what was written to STDERR reads nothing. -/
theorem keeps_sendStderr (output : Output) (channel : Channel) :
    channel.Keeps (output.sendStderr channel).2.2 := by
  have hsend := channel.keeps_sendStream .stderr output.id output.stderr
  unfold sendStderr
  split
  · exact .refl _
  · split <;> next h => rw [h] at hsend; exact hsend

/-- Ending the streams reads nothing, however many of the two are ended. -/
theorem keeps_finish (output : Output) (channel : Channel) :
    channel.Keeps (output.finish channel).2.2 := by
  have hend : channel.Keeps ((channel.endStream .stdout output.id).andThen fun _ channel =>
      if output.stderrUsed then channel.endStream .stderr output.id else (.ok (), channel)).2 := by
    refine (Channel.keeps_endStream _ _ _).andThen fun _ channel => ?_
    split
    · exact Channel.keeps_endStream _ _ _
    · exact .refl _
  unfold finish
  split <;> next h => rw [h] at hend; exact hend

/-- A flush reads nothing, whatever it has to send and wherever it fails. -/
theorem keeps_flush (output : Output) (channel : Channel) (final : Bool) :
    channel.Keeps (output.flush channel final).2.2 := by
  have hstdout := output.keeps_sendStdout channel
  unfold flush
  split
  · exact .refl _
  · split
    next h => rw [h] at hstdout; exact hstdout
    next output channel h =>
      rw [h] at hstdout
      have hstderr := output.keeps_sendStderr channel
      split
      next h => rw [h] at hstderr; exact hstdout.trans hstderr
      next output channel h =>
        rw [h] at hstderr
        split
        · exact (hstdout.trans hstderr).trans (keeps_finish _ _)
        · exact hstdout.trans hstderr

end Output

end FastCgi
