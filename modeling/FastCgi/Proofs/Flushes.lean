import FastCgi.Proofs.Resending

/-!
# What is written is delivered

Over a channel that takes all that is sent, every flush of an output sends what was written since
the one before, first to STDOUT and then to STDERR, in records that are full as far as possible, and
the last flush ends the streams. `Output.Delivers` is what holds after some calls; a further call
preserves it (`Delivers.call`), and so does a whole run of them, by induction on the calls. That no
call but a flush sends anything, and that a finished output sends nothing, does not depend on the
channel (`play_of_idle`).
-/

namespace FastCgi

/-- The number of bytes that some records carry. -/
def Record.contentSize (records : List Record) : Nat := (records.flatMap Record.content).length

/-- Records carry what their parts carry. -/
theorem Record.contentSize_append (records records' : List Record) :
    contentSize (records ++ records') = contentSize records + contentSize records' := by
  rw [contentSize, List.flatMap_append, List.length_append]
  rfl

/-! ## Records that are full -/

/-- Some records carry data on a stream of a request: in order, none of them without data, and all
of them full but the last one. -/
structure Carries (type : RecordType) (id : UInt16) (data : Bytes) (records : List Record) :
    Prop where
  stream : ∀ r ∈ records, r.version = version1 ∧ r.type = type ∧ r.id = id
  length : ∀ r ∈ records, 0 < r.content.length ∧ r.content.length ≤ maxContentLength
  full : ∀ r ∈ records.dropLast, r.content.length = maxContentLength
  content : records.flatMap Record.content = data

namespace Channel

/-- All pieces of a stream are full but the last one. -/
theorem length_of_mem_dropLast_pieces {data piece : Bytes} (h : piece ∈ (pieces data).dropLast) :
    piece.length = maxContentLength := by
  induction data using pieces.induct with
  | case1 => rw [pieces_nil] at h; cases h
  | case2 data hdata ih =>
    rw [pieces_of_ne_nil hdata] at h
    by_cases hrest : data.drop maxContentLength = []
    · rw [hrest, pieces_nil] at h
      cases h
    rw [List.dropLast_cons_of_ne_nil (by rw [pieces_of_ne_nil hrest]; exact List.cons_ne_nil _ _)]
      at h
    rcases List.mem_cons.1 h with rfl | h
    · -- There is another piece behind this one, so that there was more data than it could hold.
      have := List.length_pos_iff.2 hrest
      rw [List.length_drop] at this
      rw [List.length_take]
      omega
    · exact ih h

/-- The records of a stream carry its data. -/
theorem carries_streamRecords (type : RecordType) (id : UInt16) (data : Bytes) :
    Carries type id data (streamRecords type id data) where
  stream r hr := by
    obtain ⟨_, -, rfl⟩ := List.mem_map.1 hr
    exact ⟨rfl, rfl, rfl⟩
  length r hr := by
    obtain ⟨piece, hpiece, rfl⟩ := List.mem_map.1 hr
    exact length_of_mem_pieces hpiece
  full r hr := by
    rw [streamRecords, ← List.map_dropLast] at hr
    obtain ⟨piece, hpiece, rfl⟩ := List.mem_map.1 hr
    exact length_of_mem_dropLast_pieces hpiece
  content := content_streamRecords type id data

/-- What has been sent is what is read off the wire. -/
theorem Sends.framesSince {start channel : Channel} {records : List Record}
    (h : start.Sends records channel) : start.framesSince channel = records := by
  rw [framesSince_eq h.sent, Record.decodeAll_encodeAll h.wellFormed]

end Channel

namespace Output

/-- Writes a text to STDOUT. -/
def Call.print (text : String) : Call := .stdout (Bytes.ofString text)

/-! ## Calls that send nothing -/

/-- Calls may be made in two goes. -/
theorem play_append (output : Output) (channel : Channel) (calls later : List Call) :
    output.play channel (calls ++ later) =
      (output.play channel calls).1.play (output.play channel calls).2 later := by
  induction calls generalizing output channel with
  | nil => rfl
  | cons call calls ih => exact ih ..

/-- A finished output stays so. -/
theorem finished_call {output : Output} (h : output.finished = true) (channel : Channel)
    (call : Call) : (output.call channel call).1.finished = true := by
  cases call with
  | stdout | stderr => exact h
  | flush final => rwa [call, flush, if_pos h]

/-- Nothing but a flush sends anything, and nothing at all when the output is finished. -/
theorem play_of_idle {output : Output} (channel : Channel) {calls : List Call}
    (h : output.finished = true ∨ ∀ final, .flush final ∉ calls) :
    (output.play channel calls).2 = channel := by
  induction calls generalizing output channel with
  | nil => rfl
  | cons call calls ih =>
    have hlater : (output.call channel call).1.finished = true ∨
        ∀ final, Call.flush final ∉ calls :=
      h.imp (fun hfinished => finished_call hfinished channel call)
        fun hnone final hmem => hnone final (.tail _ hmem)
    have hchannel : (output.call channel call).2 = channel := by
      cases call with
      | stdout | stderr => rfl
      | flush final =>
        have hfinished := h.resolve_right fun hnone => hnone final (.head _)
        rw [call, flush, if_pos hfinished]
    rw [play, ih _ hlater, hchannel]

/-! ## What calls deliver -/

/-- After some calls: the records that were sent, and how the output and its channel stand. -/
structure Delivers (start : Channel) (id : UInt16) (calls : List Call) (records : List Record)
    (output : Output) (channel : Channel) : Prop where
  sends : start.Sends records channel
  knows : output.Knows calls records
  id : output.id = id
  finished : output.finished = true ↔ .flush true ∈ calls
  used : output.stderrUsed = true ↔ written .stderr calls ≠ []
  size : output.bytesSent = Record.contentSize records
  total : output.bytesSent + output.buffered =
    (written .stdout calls).length + (written .stderr calls).length

/-- What is written to STDOUT waits. -/
theorem buffered_writeStdout (output : Output) (data : Bytes) :
    (output.writeStdout data).buffered = output.buffered + data.length := by
  simp only [buffered, writeStdout, List.length_append]
  omega

/-- What is written to STDERR waits. -/
theorem buffered_writeStderr (output : Output) (data : Bytes) :
    (output.writeStderr data).buffered = output.buffered + data.length := by
  simp only [buffered, writeStderr, List.length_append]
  omega

/-- The records of what waits carry as much as waits. -/
theorem contentSize_records (output : Output) :
    Record.contentSize output.records = output.buffered := by
  rw [records, Record.contentSize_append, Record.contentSize, Record.contentSize,
    Channel.content_streamRecords, Channel.content_streamRecords]
  rfl

/-- The ends of the streams carry nothing. -/
theorem contentSize_terminators (output : Output) : Record.contentSize output.terminators = 0 := by
  unfold terminators
  split <;> rfl

/-- A flush counts what it sends, and what it does not send goes on waiting. -/
theorem size_flushed (output : Output) (final : Bool) :
    (output.flushed final).2.bytesSent =
        output.bytesSent + Record.contentSize (output.flushed final).1 ∧
      (output.flushed final).2.bytesSent + (output.flushed final).2.buffered =
        output.bytesSent + output.buffered := by
  have hrecords := output.contentSize_records
  have hdrained : output.drained.bytesSent = output.bytesSent + output.buffered :=
    Nat.add_assoc ..
  unfold flushed
  split
  · exact ⟨rfl, rfl⟩
  split
  · refine ⟨?_, hdrained⟩
    rw [Record.contentSize_append, hrecords, contentSize_terminators, Nat.add_zero]
    exact hdrained
  · refine ⟨?_, hdrained⟩
    rw [hrecords]
    exact hdrained

/-- A flush of an output that is not finished sends what waits, and ends the streams if it is the
last one. -/
theorem flushed_of_unfinished {output : Output} (h : output.finished = false) (final : Bool) :
    (output.flushed final).1 = output.records ++ if final then output.terminators else [] := by
  rw [flushed, if_neg (by simp [h])]
  cases final with
  | true => rfl
  | false => exact (List.append_nil _).symm

/-- What is left of an output by a flush that is not in vain. -/
theorem waiting_flushed {output : Output} (h : output.finished = false) (final : Bool)
    (type : RecordType) : (output.flushed final).2.waiting type = [] := by
  rw [flushed, if_neg (by simp [h])]
  unfold waiting
  split <;> split <;> rfl

/-- Streams are ended by the last flush, and stay so. -/
theorem finished_flushed (output : Output) (final : Bool) :
    (output.flushed final).2.finished = (output.finished || final) := by
  unfold flushed
  split
  next h => rw [h, Bool.true_or]
  next h =>
    rw [Bool.not_eq_true] at h
    cases final with
    | true => exact (Bool.or_true _).symm
    | false => exact (Bool.or_false _).symm

/-- That something was written to STDERR is not forgotten by a flush. -/
theorem stderrUsed_flushed (output : Output) (final : Bool) :
    (output.flushed final).2.stderrUsed = output.stderrUsed := by
  unfold flushed
  split
  · rfl
  split <;> rfl

variable {start channel : Channel} {id : UInt16} {calls : List Call} {records : List Record}
  {output : Output}

/-- Before any call nothing has been sent, and nothing waits. -/
theorem delivers_new (start : Channel) (id : UInt16) :
    Delivers start id [] [] (new id) start where
  sends := .refl start
  knows := knows_new id
  id := rfl
  finished := by simp [new]
  used := by simp [new, written]
  size := rfl
  total := rfl

/-- Only a last flush finishes an output. -/
theorem Delivers.unfinished (h : Delivers start id calls records output channel)
    (hcalls : .flush true ∉ calls) : output.finished = false := by
  rwa [← h.finished, Bool.not_eq_true] at hcalls

/-- Writing sends nothing, and what is written waits. -/
theorem Delivers.write (h : Delivers start id calls records output channel) {call : Call}
    {output' : Output} (hcall : ∀ final, call ≠ .flush final)
    (hknows : output'.Knows (calls ++ [call]) records) (hid : output'.id = output.id)
    (hfinished : output'.finished = output.finished)
    (hused : output'.stderrUsed = (output.stderrUsed || !(call.data .stderr).isEmpty))
    (hsent : output'.bytesSent = output.bytesSent)
    (hbuffered : output'.buffered =
      output.buffered + ((call.data .stdout).length + (call.data .stderr).length)) :
    Delivers start id (calls ++ [call]) records output' channel where
  sends := h.sends
  knows := hknows
  id := hid.trans h.id
  finished := by
    rw [hfinished, h.finished, List.mem_append, List.mem_singleton]
    exact ⟨.inl, fun hmem => hmem.resolve_right fun heq => hcall true heq.symm⟩
  used := by
    rw [hused, Bool.or_eq_true, h.used, written_append, written_singleton, Ne, Ne,
      List.append_eq_nil_iff, not_and_or]
    simp
  size := hsent.trans h.size
  total := by
    have htotal := h.total
    rw [hsent, hbuffered, written_append, written_append, written_singleton, written_singleton,
      List.length_append, List.length_append]
    omega

/-- A flush sends what waits. -/
theorem Delivers.flush (h : Delivers start id calls records output channel)
    {channel' : Channel} {final : Bool} (hsends : channel.Sends (output.flushed final).1 channel') :
    Delivers start id (calls ++ [.flush final]) (records ++ (output.flushed final).1)
      (output.flushed final).2 channel' := by
  have hwritten (type : RecordType) :
      written type (calls ++ [.flush final]) = written type calls := by
    rw [written_append, written_singleton]
    exact List.append_nil _
  obtain ⟨hsize, htotal⟩ := output.size_flushed final
  refine ⟨h.sends.trans hsends, h.knows.flushed final, ?_, ?_, ?_, ?_, ?_⟩
  · rw [id_flushed, h.id]
  · rw [finished_flushed, Bool.or_eq_true, h.finished]
    simp [eq_comm]
  · rw [stderrUsed_flushed, hwritten, h.used]
  · rw [hsize, h.size, Record.contentSize_append]
  · rw [htotal, h.total, hwritten, hwritten]

/-- A call preserves what holds after the calls before it. -/
theorem Delivers.call (h : Delivers start id calls records output channel) (hready : start.Ready)
    (call : Call) :
    ∃ records', Delivers start id (calls ++ [call]) records' (output.call channel call).1
      (output.call channel call).2 := by
  cases call with
  | stdout data =>
    exact ⟨records, h.write nofun (h.knows.writeStdout data) rfl rfl (Bool.or_false _).symm rfl
      (output.buffered_writeStdout data)⟩
  | stderr data =>
    exact ⟨records, h.write nofun (h.knows.writeStderr data) rfl rfl rfl rfl
      ((output.buffered_writeStderr data).trans
        (congrArg (output.buffered + ·) (Nat.zero_add data.length).symm))⟩
  | flush final =>
    obtain ⟨channel', hflush, hemits⟩ :=
      output.flush_of_ready (h.sends.ready hready) final
    rw [Output.call, hflush]
    exact ⟨_, h.flush hemits.sends⟩

/-- Many calls, from where those before have left the output. -/
theorem Delivers.play (h : Delivers start id calls records output channel) (hready : start.Ready)
    (later : List Call) :
    ∃ records', Delivers start id (calls ++ later) records' (output.play channel later).1
      (output.play channel later).2 := by
  -- The calls that have been made grow as those that are to be made get fewer.
  induction later generalizing calls records output channel with
  | nil => exact ⟨records, by rwa [List.append_nil]⟩
  | cons call later ih =>
    obtain ⟨_, hcall⟩ := h.call hready call
    obtain ⟨records', hrest⟩ := ih hcall
    exact ⟨records', by rwa [List.append_assoc] at hrest⟩

/-- The records of any calls to a new output, over a channel that takes all that is sent. -/
theorem exists_delivers_play {start : Channel} (hready : start.Ready) (id : UInt16)
    (calls : List Call) :
    ∃ records, Delivers start id calls records ((new id).play start calls).1
      ((new id).play start calls).2 :=
  (delivers_new start id).play hready calls

/-- What a flush sends is the last that is on the wire, unless there is another flush that is not in
vain. -/
theorem Delivers.framesSince_flush (h : Delivers start id calls records output channel)
    (hready : start.Ready) {final : Bool} {after : List Call}
    (hidle : final = true ∨ ∀ other, .flush other ∉ after) :
    start.framesSince (output.play channel (.flush final :: after)).2 =
      records ++ (output.flushed final).1 := by
  obtain ⟨channel', hflush, hemits⟩ := output.flush_of_ready (h.sends.ready hready) final
  have hidle' : (output.flushed final).2.finished = true ∨ ∀ other, Call.flush other ∉ after :=
    hidle.imp_left fun hfinal => by rw [finished_flushed, hfinal, Bool.or_true]
  rw [Output.play, Output.call, hflush, play_of_idle channel' hidle']
  exact (h.sends.trans hemits.sends).framesSince

/-- A flush that is not in vain has sent all that was written before it. -/
theorem Delivers.carried_flushed (h : Delivers start id calls records output channel)
    (hcalls : .flush true ∉ calls) (final : Bool) {type : RecordType} (htype : type.IsOutput) :
    carried type (records ++ (output.flushed final).1) = written type calls := by
  have hdata := (h.knows.flushed final).data type htype
  rw [waiting_flushed (h.unfinished hcalls), List.append_nil, written_append, written_singleton] at hdata
  exact hdata.trans (List.append_nil _)

/-- STDERR is ended if anything was written to it. -/
theorem Delivers.terminators (h : Delivers start id calls records output channel) :
    output.terminators = .endOfStream .stdout id ::
      if written .stderr calls = [] then [] else [.endOfStream .stderr id] := by
  rw [Output.terminators, h.id]
  by_cases hused : written .stderr calls = []
  · rw [if_pos hused, if_neg fun hstderr => h.used.1 hstderr hused]
  · rw [if_neg hused, if_pos (h.used.2 hused)]

/-- **Output is delivered as it was written.** Whatever an application writes and however often it
flushes, over a channel that takes all that is sent:
- What its streams carry is what was written to them before the latest flush, or before the one that
  ended them. The output knows how much that is, and how much waits.
- Nothing is sent by any call but a flush, and nothing at all once the streams have been ended.
- Every flush succeeds. One that is not in vain sends what waits of STDOUT and then what waits of
  STDERR, in records of the request that are full as far as possible and none of which is without
  data. Behind these the last flush ends STDOUT, and STDERR as well if and only if anything was
  ever written to it. -/
theorem play_delivers {start : Channel} (hready : start.Ready) (id : UInt16) (calls : List Call) :
    let output := ((new id).play start calls).1
    let channel := ((new id).play start calls).2
    let records := start.framesSince channel
    channel.connection.sent.toList = start.connection.sent.toList ++ Record.encodeAll records ∧
    output.bytesSent = Record.contentSize records ∧
    output.bytesSent + output.buffered =
      (written .stdout calls).length + (written .stderr calls).length ∧
    (∀ before final after, calls = before ++ .flush final :: after → .flush true ∉ before →
      (final = true ∨ ∀ other, .flush other ∉ after) →
      ∀ type : RecordType, type.IsOutput → carried type records = written type before) ∧
    (∀ later, .flush true ∈ calls ∨ (∀ final, .flush final ∉ later) →
      (output.play channel later).2 = channel) ∧
    ∀ final, (output.flush channel final).1 = .ok () ∧
      (.flush true ∉ calls → ∃ stdout stderr out err,
        carried .stdout records ++ stdout = written .stdout calls ∧
        carried .stderr records ++ stderr = written .stderr calls ∧
        Carries .stdout id stdout out ∧ Carries .stderr id stderr err ∧
        start.framesSince (output.flush channel final).2.2 = records ++ (out ++ err ++
          if final then
            .endOfStream .stdout id ::
              if written .stderr calls = [] then [] else [.endOfStream .stderr id]
          else [])) := by
  intro output channel records
  obtain ⟨sent, hdelivers⟩ := exists_delivers_play hready id calls
  obtain rfl : records = sent := hdelivers.sends.framesSince
  refine ⟨hdelivers.sends.sent, hdelivers.size, hdelivers.total, ?_, ?_, fun final => ?_⟩
  · rintro before final after rfl hcalls hidle type htype
    obtain ⟨sent, hbefore⟩ := exists_delivers_play hready id before
    have hrecords : records = sent ++ (((new id).play start before).1.flushed final).1 := by
      rw [← hbefore.framesSince_flush hready hidle, ← play_append]
    rw [hrecords]
    exact hbefore.carried_flushed hcalls final htype
  · intro later hidle
    exact play_of_idle channel (hidle.imp_left hdelivers.finished.2)
  · obtain ⟨channel', hflush, hemits⟩ :=
      output.flush_of_ready (hdelivers.sends.ready hready) final
    rw [hflush]
    refine ⟨rfl, fun hcalls => ?_⟩
    refine ⟨output.stdout, output.stderr, _, _, hdelivers.knows.data .stdout (.inl rfl),
      hdelivers.knows.data .stderr (.inr rfl), Channel.carries_streamRecords ..,
      Channel.carries_streamRecords .., ?_⟩
    rw [(hdelivers.sends.trans hemits.sends).framesSince,
      flushed_of_unfinished (hdelivers.unfinished hcalls), hdelivers.terminators, Output.records,
      hdelivers.id]

/-- The end of STDERR is not forgotten by a flush that leaves nothing waiting, and what is written
after the last flush is not sent. -/
theorem play_delivers_warning :
    let start : Channel := .new (.new []) ⟨1⟩
    let before : List Call :=
      [.stderr (Bytes.ofString "warning\n"), .flush false, .print "body"]
    let calls := before ++ [.flush true, .print "more", .flush true]
    let records := start.framesSince ((new 4).play start calls).2
    carried .stdout records = Bytes.ofString "body" ∧
      carried .stderr records = Bytes.ofString "warning\n" ∧
      records.drop 2 = [.endOfStream .stdout 4, .endOfStream .stderr 4] ∧
      ((new 4).play start calls).1.buffered = 4 := by
  intro start before calls records
  have hready : start.Ready := ⟨Connection.reliable_new [], rfl⟩
  obtain ⟨-, -, -, hcarried, -⟩ := play_delivers hready 4 calls
  have hwritten := hcarried before true [.print "more", .flush true] rfl (by decide) (.inl rfl)
  exact ⟨hwritten .stdout (.inl rfl), hwritten .stderr (.inr rfl), by decide +kernel,
    by decide +kernel⟩

end Output

end FastCgi
