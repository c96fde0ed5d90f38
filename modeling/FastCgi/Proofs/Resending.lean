import FastCgi.Proofs.Attempts

/-!
# Output that is sent again

What an application writes is to arrive once: each of its two streams carries what was written to
it, in order, and nothing behind its end (`SentOnce`). A connection that takes only so many bytes
does not stand in the way of that, since one that has refused a byte never takes another. A flush of
the connection that fails does: the bytes before it are out, but the output does not know, and sends
them again with the next flush. `Output.sentOnce_iff` says that there is no other way to go wrong.

For the one direction, an output knows what has been sent of it as long as nothing fails
(`Output.Knows`). If the flushes of the connection succeed, then a flush of the output that fails
has used up its channel (`Output.Tracks`). Calls preserve that (`Tracks.call`), and so does a whole
run of them, by induction on the calls. For the other direction, two flushes are enough
(`framesSince_of_flushing_fails`).
-/

namespace FastCgi

/-! ## Calls -/

/-- One call of an application on its output. -/
inductive Output.Call where
  | stdout (data : Bytes)
  | stderr (data : Bytes)
  | flush (final : Bool)
deriving DecidableEq, Repr

/-- The data that a call writes to a stream. -/
def Output.Call.data (type : RecordType) : Output.Call → Bytes
  | .stdout data => if type = .stdout then data else []
  | .stderr data => if type = .stderr then data else []
  | .flush _ => []

/-- The data that some calls write to a stream. -/
def written (type : RecordType) (calls : List Output.Call) : Bytes :=
  calls.flatMap (Output.Call.data type)

/-- The data that some records carry on a stream. -/
def carried (type : RecordType) (records : List Record) : Bytes :=
  (records.filter (·.type = type)).flatMap Record.content

/-- What has been written is sent once: some records carry on each stream what was written to it
first, and nothing behind its end. -/
structure SentOnce (calls : List Output.Call) (records : List Record) : Prop where
  carried : ∀ type : RecordType, type.IsOutput → carried type records <+: written type calls
  /-- Of the records of a stream, none but the last is without data. -/
  ended : ∀ type : RecordType, type.IsOutput →
    (records.filter (·.type = type)).Pairwise fun r _ => r.content ≠ []

/-- What several calls write is what each of them writes, one after another. -/
theorem written_append (type : RecordType) (calls calls' : List Output.Call) :
    written type (calls ++ calls') = written type calls ++ written type calls' :=
  List.flatMap_append

theorem written_singleton (type : RecordType) (call : Output.Call) :
    written type [call] = call.data type := List.append_nil _

/-- What records carry on a stream is what each of them carries, one after another. -/
theorem carried_append (type : RecordType) (records records' : List Record) :
    carried type (records ++ records') = carried type records ++ carried type records' := by
  rw [carried, List.filter_append, List.flatMap_append]
  rfl

/-- Records that are not on a stream carry nothing on it. -/
theorem carried_of_unused {type : RecordType} {records : List Record} (h : Unused records type) :
    carried type records = [] := by
  rw [carried, h.filter]
  rfl

/-- The pieces of a stream carry its data. -/
theorem carried_streamRecords (type : RecordType) (id : UInt16) (data : Bytes) :
    carried type (Channel.streamRecords type id data) = data := by
  have hall : (Channel.streamRecords type id data).filter (·.type = type) =
      Channel.streamRecords type id data :=
    List.filter_eq_self.2 fun r hr => by simp [(Channel.of_mem_streamRecords hr).1]
  rw [carried, hall, Channel.content_streamRecords]

namespace SentOnce

variable {calls calls' : List Output.Call} {records front : List Record}

/-- If records are sent once, then so are the first of them. -/
theorem of_prefix (h : SentOnce calls records) (hfront : front <+: records) :
    SentOnce calls front := by
  obtain ⟨more, rfl⟩ := hfront
  constructor
  · intro type htype
    have hcarried := h.carried type htype
    rw [carried_append] at hcarried
    exact (List.prefix_append ..).trans hcarried
  · intro type htype
    have hended := h.ended type htype
    rw [List.filter_append] at hended
    exact (List.pairwise_append.1 hended).1

/-- Further calls do not change what has been sent. -/
theorem append (h : SentOnce calls records) (calls' : List Output.Call) :
    SentOnce (calls ++ calls') records := by
  refine ⟨fun type htype => ?_, h.ended⟩
  rw [written_append]
  exact (h.carried type htype).trans (List.prefix_append ..)

/-- One record without data is sent once. -/
theorem of_singleton {record : Record} (h : record.content = []) : SentOnce calls [record] := by
  constructor
  · intro type _
    have hnone : FastCgi.carried type [record] = [] := by
      refine List.flatMap_eq_nil_iff.2 fun r hr => ?_
      rw [List.mem_singleton.1 (List.mem_of_mem_filter hr), h]
    rw [hnone]
    exact List.nil_prefix
  · intro type _
    exact (List.pairwise_singleton (fun r _ => r.content ≠ []) record).filter _

/-- To send nothing is to send nothing twice. -/
theorem nil (calls : List Output.Call) : SentOnce calls [] :=
  ⟨fun _ _ => List.nil_prefix, fun _ _ => .nil⟩

end SentOnce

/-! ## What an output knows -/

namespace Output

/-- The data of a stream that waits for the next flush. -/
def waiting (output : Output) (type : RecordType) : Bytes :=
  if type = .stdout then output.stdout else output.stderr

/-- An output knows what has been sent of it: what the records of the two streams do not carry of
the data that was written is waiting, and they have been ended if the output is finished. -/
structure Knows (output : Output) (calls : List Call) (sent : List Record) : Prop where
  follows : output.Follows sent
  data : ∀ type : RecordType, type.IsOutput →
    carried type sent ++ output.waiting type = written type calls

/-- The ends of the streams carry no data. -/
theorem carried_terminators (output : Output) (type : RecordType) :
    carried type output.terminators = [] := by
  refine List.flatMap_eq_nil_iff.2 fun r hr => ?_
  have hmem := List.mem_of_mem_filter hr
  unfold terminators at hmem
  rcases List.mem_cons.1 hmem with rfl | hmem
  · rfl
  · split at hmem
    · rw [List.mem_singleton.1 hmem]
      rfl
    · cases hmem

/-- The records of an output carry what waits of each stream. -/
theorem carried_records (output : Output) {type : RecordType} (htype : type.IsOutput) :
    carried type output.records = output.waiting type := by
  have hother : ∀ {type' : RecordType} {data : Bytes}, type' ≠ type →
      carried type (Channel.streamRecords type' output.id data) = [] := by
    intro type' data hne
    refine carried_of_unused fun r hr => ?_
    rw [(Channel.of_mem_streamRecords hr).1]
    exact hne
  rw [records, carried_append]
  rcases htype with rfl | rfl
  · rw [carried_streamRecords, hother (by decide), List.append_nil]
    rfl
  · rw [carried_streamRecords, hother (by decide), List.nil_append]
    rfl

/-- A flush carries what waits, and what it does not carry goes on waiting. -/
theorem carried_flushed (output : Output) (final : Bool) {type : RecordType}
    (htype : type.IsOutput) :
    carried type (output.flushed final).1 ++ (output.flushed final).2.waiting type =
      output.waiting type := by
  have hdrained : output.drained.waiting type = [] := by
    unfold waiting
    split <;> rfl
  unfold flushed
  split
  · rfl
  cases final with
  | false =>
    rw [if_neg Bool.false_ne_true, hdrained, List.append_nil, output.carried_records htype]
  | true =>
    rw [if_pos rfl, carried_append, output.carried_terminators, output.carried_records htype,
      List.append_nil]
    exact (congrArg (output.waiting type ++ ·) hdrained).trans (List.append_nil _)

variable {output : Output} {calls : List Call} {sent : List Record}

/-- A new output knows that nothing was written and nothing sent. -/
theorem knows_new (id : UInt16) : (new id).Knows [] [] := by
  refine ⟨follows_new id, fun type _ => ?_⟩
  unfold waiting
  split <;> rfl

/-- As long as an output knows what has been sent of it, that has been sent once. -/
theorem Knows.sentOnce (h : output.Knows calls sent) : SentOnce calls sent := by
  constructor
  · intro type htype
    rw [← h.data type htype]
    exact List.prefix_append ..
  · intro type htype
    rcases h.follows.stream htype with ⟨data, hfilter, hdata⟩ | hdata
    · rw [hfilter]
      refine List.pairwise_append.2 ⟨?_, List.pairwise_singleton _ _, fun r hr _ _ => hdata r hr⟩
      exact List.pairwise_of_forall_mem_list fun r hr _ _ => hdata r hr
    · refine List.pairwise_of_forall_mem_list fun r hr _ _ => ?_
      obtain ⟨hmem, hsame⟩ := List.mem_filter.1 hr
      exact hdata r hmem (of_decide_eq_true hsame)

/-- What is written to STDOUT waits behind what waited before. -/
theorem Knows.writeStdout (h : output.Knows calls sent) (data : Bytes) :
    (output.writeStdout data).Knows (calls ++ [.stdout data]) sent := by
  refine ⟨h.follows.writeStdout data, fun type htype => ?_⟩
  have hdata := h.data type htype
  rw [written_append, written_singleton, ← hdata, List.append_assoc]
  rcases htype with rfl | rfl
  · rfl
  · exact (congrArg (carried .stderr sent ++ ·) (List.append_nil output.stderr)).symm

/-- What is written to STDERR waits behind what waited before. -/
theorem Knows.writeStderr (h : output.Knows calls sent) (data : Bytes) :
    (output.writeStderr data).Knows (calls ++ [.stderr data]) sent := by
  refine ⟨h.follows.writeStderr data, fun type htype => ?_⟩
  have hdata := h.data type htype
  rw [written_append, written_singleton, ← hdata, List.append_assoc]
  rcases htype with rfl | rfl
  · exact (congrArg (carried .stdout sent ++ ·) (List.append_nil output.stdout)).symm
  · rfl

/-- A flush that sends what it is to send leaves the output knowing it. -/
theorem Knows.flushed (h : output.Knows calls sent) (final : Bool) :
    (output.flushed final).2.Knows (calls ++ [.flush final])
      (sent ++ (output.flushed final).1) := by
  refine ⟨h.follows.flushed final, fun type htype => ?_⟩
  rw [written_append, written_singleton, ← h.data type htype, carried_append, List.append_assoc,
    output.carried_flushed final htype]
  exact (List.append_nil _).symm

/-! ## Runs of calls -/

/-- What a call leaves. That a flush fails does not keep an application from making further
calls. -/
def call (output : Output) (channel : Channel) : Call → Output × Channel
  | .stdout data => (output.writeStdout data, channel)
  | .stderr data => (output.writeStderr data, channel)
  | .flush final => (output.flush channel final).2

/-- What some calls leave. -/
def play (output : Output) (channel : Channel) : List Call → Output × Channel
  | [] => (output, channel)
  | call :: calls => (output.call channel call).1.play (output.call channel call).2 calls

/-- A call comes to actions on the channel, of which only a flush makes any. -/
theorem leads_call (output : Output) (channel : Channel) (call : Call) :
    channel.Leads (output.call channel call).2 := by
  cases call with
  | stdout | stderr => exact .refl
  | flush final => exact output.leads_flush channel final

/-- So do several calls. -/
theorem leads_play (output : Output) (channel : Channel) (calls : List Call) :
    channel.Leads (output.play channel calls).2 := by
  induction calls generalizing output channel with
  | nil => exact .refl
  | cons call calls ih => exact (output.leads_call channel call).trans (ih ..)

variable {start channel : Channel}

/-- What was tried before a call is what was tried first after it. -/
theorem exists_tried_call {records : List Record} (h : start.Tried records channel)
    (output : Output) (call : Call) :
    ∃ records, start.Tried records (output.call channel call).2 := by
  cases call with
  | stdout | stderr => exact ⟨records, h⟩
  | flush final =>
    have hattempts := output.attempts_flush h final
    rw [Output.call]
    generalize output.flush channel final = outcome at hattempts
    cases hattempts with
    | all tried | failed _ tried => exact ⟨_, tried⟩

/-- What was tried before several calls is what was tried first after them. -/
theorem exists_tried_play {records : List Record} (h : start.Tried records channel)
    (output : Output) (calls : List Call) :
    ∃ records, start.Tried records (output.play channel calls).2 := by
  induction calls generalizing output channel records with
  | nil => exact ⟨records, h⟩
  | cons call calls ih =>
    obtain ⟨_, htried⟩ := exists_tried_call h output call
    exact ih htried ..

/-- Once some calls have been made: what they have written was sent once, as far as it was tried,
and the output knows it unless the channel is spent. -/
def Tracks (start : Channel) (calls : List Call) (output : Output) (channel : Channel) : Prop :=
  ∃ records, start.Tried records channel ∧ SentOnce calls records ∧
    (channel.Spent ∨ output.Knows calls records)

/-- One step: a call that writes adds to what waits, and a flush sends it or spends the channel. -/
theorem Tracks.call (hflushing : start.connection.flushing = .succeeds)
    (h : Tracks start calls output channel) (call : Call) :
    Tracks start (calls ++ [call]) (output.call channel call).1 (output.call channel call).2 := by
  obtain ⟨records, htried, honce, hstate⟩ := h
  rcases hstate with hspent | hknows
  · have hled := output.leads_call channel call
    have htried' : start.Tried (records ++ []) (output.call channel call).2 :=
      htried.of_spent hspent hled nofun
    rw [List.append_nil] at htried'
    exact ⟨records, htried', honce.append _, .inl (hspent.leads hled).1⟩
  cases call with
  | stdout data =>
    have hknows' := hknows.writeStdout data
    exact ⟨records, htried, hknows'.sentOnce, .inr hknows'⟩
  | stderr data =>
    have hknows' := hknows.writeStderr data
    exact ⟨records, htried, hknows'.sentOnce, .inr hknows'⟩
  | flush final =>
    have hknows' := hknows.flushed final
    have hattempts := output.attempts_flush htried final
    rw [Output.call]
    generalize output.flush channel final = outcome at hattempts
    cases hattempts with
    | all tried => exact ⟨_, tried, hknows'.sentOnce, .inr hknows'⟩
    | failed front tried spent =>
      have hfront := (List.prefix_append_right_inj records).2 front
      exact ⟨_, tried, hknows'.sentOnce.of_prefix hfront, .inl (spent hflushing)⟩

/-- Many steps. -/
theorem Tracks.play (hflushing : start.connection.flushing = .succeeds)
    (h : Tracks start calls output channel) (later : List Call) :
    Tracks start (calls ++ later) (output.play channel later).1 (output.play channel later).2 := by
  induction later generalizing calls output channel with
  | nil => rwa [List.append_nil]
  | cons call later ih =>
    have hrest := ih (h.call hflushing call)
    rwa [List.append_assoc] at hrest

end Output

/-! ## Flushes that fail behind what they have sent -/

namespace Channel

variable {channel : Channel}

/-- On an open channel with enough room, a write whose flush fails has written its bytes all the
same. -/
theorem write_of_flushing_fails (hopened : channel.closed = false)
    (hflush : channel.connection.flushing ≠ .succeeds) {bytes : Bytes}
    (hroom : ¬channel.connection.Short (channel.connection.sent.size + bytes.length)) :
    ∃ e channel', channel.write bytes = (.error e, channel') ∧ channel'.closed = false ∧
      channel'.connection.sent.toList = channel.connection.sent.toList ++ bytes := by
  have hwrite := Connection.write_eq_perform channel.timeout hroom
  rw [write, if_neg (by simp [hopened]), hwrite]
  cases hbehaviour : channel.connection.flushing with
  | succeeds => exact absurd hbehaviour hflush
  | fails | stalls => exact ⟨_, _, rfl, hopened, Connection.sent_accept ..⟩

/-- In the same way, the end of a stream is sent, and said not to be. -/
theorem endStream_of_flushing_fails (hopened : channel.closed = false)
    (hflush : channel.connection.flushing ≠ .succeeds)
    (hroom : ¬channel.connection.Short (channel.connection.sent.size + 8)) (type : RecordType)
    (id : UInt16) :
    ∃ e channel', channel.endStream type id = (.error e, channel') ∧ channel'.closed = false ∧
      channel'.connection.sent.toList =
        channel.connection.sent.toList ++ (Record.endOfStream type id).encode := by
  unfold endStream sendRecord
  generalize htold : channel.tell .trace .channel _ = told
  have hconnection : told.connection = channel.connection := by rw [← htold]; rfl
  have htoldOpened : told.closed = false := by rw [← htold]; exact hopened
  rw [← hconnection] at hflush hroom ⊢
  obtain ⟨e, channel', hwrite, hopened', hsent⟩ :=
    @write_of_flushing_fails told htoldOpened hflush (Record.endOfStream type id).encode hroom
  rw [hwrite]
  exact ⟨e, channel', rfl, hopened', hsent⟩

end Channel

namespace Output

/-- Where flushing fails, the first flush of an output that is to end its streams ends STDOUT, and
the output does not know. -/
theorem flush_of_flushing_fails {channel : Channel} (hopened : channel.closed = false)
    (hflush : channel.connection.flushing ≠ .succeeds)
    (hroom : ¬channel.connection.Short (channel.connection.sent.size + 8)) (id : UInt16) :
    ∃ e channel', (new id).flush channel true = (.error e, new id, channel') ∧
      channel'.closed = false ∧
      channel'.connection.sent.toList =
        channel.connection.sent.toList ++ (Record.endOfStream .stdout id).encode := by
  obtain ⟨e, channel', hend, hopened', hsent⟩ :=
    Channel.endStream_of_flushing_fails hopened hflush hroom .stdout id
  have hfinish : (new id).flush channel true = (new id).finish channel := rfl
  have hid : (new id).id = id := rfl
  refine ⟨e, channel', ?_, hopened', hsent⟩
  rw [hfinish, finish, hid, hend]
  rfl

/-- Where flushing fails and there is room for two records without data, two flushes send two of
them. -/
theorem framesSince_of_flushing_fails {start : Channel} (hopened : start.closed = false)
    (hflush : start.connection.flushing ≠ .succeeds)
    (hroom : ¬start.connection.Short (start.connection.sent.size + 16)) (id : UInt16) :
    start.framesSince ((new id).play start [.flush true, .flush true]).2 =
      [.endOfStream .stdout id, .endOfStream .stdout id] := by
  have hroom₁ : ¬start.connection.Short (start.connection.sent.size + 8) :=
    fun hshort => hroom (hshort.mono (by omega))
  obtain ⟨e₁, between, hfirst, hopened₁, hsent₁⟩ :=
    flush_of_flushing_fails hopened hflush hroom₁ id
  have hled := (new id).leads_flush start true
  rw [hfirst] at hled
  have hsize : between.connection.sent.size = start.connection.sent.size + 8 := by
    have hlength := congrArg List.length hsent₁
    rw [List.length_append, Array.length_toList, Array.length_toList] at hlength
    exact hlength
  have hflush₂ : between.connection.flushing ≠ .succeeds := by
    rw [hled.grows.flushing]
    exact hflush
  have hroom₂ : ¬between.connection.Short (between.connection.sent.size + 8) := by
    rw [hled.grows.short, hsize]
    exact hroom
  obtain ⟨e₂, channel, hsecond, -, hsent₂⟩ := flush_of_flushing_fails hopened₁ hflush₂ hroom₂ id
  have hplay : ((new id).play start [.flush true, .flush true]).2 = channel := by
    simp only [play, call, hfirst, hsecond]
  have hwire : channel.connection.sent.toList = start.connection.sent.toList ++
      Record.encodeAll [.endOfStream .stdout id, .endOfStream .stdout id] := by
    rw [hsent₂, hsent₁, List.append_assoc]
    rfl
  have hstdout : RecordType.stdout.Readable := trivial
  rw [hplay, Channel.framesSince_eq hwire, Record.decodeAll_encodeAll]
  intro r hr
  obtain rfl : r = .endOfStream .stdout id := by simpa using hr
  exact Record.wellFormed_endOfStream hstdout id

/-- **When output is sent once.** Whatever an application writes and however often it flushes, also
after a flush has failed, its output is sent once: if and only if the channel is closed, or every
flush of its connection succeeds, or there is not even room for the ends of two streams. So it does
not matter after how many bytes a connection gives out, but it does whether a flush can fail behind
bytes that are out. -/
theorem sentOnce_iff (start : Channel) (id : UInt16) :
    (∀ calls, SentOnce calls (start.framesSince ((new id).play start calls).2)) ↔
      start.closed = true ∨ start.connection.flushing = .succeeds ∨
        start.connection.Short (start.connection.sent.size + 16) := by
  constructor
  · intro honce
    refine Classical.byContradiction fun hbad => ?_
    rw [not_or, not_or] at hbad
    obtain ⟨hopened, hflush, hroom⟩ := hbad
    have hended := (honce [.flush true, .flush true]).ended .stdout (.inl rfl)
    rw [framesSince_of_flushing_fails (Bool.not_eq_true _ ▸ hopened) hflush hroom] at hended
    exact (List.pairwise_cons.1 hended).1 _ (.head _) rfl
  · rintro (hclosed | hflushing | hshort) calls
    · rw [Channel.framesSince_of_spent (.inl hclosed) (leads_play ..)]
      exact .nil calls
    · have hstart : Tracks start [] (new id) start :=
        ⟨[], .refl start, .nil [], .inr (knows_new id)⟩
      obtain ⟨records, htried, honce, -⟩ := hstart.play hflushing calls
      exact honce.of_prefix htried.framesSince.1
    · obtain ⟨records, htried⟩ := exists_tried_play (.refl start) (new id) calls
      rcases htried.framesSince_of_short hshort with hnone | ⟨record, hone, hempty⟩
      · rw [hnone]
        exact .nil calls
      · rw [hone]
        exact .of_singleton hempty

/-- Two bytes that are flushed twice over a connection that cannot be flushed are sent twice. -/
theorem resends_unflushed :
    let start : Channel := .new { Connection.new [] with flushing := .fails "reset" } ⟨1⟩
    let calls : List Call := [.stdout [97, 98], .flush false, .flush false]
    let frames := start.framesSince ((new 4).play start calls).2
    let record : Record := ⟨version1, .stdout, 4, [97, 98], 6⟩
    frames = [record, record] ∧ ¬SentOnce calls frames := by
  intro start calls frames record
  have hframes : frames = [record, record] := by decide +kernel
  refine ⟨hframes, fun honce => ?_⟩
  have hcarried := honce.carried .stdout (.inl rfl)
  rw [hframes] at hcarried
  exact absurd hcarried.length_le (by decide)

end Output

end FastCgi
