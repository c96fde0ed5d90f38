import FastCgi.Proofs.Flushes
import FastCgi.Proofs.Reception

/-!
# The list of open streams mirrors the wire

What is open can be said of records alone: a stream is unended if there is one with data for it and
none behind that ends it (`Unended`), and it begins at the first of those with data (`BeginsAt`).
The list that a channel keeps says the same in fewer words. `Mirrors` is that relation between
records and a list, and one more record preserves it (`Mirrors.after`). All that is done to the
streams of a channel which stays open is to send records that its list takes into account
(`emits_perform`), so the list mirrors the wire at all times, and what is sent to end the streams of
one request can be read off it (`performAll_mirrors`).
-/

namespace FastCgi

/-! ## Streams as records show them -/

/-- A record with data for a stream. -/
def Record.Feeds (record : Record) (s : RecordType × UInt16) : Prop :=
  (record.type, record.id) = s ∧ record.content ≠ []

/-- The record that ends a stream. -/
def Record.Ends (record : Record) (s : RecordType × UInt16) : Prop :=
  (record.type, record.id) = s ∧ record.content = []

/-- One of some records has data for a stream, and none behind it ends the stream. -/
def Unended (records : List Record) (s : RecordType × UInt16) : Prop :=
  ∃ before record after, records = before ++ record :: after ∧ record.Feeds s ∧
    ∀ r ∈ after, ¬r.Ends s

/-- A stream that has not been ended begins with the record at some place: that one has data for it,
and in front of it there is none with data that has not been ended. -/
def BeginsAt (records : List Record) (s : RecordType × UInt16) (place : Nat) : Prop :=
  ∃ before record after, records = before ++ record :: after ∧ before.length = place ∧
    record.Feeds s ∧ ¬Unended before s ∧ ∀ r ∈ after, ¬r.Ends s

/-- Of two streams that have not been ended, the one begins in front of the other. -/
def BeginsBefore (records : List Record) (s s' : RecordType × UInt16) : Prop :=
  ∃ place place', BeginsAt records s place ∧ BeginsAt records s' place' ∧ place < place'

section

variable {records : List Record} {record : Record} {s s' : RecordType × UInt16}
  {place place' : Nat}

/-- Without records there is no stream to be unended. -/
theorem not_unended_nil (s : RecordType × UInt16) : ¬Unended [] s := by
  rintro ⟨before, record, after, hsplit, -⟩
  simp at hsplit

/-- A further record leaves a stream unended if it has data for it, or if the stream was so before
and the record does not end it. -/
theorem unended_append_singleton :
    Unended (records ++ [record]) s ↔ record.Feeds s ∨ Unended records s ∧ ¬record.Ends s := by
  constructor
  · rintro ⟨before, first, after, hsplit, hfeeds, hafter⟩
    rcases List.eq_nil_or_concat after with rfl | ⟨init, last, rfl⟩
    · obtain ⟨-, hlast⟩ := List.append_inj' hsplit rfl
      obtain rfl := List.singleton_inj.1 hlast
      exact .inl hfeeds
    · have hsplit' : records ++ [record] = (before ++ first :: init) ++ [last] := by
        simpa using hsplit
      obtain ⟨rfl, hlast⟩ := List.append_inj' hsplit' rfl
      obtain rfl := List.singleton_inj.1 hlast
      exact .inr ⟨⟨before, first, init, rfl, hfeeds, fun r hr => hafter r (by simp [hr])⟩,
        hafter record (by simp)⟩
  · rintro (hfeeds | ⟨⟨before, first, after, rfl, hfeeds, hafter⟩, hends⟩)
    · exact ⟨records, record, [], rfl, hfeeds, nofun⟩
    · refine ⟨before, first, after ++ [record], by simp, hfeeds, fun r hr => ?_⟩
      rcases List.mem_append.1 hr with hr | hr
      · exact hafter r hr
      · rwa [List.mem_singleton.1 hr]

/-- The last record does not end a stream that is left unended. -/
theorem Unended.not_ends (h : Unended (records ++ [record]) s) : ¬record.Ends s := by
  intro hends
  rcases unended_append_singleton.1 h with hfeeds | ⟨-, hnot⟩
  · exact hfeeds.2 hends.2
  · exact hnot hends

/-- A record that does not end a stream leaves its beginning where it is. -/
theorem BeginsAt.append (h : BeginsAt records s place) (hends : ¬record.Ends s) :
    BeginsAt (records ++ [record]) s place := by
  obtain ⟨before, first, after, rfl, hplace, hfeeds, hbefore, hafter⟩ := h
  refine ⟨before, first, after ++ [record], by simp, hplace, hfeeds, hbefore, fun r hr => ?_⟩
  rcases List.mem_append.1 hr with hr | hr
  · exact hafter r hr
  · rwa [List.mem_singleton.1 hr]

/-- A stream that was ended, or never begun, begins with the record that has data for it. -/
theorem beginsAt_length (hfeeds : record.Feeds s) (hnone : ¬Unended records s) :
    BeginsAt (records ++ [record]) s records.length :=
  ⟨records, record, [], rfl, rfl, hfeeds, hnone, nofun⟩

/-- A stream that has not been ended has begun somewhere. -/
theorem Unended.exists_beginsAt (h : Unended records s) : ∃ place, BeginsAt records s place := by
  induction records using List.reverseRecOn with
  | nil => exact absurd h (not_unended_nil s)
  | append_singleton records record ih =>
    by_cases hbefore : Unended records s
    · obtain ⟨place, hplace⟩ := ih hbefore
      exact ⟨place, hplace.append h.not_ends⟩
    · have hfeeds := (unended_append_singleton.1 h).resolve_right fun h => hbefore h.1
      exact ⟨_, beginsAt_length hfeeds hbefore⟩

/-- A stream begins at the place of a record. -/
theorem BeginsAt.lt_length (h : BeginsAt records s place) : place < records.length := by
  obtain ⟨before, first, after, rfl, rfl, -⟩ := h
  simp

/-- A stream does not begin twice. -/
theorem BeginsAt.le (h : BeginsAt records s place) (h' : BeginsAt records s place') :
    place' ≤ place := by
  obtain ⟨before, first, after, rfl, rfl, hfeeds, -, hafter⟩ := h
  obtain ⟨before', first', after', hsplit, rfl, -, hbefore', -⟩ := h'
  refine Nat.le_of_not_lt fun hlt => hbefore' ?_
  -- If it began again further on, then it would be unended there because of the first beginning.
  obtain ⟨rest, rfl⟩ : before ++ [first] <+: before' := by
    refine List.prefix_of_prefix_length_le ⟨after, List.append_assoc ..⟩
      ⟨first' :: after', hsplit.symm⟩ ?_
    simpa using Nat.succ_le_of_lt hlt
  refine ⟨before, first, rest, by simp, hfeeds, fun r hr => hafter r ?_⟩
  have hmem : first :: after = first :: (rest ++ first' :: after') := by
    simpa using hsplit
  rw [(List.cons.inj hmem).2]
  exact List.mem_append_left _ hr

/-- No stream begins in front of itself, as none begins twice. -/
theorem not_beginsBefore_self (s : RecordType × UInt16) : ¬BeginsBefore records s s := by
  rintro ⟨place, place', h, h', hlt⟩
  exact Nat.not_le_of_lt hlt (h.le h')

end

namespace Channel

/-! ## The list -/

/-- A list of streams says what some records leave unended: exactly these streams, in the order in
which they begin. The records that end requests are on no stream. -/
structure Mirrors (records : List Record) (streams : List (RecordType × UInt16)) : Prop where
  mem : ∀ s, s ∈ streams ↔ s.1 ≠ .endRequest ∧ Unended records s
  order : streams.Pairwise (BeginsBefore records)

/-- Without records no stream is listed. -/
theorem mirrors_nil : Mirrors [] [] := by
  refine ⟨fun s => ?_, .nil⟩
  simp [not_unended_nil]

section

variable {records : List Record} {streams : List (RecordType × UInt16)}

/-- Which streams are open once another record has been sent. -/
theorem mem_openAfter_iff {s : RecordType × UInt16} (htype : s.1 ≠ .endRequest) (record : Record) :
    s ∈ openAfter streams record ↔ record.Feeds s ∨ s ∈ streams ∧ ¬record.Ends s := by
  by_cases hsame : (record.type, record.id) = s
  · subst hsame
    rw [mem_openAfter_self htype]
    by_cases hdata : record.content = [] <;> simp [Record.Feeds, Record.Ends, hdata]
  · rw [mem_openAfter_of_ne (Ne.symm hsame)]
    simp [Record.Feeds, Record.Ends, hsame]

/-- A record leaves no more streams open than there were, or opens a further one. -/
theorem openAfter_cases (streams : List (RecordType × UInt16)) (record : Record) :
    (openAfter streams record).Sublist streams ∨
      record.Feeds (record.type, record.id) ∧ (record.type, record.id) ∉ streams ∧
        openAfter streams record = streams ++ [(record.type, record.id)] := by
  unfold openAfter
  split
  · exact .inl (.refl _)
  split
  · exact .inl List.filter_sublist
  next hempty =>
    unfold opened
    split
    · exact .inl (.refl _)
    next hnew => exact .inr ⟨⟨rfl, fun hnil => hempty (List.isEmpty_iff.2 hnil)⟩, hnew, rfl⟩

/-- One more record, and the list still says what is unended. -/
theorem Mirrors.after (h : Mirrors records streams) (record : Record) :
    Mirrors (records ++ [record]) (openAfter streams record) := by
  have hmem (s : RecordType × UInt16) : s ∈ openAfter streams record ↔
      s.1 ≠ .endRequest ∧ Unended (records ++ [record]) s := by
    by_cases htype : s.1 = .endRequest
    · have hnot : s ∉ streams := fun hs => ((h.mem s).1 hs).1 htype
      refine ⟨fun hs => absurd ?_ hnot, fun hs => absurd htype hs.1⟩
      by_cases hend : record.type = .endRequest
      · rwa [openAfter, if_pos hend] at hs
      · refine (mem_openAfter_of_ne fun hsame => hend ?_).1 hs
        rw [← htype, hsame]
    · rw [mem_openAfter_iff htype, unended_append_singleton, h.mem]
      simp [htype]
  have hends : ∀ s ∈ openAfter streams record, ¬record.Ends s := by
    intro s hs
    exact ((hmem s).1 hs).2.not_ends
  -- The streams that stay open begin where they did.
  have hkept {kept : List (RecordType × UInt16)} (hsub : kept.Sublist streams)
      (hkept : ∀ s ∈ kept, ¬record.Ends s) :
      kept.Pairwise (BeginsBefore (records ++ [record])) := by
    refine (h.order.sublist hsub).imp_of_mem fun {s s'} hs hs' hbefore => ?_
    obtain ⟨place, place', hplace, hplace', hlt⟩ := hbefore
    exact ⟨place, place', hplace.append (hkept s hs), hplace'.append (hkept s' hs'), hlt⟩
  refine ⟨hmem, ?_⟩
  rcases openAfter_cases streams record with hsub | ⟨hfeeds, hnew, heq⟩
  · exact hkept hsub hends
  · rw [heq] at hmem hends ⊢
    have hnone : ¬Unended records (record.type, record.id) := fun hunended =>
      hnew ((h.mem _).2 ⟨((hmem _).1 (List.mem_append_right _ (.head _))).1, hunended⟩)
    refine List.pairwise_append.2
      ⟨hkept (.refl _) fun s hs => hends s (List.mem_append_left _ hs),
        List.pairwise_singleton .., fun s hs s' hs' => ?_⟩
    obtain rfl := List.mem_singleton.1 hs'
    obtain ⟨place, hplace⟩ := ((h.mem s).1 hs).2.exists_beginsAt
    exact ⟨place, records.length, hplace.append (hends s (List.mem_append_left _ hs)),
      beginsAt_length hfeeds hnone, hplace.lt_length⟩

/-- The list that is kept of some records says what they leave unended. -/
theorem mirrors_openAll (records : List Record) : Mirrors records (openAll [] records) := by
  induction records using List.reverseRecOn with
  | nil => exact mirrors_nil
  | append_singleton records record ih =>
    have hlast : openAll [] (records ++ [record]) = openAfter (openAll [] records) record :=
      openAll_append ..
    rw [hlast]
    exact ih.after record

/-- No stream is listed twice, as none begins twice. -/
theorem Mirrors.nodup (h : Mirrors records streams) : streams.Nodup := by
  refine List.Pairwise.imp ?_ h.order
  rintro s s' hbefore rfl
  exact not_beginsBefore_self s hbefore

end

/-! ## What is done to streams -/

/-- Sending that is done to streams, or that ends a request for which the connection is kept. -/
def Sending.OnStreams : Sending → Prop
  | .stream type _ _ | .endStream type _ => type.IsStream
  | .endOpenStreams _ | .endRequest _ _ _ => True
  | .content _ _ _ | .record _ => False

/-- Sends one thing after another, whether that succeeds or not. -/
def performAll (channel : Channel) (sendings : List Sending) : Channel :=
  sendings.foldl (fun channel sending => (channel.perform sending).2) channel

/-- Records that end one stream after another leave the others open. -/
theorem openAll_endings (streams : List (RecordType × UInt16)) {ended : List (RecordType × UInt16)}
    (hended : ∀ s ∈ ended, s.1 ≠ .endRequest) :
    openAll streams (ended.map fun s => .endOfStream s.1 s.2) = streams.filter (· ∉ ended) := by
  induction ended generalizing streams with
  | nil => simp [openAll]
  | cons s ended ih =>
    have hfirst : openAfter streams (.endOfStream s.1 s.2) = streams.filter (· ≠ s) :=
      openAfter_endOfStream (hended s (.head _)) s.2
    have hrest := ih (openAfter streams (.endOfStream s.1 s.2)) fun t ht => hended t (.tail _ ht)
    rw [List.map_cons, openAll, List.foldl_cons]
    refine hrest.trans ?_
    rw [hfirst, List.filter_filter]
    refine List.filter_congr fun t _ => ?_
    simp [not_or, Bool.and_comm]

/-- Ending the streams of one request leaves those of the others open. -/
theorem openAll_endings_of_id {streams : List (RecordType × UInt16)}
    (hstreams : ∀ s ∈ streams, s.1 ≠ .endRequest) (id : UInt16) :
    openAll streams (endings streams id) = streams.filter (·.2 ≠ id) := by
  have hendings : endings streams id =
      (streams.filter (·.2 = id)).map fun s => .endOfStream s.1 s.2 :=
    List.map_congr_left fun s hs => by rw [of_decide_eq_true (List.mem_filter.1 hs).2]
  rw [hendings, openAll_endings streams fun s hs => hstreams s (List.mem_filter.1 hs).1]
  refine List.filter_congr fun s hs => ?_
  simp [hs]

/-- Nothing but streams is listed as open. -/
def StreamsOnly (channel : Channel) : Prop := ∀ s ∈ channel.openStreams, s.1.IsStream

/-- Sending lists nothing but streams. -/
theorem Emits.streamsOnly {channel channel' : Channel} {records : List Record}
    (h : channel.Emits records channel') (honly : channel.StreamsOnly) : channel'.StreamsOnly := by
  intro s hs
  rcases h.of_mem_openStreams hs with hopen | ⟨record, hrecord, rfl, htype⟩
  · exact honly s hopen
  · exact ⟨(h.sends.wellFormed record hrecord).type, htype⟩

section

variable {channel : Channel}

/-- One step: it succeeds, and all it does to the list is to take into account what it sends. -/
theorem emits_perform (hready : channel.Ready) (honly : channel.StreamsOnly) {sending : Sending}
    (hsending : sending.OnStreams) :
    ∃ records channel', channel.perform sending = (.ok (), channel') ∧
      channel.Emits records channel' := by
  cases sending with
  | content | record => exact hsending.elim
  | stream type id data => exact ⟨_, emits_sendStream hready hsending id data⟩
  | endStream type id => exact ⟨_, emits_endStream hready hsending id⟩
  | endOpenStreams id => exact ⟨_, emits_endOpenStreams hready honly id⟩
  | endRequest id status exitCode => exact ⟨_, emits_sendEnd hready id ⟨status, exitCode⟩ true⟩

/-- Many steps. -/
theorem emits_performAll (hready : channel.Ready) (honly : channel.StreamsOnly)
    {sendings : List Sending} (hsendings : ∀ sending ∈ sendings, sending.OnStreams) :
    ∃ records, channel.Emits records (channel.performAll sendings) := by
  induction sendings generalizing channel with
  | nil => exact ⟨[], .refl _⟩
  | cons sending sendings ih =>
    obtain ⟨first, between, hperform, hemits⟩ :=
      emits_perform hready honly (hsendings sending (.head _))
    obtain ⟨later, hlater⟩ := ih (hemits.ready hready) (hemits.streamsOnly honly)
      fun sending hsending => hsendings sending (.tail _ hsending)
    refine ⟨first ++ later, ?_⟩
    rw [performAll, List.foldl_cons, hperform]
    exact hemits.trans hlater

/-- What it takes to end the streams of a request: a record for each one that is open, after which
there is nothing more to end. -/
theorem endOpenStreams_once (hready : channel.Ready) (honly : channel.StreamsOnly) (id : UInt16) :
    ∃ channel', channel.endOpenStreams id = (.ok (), channel') ∧
      channel.Sends (endings channel.openStreams id) channel' ∧
      channel'.openStreams = channel.openStreams.filter (·.2 ≠ id) ∧
      channel'.endOpenStreams id = (.ok (), channel') := by
  obtain ⟨channel', hend, hemits⟩ := emits_endOpenStreams hready honly id
  have hstreams : channel'.openStreams = channel.openStreams.filter (·.2 ≠ id) := by
    rw [hemits.openStreams]
    exact openAll_endings_of_id (fun s hs => (honly s hs).ne_endRequest) id
  have hnone : channel'.openStreams.filter (·.2 = id) = [] := by
    rw [hstreams, List.filter_filter]
    simp
  refine ⟨channel', hend, hemits.sends, hstreams, ?_⟩
  rw [endOpenStreams, hnone]
  rfl

end

/-- **The list of open streams mirrors the wire.** Whatever streams are fed and ended, in whatever
order and for whatever requests, over a channel that takes all that is sent:
- A stream is listed exactly if some record on the wire has data for it and none behind that ends
  it. None is listed twice, and they are listed in the order in which they begin.
- Ending the streams of a request sends one record for each of them that is listed, in that order,
  and leaves the others as they are. Doing it again sends nothing. -/
theorem performAll_mirrors {start : Channel} (hready : start.Ready) (hnone : start.openStreams = [])
    {sendings : List Sending} (hsendings : ∀ sending ∈ sendings, sending.OnStreams) :
    let channel := start.performAll sendings
    let records := start.framesSince channel
    channel.connection.sent.toList = start.connection.sent.toList ++ Record.encodeAll records ∧
    channel.openStreams.Nodup ∧
    (∀ s, s ∈ channel.openStreams ↔ s.1 ≠ .endRequest ∧ Unended records s) ∧
    channel.openStreams.Pairwise (BeginsBefore records) ∧
    (∀ sending : Sending, sending.OnStreams → (channel.perform sending).1 = .ok ()) ∧
    ∀ id, ∃ channel', channel.endOpenStreams id = (.ok (), channel') ∧
      channel'.connection.sent.toList = channel.connection.sent.toList ++
        Record.encodeAll ((channel.openStreams.filter (·.2 = id)).map fun s =>
          .endOfStream s.1 id) ∧
      channel'.openStreams = channel.openStreams.filter (·.2 ≠ id) ∧
      channel'.endOpenStreams id = (.ok (), channel') := by
  intro channel records
  have honly : start.StreamsOnly := fun s hs => by
    rw [hnone] at hs
    cases hs
  obtain ⟨sent, hemits⟩ := emits_performAll hready honly hsendings
  obtain rfl : records = sent := hemits.sends.framesSince
  have hmirrors : Mirrors records channel.openStreams := by
    rw [hemits.openStreams, hnone]
    exact mirrors_openAll records
  refine ⟨hemits.sends.sent, hmirrors.nodup, hmirrors.mem, hmirrors.order,
    fun sending hsending => ?_, fun id => ?_⟩
  · obtain ⟨_, _, hperform, -⟩ :=
      emits_perform (hemits.ready hready) (hemits.streamsOnly honly) hsending
    rw [hperform]
  · obtain ⟨channel', hend, hsends, hrest⟩ :=
      endOpenStreams_once (hemits.ready hready) (hemits.streamsOnly honly) id
    exact ⟨channel', hend, hsends.sent, hrest⟩

/-- A stream that was ended and begun again is listed behind those begun meanwhile. -/
theorem performAll_mirrors_interleaved :
    let start : Channel := .new (.new []) ⟨1⟩
    let sendings : List Sending :=
      [.stream .stderr 1 [1], .stream .stdout 1 [2], .endStream .stderr 1, .stream .stdout 2 [3],
        .stream .stdout 2 [], .stream .stdout 1 [4], .endRequest 3 .requestComplete 0,
        .stream .stderr 1 [5]]
    let channel := start.performAll sendings
    let records := start.framesSince channel
    channel.openStreams = [(.stdout, 1), (.stdout, 2), (.stderr, 1)] ∧
      Unended records (.stderr, 1) ∧ ¬Unended records (.stderr, 2) ∧
      BeginsBefore records (.stdout, 2) (.stderr, 1) ∧
      ∃ channel', channel.endOpenStreams 1 = (.ok (), channel') ∧
        channel'.connection.sent.toList = channel.connection.sent.toList ++
          Record.encodeAll [.endOfStream .stdout 1, .endOfStream .stderr 1] ∧
        channel'.openStreams = [(.stdout, 2)] := by
  intro start sendings channel records
  have hready : start.Ready := ⟨Connection.reliable_new [], rfl⟩
  have hsendings : ∀ sending ∈ sendings, sending.OnStreams := by
    simp [sendings, Sending.OnStreams, RecordType.IsStream.stdout, RecordType.IsStream.stderr]
  have hstreams : channel.openStreams = [(.stdout, 1), (.stdout, 2), (.stderr, 1)] := by
    decide +kernel
  obtain ⟨-, -, hmem, horder, -, hend⟩ := performAll_mirrors hready rfl hsendings
  obtain ⟨channel', hend, hsent, hrest, -⟩ := hend 1
  rw [hstreams] at hmem horder hsent hrest
  refine ⟨hstreams, ((hmem _).1 (by decide)).2, fun hunended => ?_, ?_, channel', hend, hsent,
    hrest⟩
  · exact absurd ((hmem (.stderr, 2)).2 ⟨by decide, hunended⟩) (by decide)
  · exact (List.pairwise_cons.1 (List.pairwise_cons.1 horder).2).1 _ (.head _)

end Channel

end FastCgi
