import FastCgi.Proofs.Answering
import FastCgi.Proofs.Intake
import FastCgi.Proofs.Moves

/-!
# The ends of output streams

No output stream of a request is left dangling: on each of the two on which something was sent, one
record without content ends it, behind all its data and in front of the record that ends the
request. It may be sent by the last flush, by a last flush that an application makes early and then
writes on, or by the server on behalf of an application that broke down. `Output.Follows` is what
holds of an output and of what has been sent of it at any point; a flush preserves it
(`Output.Follows.flushed`), and so does a whole program, by induction on the program
(`Output.Follows.account`).
-/

namespace FastCgi

/-! ## Streams that have been ended -/

/-- Some records hold the data of a stream, and behind it the one record that ends it. -/
def Terminated (records : List Record) (type : RecordType) (id : UInt16) : Prop :=
  ∃ data, records.filter (·.type = type) = data ++ [.endOfStream type id] ∧
    ∀ r ∈ data, r.content ≠ []

/-- All that some records say on a stream is data. -/
def DataOnly (records : List Record) (type : RecordType) : Prop :=
  ∀ r ∈ records, r.type = type → r.content ≠ []

/-- None of some records is on a stream. -/
def Unused (records : List Record) (type : RecordType) : Prop := ∀ r ∈ records, r.type ≠ type

section

variable {records more : List Record} {type : RecordType} {id : UInt16}

/-- Of records that are not on a stream, none is left when the others are passed over. -/
theorem Unused.filter (h : Unused records type) : records.filter (·.type = type) = [] :=
  List.filter_eq_nil_iff.2 fun r hr => by simpa using h r hr

/-- Records of which none is on a stream do not use it. -/
theorem unused_of_filter (h : records.filter (·.type = type) = []) : Unused records type := by
  intro r hr hsame
  exact List.filter_eq_nil_iff.1 h r hr (decide_eq_true hsame)

/-- A stream that is not used by some records, nor by others, is not used by all of them. -/
theorem Unused.append (h : Unused records type) (h' : Unused more type) :
    Unused (records ++ more) type := by
  intro r hr
  rcases List.mem_append.1 hr with hr | hr
  · exact h r hr
  · exact h' r hr

/-- Data alone, and then the end of a stream, has it terminated. -/
theorem DataOnly.terminated (h : DataOnly records type)
    (hend : more.filter (·.type = type) = [.endOfStream type id]) :
    Terminated (records ++ more) type id := by
  refine ⟨records.filter (·.type = type), ?_, ?_⟩
  · rw [List.filter_append, hend]
  · intro r hr
    obtain ⟨hmem, htype⟩ := List.mem_filter.1 hr
    exact h r hmem (of_decide_eq_true htype)

/-- A stream that is terminated stays so as long as nothing more is sent on it. -/
theorem Terminated.append (h : Terminated records type id) (hmore : Unused more type) :
    Terminated (records ++ more) type id := by
  obtain ⟨data, hfilter, hdata⟩ := h
  refine ⟨data, ?_, hdata⟩
  rw [List.filter_append, hmore.filter, List.append_nil, hfilter]

/-- Of records that all have one id, those on one of its streams are those of one type. -/
theorem filter_of_id (hids : ∀ r ∈ records, r.id = id) (type : RecordType) :
    (records.filter fun r => r.type = type ∧ r.id = id) = records.filter (·.type = type) := by
  refine List.filter_congr fun r hr => ?_
  simp [hids r hr]

/-- A stream that is terminated is not open. -/
theorem Terminated.not_mem_openAll (h : Terminated records type id)
    (hids : ∀ r ∈ records, r.id = id) (htype : type ≠ .endRequest)
    (streams : List (RecordType × UInt16)) : (type, id) ∉ Channel.openAll streams records := by
  obtain ⟨data, hfilter, -⟩ := h
  rw [Channel.mem_openAll_iff htype, filter_of_id hids, hfilter]
  simp [Record.endOfStream]

/-- A stream is open if some records were sent on it, and all that they say is data. -/
theorem DataOnly.mem_openAll (h : DataOnly records type) (hids : ∀ r ∈ records, r.id = id)
    (htype : type ≠ .endRequest) (streams : List (RecordType × UInt16)) {record : Record}
    (hrecord : record ∈ records) (hsame : record.type = type) :
    (type, id) ∈ Channel.openAll streams records := by
  rw [Channel.mem_openAll_iff htype, filter_of_id hids]
  cases hlast : (records.filter (·.type = type)).getLast? with
  | none =>
    have hnone := List.filter_eq_nil_iff.1 (List.getLast?_eq_none_iff.1 hlast) record hrecord
    exact absurd (decide_eq_true hsame) hnone
  | some last =>
    obtain ⟨hmem, htype⟩ := List.mem_filter.1 (List.mem_of_getLast? hlast)
    exact h last hmem (of_decide_eq_true htype)

end

/-! ## What has been sent of an output -/

/-- Both streams of a request have been ended, STDERR only if it was ever used. -/
structure Ended (sent : List Record) (id : UInt16) : Prop where
  stdout : Terminated sent .stdout id
  stderr : Terminated sent .stderr id ∨ Unused sent .stderr

/-- Nothing but data has been sent of an output, on STDERR only if anything was written to it. -/
structure Output.Writing (output : Output) (sent : List Record) : Prop where
  finished : output.finished = false
  data : ∀ r ∈ sent, r.content ≠ []
  unused : output.stderrUsed = false → output.stderr = [] ∧ Unused sent .stderr

/-- What holds of an output and of the records that have been sent of it. -/
def Output.Follows (output : Output) (sent : List Record) : Prop :=
  output.Writing sent ∨ output.finished = true ∧ Ended sent output.id

namespace Output

/-- A new output of which nothing was sent. -/
theorem follows_new (id : UInt16) : (new id).Follows [] :=
  .inl ⟨rfl, nofun, fun _ => ⟨rfl, nofun⟩⟩

/-- No record of data is empty, which would end its stream. -/
theorem of_mem_records {output : Output} {record : Record} (h : record ∈ output.records) :
    record.content ≠ [] := by
  rcases List.mem_append.1 h with h | h
  · exact (Channel.of_mem_streamRecords h).2.2
  · exact (Channel.of_mem_streamRecords h).2.2

/-- STDOUT is ended once by the last flush. -/
theorem filter_terminators_stdout (output : Output) :
    output.terminators.filter (·.type = .stdout) = [.endOfStream .stdout output.id] := by
  unfold terminators
  split <;> rfl

/-- STDERR is ended once by the last flush, if it was ever used. -/
theorem filter_terminators_stderr {output : Output} (hused : output.stderrUsed = true) :
    output.terminators.filter (·.type = .stderr) = [.endOfStream .stderr output.id] := by
  rw [terminators, if_pos hused]
  rfl

/-- A stream to which nothing was written is not mentioned in a flush. -/
theorem unused_records {output : Output} (h : output.stderr = []) :
    Unused output.records .stderr := by
  intro r hr
  rw [records, h, Channel.streamRecords_nil, List.append_nil] at hr
  rw [(Channel.of_mem_streamRecords hr).1]
  decide

variable {output : Output} {sent : List Record}

/-- To write to STDOUT sends nothing. -/
theorem Follows.writeStdout (h : output.Follows sent) (data : Bytes) :
    (output.writeStdout data).Follows sent := by
  rcases h with hwriting | hended
  · exact .inl ⟨hwriting.finished, hwriting.data, hwriting.unused⟩
  · exact .inr hended

/-- To write to STDERR sends nothing, and notes that it is used. -/
theorem Follows.writeStderr (h : output.Follows sent) (data : Bytes) :
    (output.writeStderr data).Follows sent := by
  rcases h with hwriting | hended
  · refine .inl ⟨hwriting.finished, hwriting.data, ?_⟩
    intro hunused
    obtain ⟨hbefore, hempty⟩ : output.stderrUsed = false ∧ (!data.isEmpty) = false :=
      Bool.or_eq_false_iff.1 hunused
    obtain ⟨hnone, hsent⟩ := hwriting.unused hbefore
    refine ⟨?_, hsent⟩
    have hnil : data = [] := by simpa using hempty
    rw [Output.writeStderr, hnone, hnil]
    rfl
  · exact .inr hended

/-- The last flush of an output ends its streams. -/
theorem Writing.ended (h : output.Writing sent) :
    Ended (sent ++ (output.records ++ output.terminators)) output.id := by
  have hdata : ∀ r ∈ sent ++ output.records, r.content ≠ [] := by
    intro r hr
    rcases List.mem_append.1 hr with hr | hr
    · exact h.data r hr
    · exact of_mem_records hr
  rw [← List.append_assoc]
  have hstdout : DataOnly (sent ++ output.records) .stdout := fun r hr _ => hdata r hr
  have hstderr : DataOnly (sent ++ output.records) .stderr := fun r hr _ => hdata r hr
  refine ⟨hstdout.terminated output.filter_terminators_stdout, ?_⟩
  cases hused : output.stderrUsed with
  | true => exact .inl (hstderr.terminated (filter_terminators_stderr hused))
  | false =>
    obtain ⟨hnone, hsent⟩ := h.unused hused
    refine .inr ((hsent.append (unused_records hnone)).append ?_)
    intro r hr
    rw [terminators, hused] at hr
    obtain rfl := List.mem_singleton.1 hr
    intro htype
    cases htype

/-- A flush sends data, and the ends of the streams if it is the last one. -/
theorem Follows.flushed (h : output.Follows sent) (final : Bool) :
    (output.flushed final).2.Follows (sent ++ (output.flushed final).1) := by
  unfold Output.flushed
  rcases h with hwriting | ⟨hfinished, hended⟩
  · rw [if_neg (by simp [hwriting.finished])]
    split
    · exact .inr ⟨rfl, hwriting.ended⟩
    · refine .inl ⟨hwriting.finished, ?_, ?_⟩
      · intro r hr
        rcases List.mem_append.1 hr with hr | hr
        · exact hwriting.data r hr
        · exact of_mem_records hr
      · intro hunused
        obtain ⟨hnone, hsent⟩ := hwriting.unused hunused
        exact ⟨rfl, hsent.append (unused_records hnone)⟩
  · rw [if_pos hfinished, List.append_nil]
    exact .inr ⟨hfinished, hended⟩

/-- The last flush leaves both streams ended. -/
theorem Follows.ended (h : output.Follows sent) :
    Ended (sent ++ (output.flushed true).1) output.id := by
  have hafter := h.flushed true
  rw [← output.id_flushed true]
  refine (hafter.resolve_left fun hwriting => ?_).2
  have hunfinished := hwriting.finished
  unfold Output.flushed at hunfinished
  split at hunfinished
  next hfinished => exact absurd hunfinished (by simp [hfinished])
  next => cases hunfinished

/-- Whatever a program does, its output follows what has been sent of it. -/
theorem Follows.account {α : Type} (h : output.Follows sent) (program : Program α) :
    (program.account output).output.Follows (sent ++ (program.account output).sent) := by
  induction program generalizing output sent with
  | done | fail | crash =>
    rw [Program.account, List.append_nil]
    exact h
  | stdout data next ih => exact ih (h.writeStdout data)
  | stderr data next ih => exact ih (h.writeStderr data)
  | tell level topic message next ih => exact ih h
  | flush final next ih =>
    have hrest := ih (.ok ()) (h.flushed final)
    rwa [List.append_assoc] at hrest

/-- At any point, an output stream has been ended, or all that was sent on it is data. -/
theorem Follows.stream (h : output.Follows sent) {type : RecordType} (htype : type.IsOutput) :
    Terminated sent type output.id ∨ DataOnly sent type := by
  rcases h with hwriting | ⟨-, hended⟩
  · exact .inr fun r hr _ => hwriting.data r hr
  rcases htype with rfl | rfl
  · exact .inl hended.stdout
  · rcases hended.stderr with hstderr | hunused
    · exact .inl hstderr
    · exact .inr fun r hr hsame => absurd hsame (hunused r hr)

end Output

/-! ## What an application leaves -/

/-- The open streams of a request are ended by one record each. -/
theorem Channel.filter_endings {streams : List (RecordType × UInt16)} (h : streams.Nodup)
    (type : RecordType) (id : UInt16) :
    (endings streams id).filter (·.type = type) =
      if (type, id) ∈ streams then [.endOfStream type id] else [] := by
  have hone : (streams.filter (·.2 = id)).filter (·.1 = type) =
      streams.filter (· = (type, id)) := by
    rw [List.filter_filter]
    refine List.filter_congr fun s hs => ?_
    simp [Prod.ext_iff]
  have hends : (endings streams id).filter (·.type = type) =
      ((streams.filter (·.2 = id)).filter (·.1 = type)).map fun s => .endOfStream s.1 id := by
    rw [endings, List.filter_map]
    rfl
  rw [hends, hone, List.filter_eq, h.count]
  split <;> rfl

namespace Role

/-- An application that did not break down needs no stream ended on its behalf. -/
theorem output_of_not_crashed {role : Role} {id : UInt16} {streams : List (RecordType × UInt16)}
    (h : ∀ reason, (role.account id).2 ≠ .crashed reason) :
    role.output id streams = (role.account id).1 := by
  unfold output
  split
  next hcrash => exact absurd hcrash (h _)
  next => rfl

variable {role : Role} (hflush : role.flush = Program.flushOutput) (id : UInt16)

include hflush

/-- An application that did not break down leaves both streams ended. One that did may have left off
anywhere. -/
theorem account_cases :
    (∃ reason, ∃ output : Output, (role.account id).2 = .crashed reason ∧ output.id = id ∧
        output.Follows (role.account id).1) ∨
      (∀ reason, (role.account id).2 ≠ .crashed reason) ∧ Ended (role.account id).1 id := by
  have hrun := (Output.follows_new id).account role.run
  have hid := role.run.id_account (.new id)
  rw [List.nil_append] at hrun
  have hlast : ∀ output, (role.flush true).account output =
      ⟨(output.flushed true).1, .done (), (output.flushed true).2⟩ := by
    intro output
    rw [hflush]
    simp [Program.flushOutput, Program.account]
  have hended := hrun.ended
  rw [hid] at hended
  simp only [account, hlast]
  cases (role.run.account (.new id)).ending with
  | crashed reason => exact .inl ⟨_, _, rfl, hid, hrun⟩
  | done | failed =>
    refine .inr ⟨?_, hended⟩
    intro reason hcrash
    cases hcrash

/-- Each stream of a request that was written to has been ended once its application is done, be it
on behalf of an application that broke down. -/
theorem terminated_or_unused {streams : List (RecordType × UInt16)} (hnodup : streams.Nodup)
    {type : RecordType} (htype : type.IsOutput) :
    Terminated (role.output id streams) type id ∨ Unused (role.output id streams) type := by
  have hids : ∀ r ∈ (role.account id).1, r.id = id := fun r hr => (outputOf_of_mem_account hr).id
  rcases account_cases hflush id with ⟨reason, output, hcrash, rfl, hfollows⟩ | ⟨hend, hended⟩
  · have hfilter := Channel.filter_endings (Channel.nodup_openAll hnodup (role.account output.id).1)
      type output.id
    rw [Role.output, hcrash]
    rcases hfollows.stream htype with hterminated | hdata
    · rw [if_neg (hterminated.not_mem_openAll hids htype.ne_endRequest streams)] at hfilter
      exact .inl (hterminated.append (unused_of_filter hfilter))
    by_cases hopen : (type, output.id) ∈ Channel.openAll streams (role.account output.id).1
    · rw [if_pos hopen] at hfilter
      exact .inl (hdata.terminated hfilter)
    · rw [if_neg hopen] at hfilter
      have hunused : Unused (role.account output.id).1 type := by
        intro r hr hsame
        exact hopen (hdata.mem_openAll hids htype.ne_endRequest streams hr hsame)
      exact .inr (hunused.append (unused_of_filter hfilter))
  · rw [output_of_not_crashed hend]
    rcases htype with rfl | rfl
    · exact .inl hended.stdout
    · exact hended.stderr

/-- Unless its application breaks down, STDOUT is ended even if nothing was written to it. -/
theorem terminated_stdout (streams : List (RecordType × UInt16))
    (hend : ∀ reason, (role.account id).2 ≠ .crashed reason) :
    Terminated (role.output id streams) .stdout id := by
  rcases account_cases hflush id with ⟨reason, _, hcrash, -⟩ | ⟨-, hended⟩
  · exact absurd hcrash (hend reason)
  · rw [output_of_not_crashed hend]
    exact hended.stdout

/-- An application leaves no stream open that was not open before. -/
theorem mem_of_mem_openAll_output {streams : List (RecordType × UInt16)} (hnodup : streams.Nodup)
    (honly : ∀ s ∈ streams, s.1.IsOutput) {s : RecordType × UInt16}
    (hs : s ∈ Channel.openAll streams (role.output id streams)) : s ∈ streams := by
  have hown : ∀ r ∈ role.output id streams, r.OutputOf id :=
    fun r hr => outputOf_of_mem_output honly hr
  refine Decidable.byContradiction fun hnew => ?_
  obtain ⟨r, hr, rfl, htype⟩ := Channel.exists_of_mem_openAll hs hnew
  rw [(hown r hr).id] at hs
  rcases terminated_or_unused hflush id hnodup (hown r hr).type with hterminated | hunused
  · exact hterminated.not_mem_openAll (fun r hr => (hown r hr).id) htype streams hs
  · exact hunused r hr rfl

end Role

/-! ## Serving -/

namespace RoleTable

/-- All applications of a table leave flushing to their output. -/
def Delegates (table : RoleTable) : Prop :=
  ∀ kind factory, table.factory? kind = some factory →
    ∀ context services, (factory context services).flush = Program.flushOutput

/-- A change leaves a table with applications that leave flushing to their output, if it adds no
other. -/
theorem Delegates.apply {table : RoleTable} (h : table.Delegates) {change : Change}
    (hchange : ∀ kind factory, change = .register kind factory →
      ∀ context services, (factory context services).flush = Program.flushOutput) :
    (table.apply change).Delegates := by
  intro other factory hfactory
  cases change with
  | register kind registered =>
    rw [RoleTable.apply, factory?_register] at hfactory
    split at hfactory
    next =>
      obtain rfl := Option.some.inj hfactory
      exact hchange kind registered rfl
    next => exact h other factory hfactory
  | unregister kind =>
    rw [RoleTable.apply, factory?_unregister] at hfactory
    split at hfactory
    next => cases hfactory
    next => exact h other factory hfactory

/-- A table is as good as the applications that were ever put in it. -/
theorem delegates_ofChanges {changes : List Change}
    (hchanges : ∀ kind factory, .register kind factory ∈ changes →
      ∀ context services, (factory context services).flush = Program.flushOutput) :
    (ofChanges changes).Delegates := by
  have hempty : empty.Delegates := nofun
  revert hempty
  unfold ofChanges
  generalize empty = table
  intro htable
  induction changes generalizing table with
  | nil => exact htable
  | cons change changes ih =>
    refine ih (fun kind factory hmem => hchanges kind factory (.tail _ hmem)) _ (htable.apply ?_)
    rintro kind factory rfl
    exact hchanges kind factory (.head _)

/-- The applications at hand leave flushing to their output. -/
theorem delegates_standard : (ofChanges standard).Delegates := by
  refine delegates_ofChanges fun kind factory hmem => ?_
  rcases List.mem_cons.1 hmem with h | hmem
  · cases h
    exact fun _ _ => rfl
  · cases List.mem_singleton.1 hmem
    exact fun _ _ => rfl

end RoleTable

namespace Server

/-- All applications of a server leave flushing to their output. -/
def Delegates (server : Server) : Prop := server.roles.Delegates

/-- The application that a number finds is one of the table. -/
theorem Delegates.flush {server : Server} (h : server.Delegates) {id : UInt16}
    {factory : RoleFactory} (hfactory : server.roles.resolve? id = some factory)
    (context : Context) (services : Services) :
    (factory context services).flush = Program.flushOutput := by
  obtain ⟨kind, -, hkind⟩ := Option.bind_eq_some_iff.1 hfactory
  exact h kind factory hkind context services

/-- What holds of the streams that are open on a channel at any point of serving it. -/
structure Orderly (server : Server) (streams : List (RecordType × UInt16)) : Prop where
  only : ∀ s ∈ streams, s.1.IsOutput
  nodup : streams.Nodup
  none : server.Delegates → streams = []

theorem orderly_nil (server : Server) : server.Orderly [] := ⟨nofun, List.nodup_nil, fun _ => rfl⟩

/-- To conclude a request leaves the open streams in order. -/
theorem Orderly.conclude {server : Server} {streams : List (RecordType × UInt16)}
    (h : server.Orderly streams) (request : Request) (outcome : RunOutcome) :
    server.Orderly (Channel.openAll streams (server.said request outcome streams)) := by
  rw [said, Channel.openAll_append, Channel.openAll_of_endRequest fun r hr =>
    type_of_completion? (Option.mem_toList.1 hr)]
  refine ⟨?_, Channel.nodup_openAll h.nodup _, ?_⟩
  · intro s hs
    by_cases hopen : s ∈ streams
    · exact h.only s hopen
    · obtain ⟨r, hr, rfl, -⟩ := Channel.exists_of_mem_openAll hs hopen
      exact (outputOf_of_mem_output h.only hr).type
  · intro hdelegates
    obtain rfl := h.none hdelegates
    cases outcome with
    | aborted reason => rfl
    | complete =>
      cases hfactory : server.roles.resolve? request.context.role with
      | none => simp only [output, roleOutput, hfactory]; rfl
      | some factory =>
        simp only [output, roleOutput, hfactory]
        refine List.eq_nil_iff_forall_not_mem.2 fun s hs => ?_
        have hold := Role.mem_of_mem_openAll_output
          (hdelegates.flush hfactory request.context server.services) _ h.nodup h.only hs
        cases hold

end Server

/-- A session on a connection that takes all that is sent, with the open streams in order. -/
structure Session.Orderly (session : Session) (server : Server) : Prop where
  reliable : session.channel.connection.Reliable
  receiving : session.request.Receiving
  streams : server.Orderly session.channel.openStreams

namespace Server

section

variable {server : Server} {session : Session}

/-- A request that is settled leaves its streams in order for the next one. -/
theorem orderly_settle {request : Request} {outcome : RunOutcome} {channel : Channel}
    (hready : channel.Ready) (hstreams : server.Orderly channel.openStreams)
    (hreply : outcome = .complete → request.replyId = some request.context.id)
    (h : server.settle request outcome channel = .on session) : session.Orderly server := by
  obtain ⟨channel', hemits, hconclude⟩ :=
    server.conclude_eq_account hready hstreams.only outcome hreply
  unfold settle at h
  rw [hconclude] at h
  cases hsequel : server.sequel request outcome with
  | last result =>
    rw [hsequel] at h
    cases h
  | next nextId =>
    obtain ⟨-, -, hopen⟩ := of_sequel_eq_next hsequel
    rw [hsequel, hopen] at h
    cases h
    refine ⟨(hemits.ready hready).reliable, .inl (Request.fresh_new ..), ?_⟩
    rw [if_neg (by decide), hemits.openStreams]
    exact hstreams.conclude request outcome

/-- A record that is handled leaves the streams in order, whether the request goes on or ends with
it. -/
theorem orderly_handle {request : Request} (hrequest : request.Receiving) {channel : Channel}
    (hready : channel.Ready) (hstreams : server.Orderly channel.openStreams) {record : Record}
    (h : server.handle request record channel = .on session) : session.Orderly server := by
  obtain ⟨htell, hsame⟩ := request.sends_tellRemark record channel
  have htold := htell.ready hready
  have hstreams' : server.Orderly (request.tellRemark record channel).openStreams := by
    rw [hsame]
    exact hstreams
  have htakes := Request.takes_process hrequest record
  unfold handle at h
  cases hprocess : request.process record with
  | mk step request' =>
    rw [hprocess] at htakes h
    rcases step with reason | _ | reply | _
    · refine orderly_settle htold hstreams' ?_ h
      exact nofun
    · cases h
      exact ⟨htold.reliable, htakes.receiving, hstreams'⟩
    · obtain ⟨rfl, hreply⟩ := htakes.answer
      obtain ⟨sent, hsend, hsends, hopen⟩ := Channel.sendRecord_of_ready htold hreply
      simp only [hsend] at h
      cases h
      refine ⟨(hsends.ready htold).reliable, hrequest, ?_⟩
      rw [hopen]
      exact hstreams'
    · refine orderly_settle htold hstreams' (fun _ => ?_) h
      obtain ⟨hopen, -, hcontinues, -⟩ := htakes.complete
      rw [hcontinues.replyId, hcontinues.id]
      exact hopen.replyId

/-- A move leaves a session with its open streams in order. -/
theorem orderly_move {session' : Session} (h : session.Orderly server) {record? : Option Record}
    (hmove : server.move session = (record?, .on session')) : session'.Orderly server := by
  have hexchanges := session.channel.exchanges_receive
  unfold move at hmove
  cases hreceive : session.channel.receive with
  | mk result received =>
    rw [hreceive] at hexchanges hmove
    have hreliable := hexchanges.reliable h.reliable
    have hstreams : server.Orderly received.openStreams := by
      rw [hexchanges.openStreams]
      exact h.streams
    cases result with
    | error e =>
      cases e with
      | protocol e =>
        have hready : received.Ready := ⟨hreliable, (Channel.closed_of_receive_protocol hreceive).2⟩
        refine orderly_settle hready hstreams ?_ (Prod.mk.inj hmove).2
        exact nofun
      | closed | timeout | io => cases (Prod.mk.inj hmove).2
    | ok record =>
      have hready : received.Ready := ⟨hreliable, (Channel.closed_of_receive_ok hreceive).2⟩
      exact orderly_handle h.receiving hready hstreams (Prod.mk.inj hmove).2

/-- Every session that serving goes through has its open streams in order, by induction on the
moves. -/
theorem orderly_of_reaches {start : Session} (hstart : start.Orderly server)
    {received : List Record} (h : server.Reaches start received session) :
    session.Orderly server := by
  induction h with
  | start => exact hstart
  | move _ hmove ih => exact orderly_move ih hmove

end

/-- Serving begins with no stream open. -/
theorem orderly_firstSession (server : Server) {connection : Connection}
    (hreliable : connection.Reliable) (timeout : Duration) (peer : String) :
    (server.firstSession (.new connection timeout peer)).Orderly server :=
  ⟨hreliable, .inl (Request.fresh_new ..), server.orderly_nil⟩

/-- What is dispatched while a connection is served finds a channel that takes all that is sent, and
the open streams in order. -/
theorem orderly_of_complete {server : Server} {session : Session} (h : session.Orderly server)
    {record : Record} {received : Channel}
    (hreceive : session.channel.receive = (.ok record, received)) :
    (session.request.tellRemark record received).Ready ∧
      server.Orderly (session.request.tellRemark record received).openStreams := by
  have hexchanges := session.channel.exchanges_receive
  rw [hreceive] at hexchanges
  obtain ⟨htell, hsame⟩ := session.request.sends_tellRemark record received
  refine ⟨htell.ready ⟨hexchanges.reliable h.reliable,
    (Channel.closed_of_receive_ok hreceive).2⟩, ?_⟩
  rw [hsame, hexchanges.openStreams]
  exact h.streams

/-- What dispatching a complete request sends, and the streams that it leaves open. -/
structure Terminates (context : Context) (channel : Channel) (ending : RoleOutcome)
    (output : List Record) (final : Channel) : Prop where
  /-- The output comes first, and then the record that ends the request, unless the application
  could not send. -/
  sent : final.connection.sent.toList = channel.connection.sent.toList ++ Record.encodeAll
    (output ++ ((endBody? .complete (some ending)).map (.endRequest context.id)).toList)
  wellFormed : ∀ r ∈ output, r.WellFormed
  own : ∀ r ∈ output, r.OutputOf context.id
  /-- Each stream that was written to has been ended, by one record behind all its data. -/
  terminated : ∀ r ∈ output, Terminated output r.type context.id
  /-- STDOUT is ended in any case, unless the application broke down. -/
  stdout : (∀ reason, ending ≠ .crashed reason) → Terminated output .stdout context.id
  /-- No stream is open that was not before. -/
  streams : ∀ s ∈ final.openStreams, s ∈ channel.openStreams

section

variable (server : Server) {channel : Channel} (hready : channel.Ready) (honly : channel.OutputOnly)

include hready honly

/-- To dispatch a request is to send what the account of its application says, and perhaps to close
the channel. -/
theorem exists_dispatch (context : Context) :
    ∃ channel', channel.Emits (server.roleOutput context channel.openStreams ++
        ((endBody? .complete (server.roleEnding? context)).map (.endRequest context.id)).toList)
        channel' ∧
      (server.dispatch context channel).2.connection.sent = channel'.connection.sent ∧
      (server.dispatch context channel).2.openStreams = channel'.openStreams := by
  obtain ⟨channel', hemits, hdispatch⟩ := server.dispatch_eq_account hready honly context
  refine ⟨channel', hemits, ?_⟩
  rw [hdispatch]
  split
  · exact ⟨rfl, rfl⟩
  split
  · exact ⟨rfl, rfl⟩
  · exact ⟨Channel.sent_close channel', Channel.openStreams_close channel'⟩

/-- An application that leaves flushing to its output leaves no stream dangling. -/
theorem terminates_dispatch (hnodup : channel.openStreams.Nodup) {context : Context}
    {factory : RoleFactory} (hfactory : server.roles.resolve? context.role = some factory)
    (hflush : (factory context server.services).flush = Program.flushOutput) :
    Terminates context channel (invoke (factory context server.services) context.id channel).1
      ((factory context server.services).output context.id channel.openStreams)
      (server.dispatch context channel).2 := by
  obtain ⟨channel', hemits, hsent, hstreams⟩ := server.exists_dispatch hready honly context
  obtain ⟨_, hinvoke, -⟩ :=
    invoke_eq_account (factory context server.services) context.id hready
  have hown : ∀ r ∈ (factory context server.services).output context.id channel.openStreams,
      r.OutputOf context.id := fun r hr => Role.outputOf_of_mem_output honly hr
  rw [roleEnding?, roleOutput, hfactory, Option.map_some] at hemits
  rw [hinvoke]
  refine ⟨?_, ?_, hown, ?_, Role.terminated_stdout hflush context.id channel.openStreams, ?_⟩
  · rw [hsent, hemits.sends.sent]
  · intro r hr
    exact hemits.sends.wellFormed r (List.mem_append_left _ hr)
  · intro r hr
    refine (Role.terminated_or_unused hflush context.id hnodup (hown r hr).type).resolve_right ?_
    intro hunused
    exact hunused r hr rfl
  · intro s hs
    rw [hstreams, hemits.openStreams, Channel.openAll_append,
      Channel.openAll_of_endRequest fun r hr => ?_] at hs
    · exact Role.mem_of_mem_openAll_output hflush context.id hnodup honly hs
    · obtain ⟨body, -, rfl⟩ := Option.map_eq_some_iff.1 (Option.mem_toList.1 hr)
      rfl

end

/-- **No dangling streams.** On a channel that takes all that is sent, an application that leaves
flushing to its output, and otherwise does what it likes, has each of its output streams ended by
one record behind all its data and in front of the record that ends the request, and nothing is
left open. While a server serves whose applications are all of that kind, no stream is open whenever
a request is dispatched. -/
theorem dispatch_terminates (server : Server) :
    (∀ context factory, server.roles.resolve? context.role = some factory →
      (factory context server.services).flush = Program.flushOutput →
      ∀ channel : Channel, channel.Ready → channel.OutputOnly → channel.openStreams.Nodup →
        ∃ output, Terminates context channel
          (invoke (factory context server.services) context.id channel).1 output
          (server.dispatch context channel).2) ∧
      ∀ connection : Connection, connection.Reliable → ∀ timeout peer received session,
        server.Reaches (server.firstSession (.new connection timeout peer)) received session →
        ∀ record next request, session.channel.receive = (.ok record, next) →
          session.request.process record = (.ok .complete, request) →
          let channel := session.request.tellRemark record next
          channel.Ready ∧ channel.OutputOnly ∧ channel.openStreams.Nodup ∧
            (server.Delegates → channel.openStreams = []) := by
  refine ⟨?_, ?_⟩
  · intro context factory hfactory hflush channel hready honly hnodup
    exact ⟨_, server.terminates_dispatch hready honly hnodup hfactory hflush⟩
  · intro connection hreliable timeout peer received session hreaches record next request hreceive _
    obtain ⟨hready, hstreams⟩ := orderly_of_complete
      (orderly_of_reaches (server.orderly_firstSession hreliable timeout peer) hreaches) hreceive
    exact ⟨hready, hstreams.only, hstreams.nodup, hstreams.none⟩

/-- An application that has a first piece of its output sent, writes on, and breaks down. -/
def hasty : RoleFactory := fun _ _ =>
  ⟨.stdout [104] (.stderr [105] (.flush false fun _ => .stdout [106] (.crash none))),
    Program.flushOutput⟩

/-- A server with that application. -/
def hastyServer : Server := ⟨.ofChanges [.register .responder hasty], .empty, .default, ⟨1, 1⟩⟩

/-- A peer that sends a request for it. -/
def hastyPeer : Connection := .new [.data (Record.encodeAll
  [⟨version1, .beginRequest, 7, [0, 1, 1, 0, 0, 0, 0, 0], 0⟩, ⟨version1, .params, 7, [], 0⟩,
    ⟨version1, .stdin, 7, [], 0⟩])]

/-- The hasty application is dispatched with no stream open, breaks down behind a piece of output,
and leaves no stream open. -/
theorem dispatch_terminates_hasty :
    ∃ received session record next request output,
      hastyServer.Reaches (hastyServer.firstSession (.new hastyPeer ⟨1⟩)) received session ∧
      session.channel.receive = (.ok record, next) ∧
      session.request.process record = (.ok .complete, request) ∧
      (session.request.tellRemark record next).openStreams = [] ∧
      Terminates request.context (session.request.tellRemark record next)
        (.crashed "unknown panic payload") output
        (hastyServer.dispatch request.context (session.request.tellRemark record next)).2 := by
  let after (session : Session) (record : Record) : Session :=
    ⟨(session.request.process record).2,
      session.request.tellRemark record session.channel.receive.2⟩
  let start := hastyServer.firstSession (.new hastyPeer ⟨1⟩)
  let begun := after start ⟨version1, .beginRequest, 7, [0, 1, 1, 0, 0, 0, 0, 0], 0⟩
  let session := after begun ⟨version1, .params, 7, [], 0⟩
  let request := (session.request.process ⟨version1, .stdin, 7, [], 0⟩).2
  have hbegun : hastyServer.move start = (some _, .on begun) :=
    move_of_more (Prod.ext (by decide +kernel) rfl) (Prod.ext (by decide +kernel) rfl)
  have hsession : hastyServer.move begun = (some _, .on session) :=
    move_of_more (Prod.ext (by decide +kernel) rfl) (Prod.ext (by decide +kernel) rfl)
  have hreceive : session.channel.receive =
      (.ok ⟨version1, .stdin, 7, [], 0⟩, session.channel.receive.2) :=
    Prod.ext (by decide +kernel) rfl
  have hprocess : session.request.process ⟨version1, .stdin, 7, [], 0⟩ = (.ok .complete, request) :=
    Prod.ext (by decide +kernel) rfl
  have hreaches := (Reaches.start.move hbegun).move hsession
  obtain ⟨hdispatch, hserve⟩ := dispatch_terminates hastyServer
  obtain ⟨hready, honly, hnodup, hnone⟩ := hserve hastyPeer (Connection.reliable_new _) ⟨1⟩
    "unknown" _ session hreaches _ _ request hreceive hprocess
  have hdelegates : hastyServer.Delegates := by
    refine RoleTable.delegates_ofChanges fun kind factory hmem => ?_
    cases List.mem_singleton.1 hmem
    exact fun _ _ => rfl
  have hrole : hastyServer.roles.resolve? request.context.role = some hasty := by
    have : request.context.role = 1 := by decide +kernel
    rw [this]
    rfl
  obtain ⟨output, hterminates⟩ := hdispatch request.context hasty hrole rfl _ hready honly hnodup
  obtain ⟨_, hinvoke, -⟩ := invoke_eq_account (hasty request.context hastyServer.services)
    request.context.id hready
  rw [hinvoke] at hterminates
  exact ⟨_, session, _, _, request, output, hreaches, hreceive, hprocess, hnone hdelegates,
    hterminates⟩

end Server

end FastCgi
