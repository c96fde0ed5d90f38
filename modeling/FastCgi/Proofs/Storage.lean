import FastCgi.Proofs.Evolution
import FastCgi.Proofs.Grammar
import Mathlib.Algebra.GroupWithZero.Nat
import Mathlib.Data.String.Basic

/-!
# What a request can make the server hold

A request holds its body, the parameters that are complete, and the bytes of one that is not. Limits
are checked against the bytes of records, before they are taken. `Request.Holds` says how what is
held comes from the bytes that the decoder has been fed; one record keeps it so (`Holds.meet`), and
by induction any number of them do, aborted or not (`holds_meetAll`). A name or a value may be longer
as a text than it was on the wire, but never by more than three to one
(`Utf8.utf8ByteSize_decode_le`).
-/

namespace FastCgi

/-! ## The size of texts -/

namespace Utf8

/-- The replacement character takes three bytes. It is why a byte may become three. -/
theorem utf8Size_replacement : replacement.utf8Size = 3 := by decide

/-- Every byte that is read, the first one of the character included, pays for three bytes of what it
is read as. If more than one byte is left to be read, then they pay for a character of four. -/
theorem utf8Size_continued_le (low high : UInt8) (owed code : Nat) (bytes : Bytes) :
    (continued low high owed code bytes).1.utf8Size +
        3 * (continued low high owed code bytes).2.length ≤
      3 * bytes.length + if owed = 0 then 4 else 3 := by
  induction owed generalizing low high code bytes with
  | zero =>
    have := Char.utf8Size_le_four (Char.ofNat code)
    simp only [continued, if_true]
    omega
  | succ owed ih =>
    rw [if_neg (Nat.succ_ne_zero owed)]
    cases bytes with
    | nil => simp [continued, utf8Size_replacement]
    | cons b rest =>
      simp only [continued]
      split
      next =>
        have hrest := ih 0x80 0xBF (code * 64 + b.toNat % 64) rest
        have hbound : (if owed = 0 then 4 else 3) ≤ 6 := by split <;> decide
        rw [List.length_cons]
        omega
      next =>
        simp only [utf8Size_replacement]
        omega

/-- The characters of seven bits take one byte. -/
theorem utf8Size_ofNat_of_lt {n : Nat} (h : n < 0x80) : (Char.ofNat n).utf8Size = 1 := by
  have hvalid : n.isValidChar := .inl (by omega)
  rw [Char.utf8Size_eq_one_iff, UInt32.le_iff_toNat_le, Char.ofNat, dif_pos hvalid]
  exact Nat.le_of_lt_succ h

/-- A character takes at most three times the bytes that it is read off. -/
theorem utf8Size_char_le (b : UInt8) (rest : Bytes) :
    (char b rest).1.utf8Size + 3 * (char b rest).2.length ≤ 3 * rest.length + 3 := by
  unfold char
  split
  next hascii =>
    simp only [utf8Size_ofNat_of_lt (UInt8.lt_iff_toNat_lt.1 hascii)]
    omega
  next =>
    repeat' split
    any_goals exact utf8Size_continued_le ..
    all_goals simp only [utf8Size_replacement]; omega

/-- Characters take at most three times the bytes that they are read off, by induction on the
reading. -/
theorem utf8Len_chars_le (bytes : Bytes) : String.utf8Len (chars bytes) ≤ 3 * bytes.length := by
  induction bytes using chars.induct with
  | case1 => simp [chars]
  | case2 b rest _ ih =>
    have hchar := utf8Size_char_le b rest
    rw [chars, String.utf8Len_cons, List.length_cons]
    omega

/-- No byte makes more than three bytes of text. -/
theorem utf8ByteSize_decode_le (bytes : Bytes) :
    (decode bytes).utf8ByteSize ≤ 3 * bytes.length := by
  have hchars := utf8Len_chars_le bytes
  rwa [← toList_decode, ← String.utf8ByteSize_ofList, String.ofList_toList] at hchars

/-- Bytes that no character begins with make as much. -/
example : (decode [0xFF, 0xC0]).utf8ByteSize = 6 := by decide +kernel

end Utf8

namespace Dictionary

variable {α : Type} (size : String × α → Nat)

/-- An entry takes the place of one of the same name, or a place of its own. -/
theorem sum_place_le (name : String) (value : α) (entries : List (String × α)) :
    ((place name value entries).map size).sum ≤ size (name, value) + (entries.map size).sum := by
  induction entries with
  | nil => simp [place]
  | cons head rest ih =>
    obtain ⟨key, old⟩ := head
    simp only [place]
    split
    next => simp
    next =>
      split
      next =>
        simp only [List.map_cons, List.sum_cons]
        omega
      next =>
        simp only [List.map_cons, List.sum_cons]
        omega

/-- Pairs that are inserted add at most their own sizes, as some of them may take the place of
others. -/
theorem sum_extend_le (d : Dictionary α) (pairs : List (String × α)) :
    ((d.extend pairs).entries.map size).sum ≤
      (d.entries.map size).sum + (pairs.map size).sum := by
  induction pairs generalizing d with
  | nil => simp
  | cons pair pairs ih =>
    obtain ⟨name, value⟩ := pair
    have hplace : ((d.insert name value).entries.map size).sum ≤
        size (name, value) + (d.entries.map size).sum := sum_place_le size name value d.entries
    have hpairs : ((d.extend ((name, value) :: pairs)).entries.map size).sum ≤
        ((d.insert name value).entries.map size).sum + (pairs.map size).sum :=
      ih (d.insert name value)
    rw [List.map_cons, List.sum_cons]
    omega

end Dictionary

namespace NameValue

/-- The number of bytes that a name and a value take as texts. -/
def textSize (pair : String × String) : Nat := pair.1.utf8ByteSize + pair.2.utf8ByteSize

/-- The texts of an item. -/
def Item.texts (item : Item) : String × String := NameValue.texts (item.name, item.value)

/-- The texts of an item take at most three times its bytes. -/
theorem Item.textSize_texts_le (item : Item) : textSize item.texts ≤ 3 * item.bytes.length := by
  have hname := Utf8.utf8ByteSize_decode_le item.name
  have hvalue := Utf8.utf8ByteSize_decode_le item.value
  simp only [textSize, Item.texts, NameValue.texts, Item.bytes, List.length_append]
  omega

/-- The texts of several items take at most three times their bytes. -/
theorem sum_textSize_le (its : List Item) :
    ((its.map Item.texts).map textSize).sum ≤ 3 * (its.flatMap Item.bytes).length := by
  induction its with
  | nil => simp
  | cons item its ih =>
    have hitem := item.textSize_texts_le
    simp only [List.map_cons, List.sum_cons, List.flatMap_cons, List.length_append]
    omega

/-- The number of bytes that all names and values of a dictionary take as texts. -/
def totalSize (d : Dictionary String) : Nat := (d.entries.map textSize).sum

/-- A dictionary of some items takes no more than the items, however often a name is repeated. -/
theorem totalSize_ofList_le (its : List Item) :
    totalSize (.ofList (its.map Item.texts)) ≤ 3 * (its.flatMap Item.bytes).length := by
  have hextend := Dictionary.sum_extend_le textSize .empty (its.map Item.texts)
  have hempty : ((Dictionary.empty (α := String)).entries.map textSize).sum = 0 := rfl
  rw [hempty, Nat.zero_add] at hextend
  exact Nat.le_trans hextend (sum_textSize_le its)

end NameValue

/-! ## Sums of sizes -/

/-- The sum of two sizes in 64 bits. -/
def sum64 (m n : Nat) : Nat := (UInt64.ofNat m + UInt64.ofNat n).toNat

/-- A sum that fits into 64 bits is not changed by being taken in them. -/
theorem sum64_eq {m n : Nat} (h : m + n < 2 ^ 64) : sum64 m n = m + n := by
  have hm : m < 2 ^ 64 := by omega
  have hn : n < 2 ^ 64 := by omega
  rw [sum64, UInt64.toNat_add, UInt64.toNat_ofNat', UInt64.toNat_ofNat', Nat.mod_eq_of_lt hm,
    Nat.mod_eq_of_lt hn, Nat.mod_eq_of_lt h]

namespace Request

variable {request request' : Request} {record : Record} {reason : AbortReason}

/-! ## Records in any order -/

/-- A request that has met a record, or bytes that are no record. -/
def meet (request : Request) : Option Record → Request
  | none => request.abort
  | some record =>
    match request.process record with
    | (.error _, request') => request'.abort
    | (.ok _, request') => request'

/-- A request that has met one after another. -/
def meetAll (request : Request) (events : List (Option Record)) : Request :=
  events.foldl meet request

/-- Whatever a run does to a request, it does by what the request meets. -/
theorem Advances.exists_meet (h : request.Advances request') :
    ∃ event, request.meet event = request' := by
  cases h with
  | @takes record _ _ h => exact ⟨some record, by simp only [meet, h]⟩
  | @givesUp record _ _ h => exact ⟨some record, by simp only [meet, h]⟩
  | unreadable => exact ⟨none, rfl⟩

/-- Whatever runs do to a request, they do by what it meets, one thing after another. -/
theorem Reaches.exists_meetAll (h : request.Reaches request') :
    ∃ events, request.meetAll events = request' := by
  induction h with
  | refl => exact ⟨[], rfl⟩
  | tail _ hstep ih =>
    obtain ⟨events, rfl⟩ := ih
    obtain ⟨event, rfl⟩ := hstep.exists_meet
    exact ⟨events ++ [event], by simp [meetAll]⟩

/-! ## What the decoder is fed -/

/-- A record that is a piece of the parameters of a request, and within their limit. -/
structure Feeds (request : Request) (record : Record) : Prop where
  stage : request.stage = .streamingParams
  id : record.id = request.context.id
  id_ne : record.id ≠ managementId
  type : record.type = .params
  limit : request.paramsBytes + record.content.length ≤ request.limits.params

instance (request : Request) (record : Record) : Decidable (request.Feeds record) :=
  decidable_of_iff (request.stage = .streamingParams ∧ record.id = request.context.id ∧
      record.id ≠ managementId ∧ record.type = .params ∧
      request.paramsBytes + record.content.length ≤ request.limits.params)
    ⟨fun ⟨hstage, hid, hne, htype, hlimit⟩ => ⟨hstage, hid, hne, htype, hlimit⟩,
      fun ⟨hstage, hid, hne, htype, hlimit⟩ => ⟨hstage, hid, hne, htype, hlimit⟩⟩

/-- The bytes that the decoder is fed when a request meets something. -/
def fed (request : Request) : Option Record → Bytes
  | none => []
  | some record => if request.Feeds record then record.content else []

/-- The bytes that the decoder has been fed when a request has met one thing after another. -/
def fedAll (request : Request) : List (Option Record) → Bytes
  | [] => []
  | event :: events => request.fed event ++ (request.meet event).fedAll events

/-! ## What one record adds -/

/-- Whether a request has not received all of its parameters. -/
def Early (request : Request) : Prop :=
  request.stage = .awaitingBegin ∨ request.stage = .streamingParams

/-- A request that holds nothing more than another one did. -/
structure Rests (request request' : Request) : Prop where
  limits : request'.limits = request.limits
  params : request'.context.params = request.context.params
  stdin : request'.context.stdin = request.context.stdin
  decoder : request'.decoder = request.decoder ∨ request'.decoder = .new
  /-- The decoder is only fed again if it was not touched. -/
  early : request'.Early →
    request.Early ∧ request'.decoder = request.decoder ∧ request'.paramsBytes = request.paramsBytes

theorem Rests.refl (request : Request) : request.Rests request :=
  ⟨rfl, rfl, rfl, .inl rfl, fun h => ⟨h, rfl, rfl⟩⟩

/-- A request that was given up does not wait for parameters any more. -/
theorem not_early_abort (request : Request) : ¬request.abort.Early := by
  intro hearly
  rw [abort_eq] at hearly
  split at hearly
  next hended =>
    rcases hearly with hstage | hstage <;> simp [hstage, Stage.isTerminal] at hended
  next => rcases hearly with hstage | hstage <;> cases hstage

/-- A request that is given up holds nothing more. -/
theorem rests_abort (hlimits : request'.limits = request.limits)
    (hcontext : request'.context = request.context)
    (hdecoder : request'.decoder = request.decoder ∨ request'.decoder = .new) :
    request.Rests request'.abort := by
  have hdecoder' : request'.abort.decoder = request'.decoder := by
    rw [abort_eq]
    split <;> rfl
  refine ⟨(continues_abort request').limits.trans hlimits, ?_, ?_, ?_,
    fun hearly => absurd hearly (not_early_abort request')⟩
  · rw [context_abort_eq, hcontext]
  · rw [context_abort_eq, hcontext]
  · rwa [hdecoder']

/-- The parameters of a request that is given up over a record of its own may just have ended. -/
theorem decoder_of_processOwn (h : request.processOwn record = (.error reason, request')) :
    request'.limits = request.limits ∧
      (request'.decoder = request.decoder ∨ request'.decoder = .new) := by
  unfold processOwn at h
  split at h
  next => cases h; exact ⟨rfl, .inl rfl⟩
  next =>
    split at h
    next =>
      unfold endParams at h
      dsimp only at h
      split at h
      next => cases h; exact ⟨rfl, .inr rfl⟩
      next => split at h <;> cases h; exact ⟨rfl, .inr rfl⟩
    next =>
      unfold addParams at h
      dsimp only at h
      split at h <;> cases h
      exact ⟨rfl, .inl rfl⟩
  next =>
    split at h
    next => unfold endBody at h; split at h <;> cases h; exact ⟨rfl, .inl rfl⟩
    next => unfold addBody at h; split at h <;> cases h; exact ⟨rfl, .inl rfl⟩
  next => cases h; exact ⟨rfl, .inl rfl⟩

/-- What meeting something can do to what a request holds. -/
inductive Stores (request : Request) (event : Option Record) : Request → Prop
  /-- It holds one more piece of the parameters. -/
  | params {record : Record} (hevent : event = some record) (hfeeds : request.Feeds record) :
    Stores request event (request.withParams record.content)
  /-- It holds one more piece of the body. -/
  | body {record : Record} (hfed : request.fed event = [])
      (hstage : request.stage = .streamingBody)
      (hlimit : request.context.stdin.size + record.content.length ≤ request.limits.body) :
    Stores request event (request.withBody record.content)
  /-- It holds nothing more. -/
  | rests {request' : Request} (hfed : request.fed event = []) (h : request.Rests request') :
    Stores request event request'

/-- The decoder is fed nothing by a record that is no piece of the parameters, or an empty one. -/
theorem fed_eq_nil (h : request.Feeds record → record.content = []) :
    request.fed (some record) = [] := by
  show (if request.Feeds record then record.content else []) = []
  split
  next hfeeds => exact h hfeeds
  next => rfl

/-- A record that is taken makes a request what processing it does. -/
theorem meet_of_ok {step : Step} (h : request.process record = (.ok step, request')) :
    request.meet (some record) = request' := by
  simp only [meet, h]

/-- A request that is given up over a record holds nothing more, if the decoder was not fed. -/
theorem stores_of_error (h : request.process record = (.error reason, request'))
    (hfed : request.fed (some record) = []) (hlimits : request'.limits = request.limits)
    (hdecoder : request'.decoder = request.decoder ∨ request'.decoder = .new) :
    request.Stores (some record) (request.meet (some record)) := by
  have hmeet : request.meet (some record) = request'.abort := by simp only [meet, h]
  rw [hmeet]
  exact .rests hfed (rests_abort hlimits (alters_of_process h).context_of_error hdecoder)

section

variable (hid : record.id ≠ managementId)

include hid

/-- Nothing is stored before a request has begun. -/
theorem stores_meet_of_first (hstage : request.stage = .awaitingBegin) :
    request.Stores (some record) (request.meet (some record)) := by
  have hprocess : request.process record = request.processFirst record := by
    rw [process, if_neg (by simpa [Record.isManagement] using hid), if_pos hstage]
  have hfed : request.fed (some record) = [] := fed_eq_nil fun hfeeds => by
    cases hstage.symm.trans hfeeds.stage
  have hcontext : request.context.stage = .awaitingBegin := hstage
  unfold processFirst at hprocess
  split at hprocess
  next => rw [meet_of_ok hprocess]; exact .rests hfed (.refl request)
  next =>
    simp only at hprocess
    split at hprocess
    next => exact stores_of_error hprocess hfed rfl (.inl rfl)
    next =>
      split at hprocess
      next => exact stores_of_error hprocess hfed rfl (.inl rfl)
      next =>
        simp only [Context.start, Context.advance, hcontext] at hprocess
        rw [meet_of_ok hprocess]
        exact .rests hfed ⟨rfl, rfl, rfl, .inl rfl, fun _ => ⟨.inl hstage, rfl, rfl⟩⟩

/-- A record of the request itself may be stored. -/
theorem stores_meet_of_own (hstage : request.stage ≠ .awaitingBegin)
    (hown : record.id = request.context.id) :
    request.Stores (some record) (request.meet (some record)) := by
  have hprocess : request.process record = request.processOwn record := by
    rw [process, if_neg (by simpa [Record.isManagement] using hid), if_neg hstage,
      if_neg (not_not_intro hown)]
  have herror : request.GivesUp (request.processOwn record) →
      (request.Feeds record → record.content = []) →
      request.Stores (some record) (request.meet (some record)) := by
    rintro ⟨reason, request', h, -, -⟩ hfeeds
    obtain ⟨hlimits, hdecoder⟩ := decoder_of_processOwn h
    exact stores_of_error (hprocess.trans h) (fed_eq_nil hfeeds) hlimits hdecoder
  cases hcurrent : request.stage with
  | awaitingBegin => exact absurd hcurrent hstage
  | streamingParams =>
    rcases processOwn_of_streamingParams hcurrent record with
      ⟨htype, -, hlimit, h⟩ | ⟨-, hempty, -, h⟩ | hgivesUp
    · rw [meet_of_ok (hprocess.trans h)]
      exact .params rfl ⟨hcurrent, hown, hid, htype, hlimit⟩
    · rw [meet_of_ok (hprocess.trans h)]
      refine .rests (fed_eq_nil fun _ => hempty) ⟨rfl, rfl, rfl, .inr rfl, ?_⟩
      rintro (hbefore | hbefore) <;> cases hbefore
    -- A piece within the limit would have been taken, so what is refused is none.
    · refine herror hgivesUp fun hfeeds => Decidable.byContradiction fun hne => ?_
      obtain ⟨reason, request', h, -⟩ := hgivesUp
      rw [processOwn_params hcurrent hfeeds.type hne hfeeds.limit] at h
      cases h
  | streamingBody =>
    have hfeeds : request.Feeds record → record.content = [] := fun hfeeds => by
      cases hcurrent.symm.trans hfeeds.stage
    rcases processOwn_of_streamingBody hcurrent record with
      ⟨-, -, hlimit, h⟩ | ⟨-, -, h⟩ | hgivesUp
    · rw [meet_of_ok (hprocess.trans h)]
      rw [Context.length_body] at hlimit
      exact .body (fed_eq_nil hfeeds) hcurrent hlimit
    · rw [meet_of_ok (hprocess.trans h)]
      refine .rests (fed_eq_nil hfeeds) ⟨rfl, rfl, rfl, .inl rfl, ?_⟩
      rintro (hbefore | hbefore) <;> cases hbefore
    · exact herror hgivesUp hfeeds
  | complete | aborted =>
    refine herror (givesUp_of_unexpected (fun h => ?_) fun h => ?_) fun hfeeds => ?_
    · cases hcurrent.symm.trans h
    · cases hcurrent.symm.trans h
    · cases hcurrent.symm.trans hfeeds.stage

end

/-- Whatever a request meets, it does what `Stores` says and nothing else. -/
theorem stores_meet (request : Request) (event : Option Record) :
    request.Stores event (request.meet event) := by
  cases event with
  | none => exact .rests rfl (rests_abort rfl rfl (.inl rfl))
  | some record =>
    by_cases hid : record.id = managementId
    · have hfed : request.fed (some record) = [] := fed_eq_nil fun hfeeds => absurd hid hfeeds.id_ne
      have hprocess := process_of_management request hid
      split at hprocess
      next => exact stores_of_error hprocess hfed rfl (.inl rfl)
      next => rw [meet_of_ok hprocess]; exact .rests hfed (.refl request)
    by_cases hstage : request.stage = .awaitingBegin
    · exact stores_meet_of_first hid hstage
    by_cases hown : record.id = request.context.id
    · exact stores_meet_of_own hid hstage hown
    have hfed : request.fed (some record) = [] := fed_eq_nil fun hfeeds => absurd hfeeds.id hown
    have hprocess : request.process record = request.processForeign record := by
      rw [process, if_neg (by simpa [Record.isManagement] using hid), if_neg hstage, if_pos hown]
    rw [processForeign, Record.new_endRequest] at hprocess
    split at hprocess <;> rw [meet_of_ok hprocess] <;> exact .rests hfed (.refl request)

/-! ## What is held -/

/-- What a request holds when its decoder has been fed some bytes. -/
structure Holds (request : Request) (bytes : Bytes) : Prop where
  body : request.context.stdin.size ≤ request.limits.body
  limit : bytes.length ≤ request.limits.params
  params : request.context.params = .ofList (NameValue.complete bytes)
  /-- Behind the complete pairs, either what is left is kept, or nothing. -/
  decoder : request.decoder = .after bytes ∨ request.decoder = .new
  /-- All that is fed is counted, for as long as anything may be fed. -/
  early : request.Early → request.decoder = .after bytes ∧ request.paramsBytes = bytes.length

/-- A new request holds nothing. -/
theorem holds_new (limits : Limits) (info : ServerInfo) (previousId : Option UInt16) :
    (new limits info previousId).Holds [] := by
  refine ⟨Nat.zero_le _, Nat.zero_le _, ?_, .inr rfl, fun _ => ⟨?_, rfl⟩⟩
  · rw [NameValue.complete_nil]
    rfl
  · rw [NameValue.Decoder.after_nil]
    rfl

/-- Meeting one more thing adds no more to what a request holds than the limits allow. -/
theorem Holds.meet {bytes : Bytes} (h : request.Holds bytes) (event : Option Record) :
    (request.meet event).Holds (bytes ++ request.fed event) := by
  have hstores := request.stores_meet event
  generalize request.meet event = request' at hstores
  cases hstores with
  | @params record hevent hfeeds =>
    obtain ⟨hdecoder, hsum⟩ := h.early (.inr hfeeds.stage)
    obtain ⟨hcomplete, hafter⟩ := NameValue.Decoder.feed_after bytes record.content
    have hfed : request.fed event = record.content := by
      rw [hevent]
      exact if_pos hfeeds
    have hlimit := hfeeds.limit
    rw [hsum, ← List.length_append] at hlimit
    rw [hfed]
    refine ⟨h.body, hlimit, ?_, ?_, fun _ => ⟨?_, ?_⟩⟩
    · simp only [withParams, hdecoder, h.params, hcomplete, Dictionary.ofList,
        Dictionary.extend_append]
    · exact .inl (by rw [← hafter, ← hdecoder]; rfl)
    · rw [← hafter, ← hdecoder]
      rfl
    · rw [List.length_append, ← hsum]
      rfl
  | @body record hfed hstage hlimit =>
    rw [hfed, List.append_nil]
    refine ⟨?_, h.limit, h.params, h.decoder, ?_⟩
    · rw [← Context.length_body, withBody, Context.body_addBody, List.length_append,
        Context.length_body]
      exact hlimit
    · rintro (hbefore | hbefore) <;> cases hstage.symm.trans hbefore
  | rests hfed hrests =>
    rw [hfed, List.append_nil]
    refine ⟨?_, ?_, hrests.params.trans h.params, ?_, fun hearly => ?_⟩
    · rw [hrests.stdin, hrests.limits]
      exact h.body
    · rw [hrests.limits]
      exact h.limit
    · rcases hrests.decoder with hsame | hnew
      · rw [hsame]
        exact h.decoder
      · exact .inr hnew
    · obtain ⟨hbefore, hdecoder, hsum⟩ := hrests.early hearly
      rw [hdecoder, hsum]
      exact h.early hbefore

/-- Whatever a request meets, it holds what its decoder was fed in all, and within the limits. -/
theorem Holds.meetAll {bytes : Bytes} (h : request.Holds bytes) (events : List (Option Record)) :
    (request.meetAll events).Holds (bytes ++ request.fedAll events) := by
  induction events generalizing request bytes with
  | nil => simpa [Request.meetAll, fedAll] using h
  | cons event events ih =>
    rw [fedAll, ← List.append_assoc]
    exact ih (h.meet event)

/-- The limits of a request are never changed. -/
theorem limits_meet (request : Request) (event : Option Record) :
    (request.meet event).limits = request.limits := by
  have hstores := request.stores_meet event
  generalize request.meet event = request' at hstores
  cases hstores with
  | params | body => rfl
  | rests _ hrests => exact hrests.limits

/-- The limits of a request stay the same, whatever it meets. -/
theorem limits_meetAll (request : Request) (events : List (Option Record)) :
    (request.meetAll events).limits = request.limits := by
  induction events generalizing request with
  | nil => rfl
  | cons event events ih => exact (ih _).trans (request.limits_meet event)

/-- **What one request can make the server hold.** Take a request that has met any records in any
order, in however many runs, and bytes that are no record in between. Its body is within the limit.
The bytes that its decoder has been fed fall into items and a rest: the items are those of its
parameters, the rest is what the decoder holds until the parameters have ended, and all of these
bytes together are within the limit. As texts, the parameters take at most three times as much. The
sum that is compared with the limit counts exactly the bytes that the decoder has been fed, and as
long as a limit leaves room for one more record in 64 bits, adding that record to the sum does not
wrap around. -/
theorem meetAll_within_limits (limits : Limits) (info : ServerInfo) (previousId : Option UInt16) :
    let fresh := new limits info previousId
    (∀ channels, ∃ events, fresh.meetAll events = fresh.runs channels) ∧
    ∀ events,
      let request := fresh.meetAll events
      let bytes := fresh.fedAll events
      request.context.stdin.size ≤ limits.body ∧
      (∃ (its : List NameValue.Item) (left : Bytes),
        its.flatMap NameValue.Item.bytes ++ left = bytes ∧ NameValue.item? left = none ∧
        request.context.params = .ofList (its.map NameValue.Item.texts) ∧
        (request.decoder.pending = left ∨ ¬request.Early ∧ request.decoder.pending = []) ∧
        (its.flatMap NameValue.Item.bytes).length + request.decoder.pending.length ≤
          limits.params) ∧
      NameValue.totalSize request.context.params ≤ 3 * limits.params ∧
      (request.Early → request.paramsBytes = bytes.length) ∧
      ∀ record : Record, record.content.length ≤ maxContentLength →
        (request.stage = .streamingParams → limits.params + maxContentLength < 2 ^ 64 →
          sum64 request.paramsBytes record.content.length =
            request.paramsBytes + record.content.length) ∧
        (request.stage = .streamingBody → limits.body + maxContentLength < 2 ^ 64 →
          sum64 request.context.stdin.size record.content.length =
            request.context.stdin.size + record.content.length) := by
  intro fresh
  refine ⟨fun channels => (reaches_runs fresh channels).exists_meetAll, fun events => ?_⟩
  intro request bytes
  have hholds : request.Holds bytes := (holds_new limits info previousId).meetAll events
  have hlimits : request.limits = limits := limits_meetAll fresh events
  have hbody : request.context.stdin.size ≤ limits.body := hlimits ▸ hholds.body
  have hlimit : bytes.length ≤ limits.params := hlimits ▸ hholds.limit
  obtain ⟨its, hbytes, hread, hleft⟩ := NameValue.exists_items bytes
  have hparams : request.context.params = .ofList (its.map NameValue.Item.texts) := by
    rw [hholds.params, NameValue.complete, hread, List.map_map]
    rfl
  have hfed : (its.flatMap NameValue.Item.bytes).length + (NameValue.items bytes).2.length =
      bytes.length := by
    rw [← List.length_append, hbytes]
  have hpending : request.decoder.pending = (NameValue.items bytes).2 ∨
      ¬request.Early ∧ request.decoder.pending = [] := by
    by_cases hearly : request.Early
    · rw [(hholds.early hearly).1]
      exact .inl rfl
    · rcases hholds.decoder with hafter | hnew
      · rw [hafter]
        exact .inl rfl
      -- The end of the parameters empties the decoder.
      · rw [hnew]
        exact .inr ⟨hearly, rfl⟩
  refine ⟨hbody, ⟨its, _, hbytes, hleft, hparams, hpending, ?_⟩, ?_,
    fun hearly => (hholds.early hearly).2, fun record hrecord => ⟨fun hstage hroom => ?_,
      fun _ hroom => ?_⟩⟩
  · have hle : request.decoder.pending.length ≤ (NameValue.items bytes).2.length := by
      rcases hpending with hsame | ⟨-, hnil⟩
      · rw [hsame]
      · rw [hnil]
        exact Nat.zero_le _
    omega
  · have hsize := NameValue.totalSize_ofList_le its
    rw [hparams]
    omega
  · have hsum := (hholds.early (.inr hstage)).2
    exact sum64_eq (by omega)
  · exact sum64_eq (by omega)

end Request

end FastCgi
