import FastCgi.Proofs.Texts

/-!
# Pairs from a stream in pieces

A decoder that is fed a stream in pieces holds what is left of the stream behind its complete pairs
(`Decoder.after`), and what a piece gives are the pairs that are complete with it and were not before
(`Decoder.feed_after`). Of pairs that were written, those are complete within some bytes at the front
whose last byte is among these (`complete_take_encode`). So feeding the pieces gives back the pairs,
each with the piece that brings its last byte (`feedEach_encode`).
-/

namespace FastCgi.NameValue

/-- The pairs that are complete within a byte string. -/
def complete (bytes : Bytes) : List (String × String) := (items bytes).1.map texts

@[simp]
theorem complete_nil : complete [] = [] := by
  rw [complete, items_of_none rfl]
  rfl

namespace Decoder

/-! ## Feeding -/

/-- Takes in several pieces, and gives for each of them the pairs that it completes. -/
def feedEach (decoder : Decoder) : List Bytes → List (List (String × String)) × Decoder
  | [] => ([], decoder)
  | piece :: later =>
    let (pairs, next) := decoder.feed piece
    let (fed, last) := next.feedEach later
    (pairs :: fed, last)

/-- The decoder that has been fed some bytes. -/
def after (bytes : Bytes) : Decoder := holding (items bytes).2

/-- A decoder that has been fed nothing is new. -/
theorem after_nil : after [] = new := by
  rw [after, items_of_none rfl]
  rfl

/-- A decoder depends on the bytes that it has been fed alone: one more piece gives the pairs that
are complete with it and were not without. -/
theorem feed_after (bytes piece : Bytes) :
    complete (bytes ++ piece) = complete bytes ++ ((after bytes).feed piece).1 ∧
      ((after bytes).feed piece).2 = after (bytes ++ piece) := by
  rw [feed_eq, after, pending_holding, complete, complete, after, items_append, List.map_append]
  exact ⟨rfl, rfl⟩

/-- The same goes for several pieces, by induction on them. -/
theorem feedEach_after (bytes : Bytes) (pieces : List Bytes) :
    complete (bytes ++ pieces.flatten) =
        complete bytes ++ ((after bytes).feedEach pieces).1.flatten ∧
      ((after bytes).feedEach pieces).2 = after (bytes ++ pieces.flatten) := by
  induction pieces generalizing bytes with
  | nil => simp [feedEach]
  | cons piece later ih =>
    obtain ⟨hpairs, hnext⟩ := feed_after bytes piece
    obtain ⟨hfed, hlast⟩ := ih (bytes ++ piece)
    rw [List.append_assoc] at hfed hlast
    simp only [feedEach, hnext, List.flatten_cons]
    exact ⟨by rw [hfed, hpairs, List.append_assoc], hlast⟩

/-- Several pieces give the pairs that are complete within all of them together. -/
theorem feedEach_new (pieces : List Bytes) :
    (new.feedEach pieces).1.flatten = complete pieces.flatten ∧
      (new.feedEach pieces).2 = after pieces.flatten := by
  obtain ⟨hfed, hlast⟩ := feedEach_after [] pieces
  rw [complete_nil, List.nil_append, List.nil_append, after_nil] at hfed
  rw [List.nil_append, after_nil] at hlast
  exact ⟨hfed.symm, hlast⟩

/-- What one of several pieces gives is what it gives behind those before it. -/
theorem getElem?_feedEach (bytes : Bytes) (front : List Bytes) (piece : Bytes) (later : List Bytes) :
    ((after bytes).feedEach (front ++ piece :: later)).1[front.length]? =
      some ((after (bytes ++ front.flatten)).feed piece).1 := by
  induction front generalizing bytes with
  | nil => simp [feedEach]
  | cons first front ih =>
    obtain ⟨-, hnext⟩ := feed_after bytes first
    simp only [List.cons_append, feedEach, hnext, List.length_cons, List.getElem?_cons_succ, ih,
      List.flatten_cons, List.append_assoc]

/-- A stream can be ended if nothing is left of it behind its complete pairs. -/
theorem finish_after (bytes : Bytes) :
    (after bytes).finish =
      if (items bytes).2 = [] then .ok ()
      else .error (.truncatedNameValue (items bytes).2.length) := by
  simp only [finish, after, pending_holding, List.isEmpty_iff]

end Decoder

/-! ## Pairs and their places -/

/-- Pairs that are written behind `start` bytes, each with the number of bytes up to its last one. -/
def placed (start : Nat) : List (String × String) → List ((String × String) × Nat)
  | [] => []
  | pair :: pairs =>
    let stop := start + (encode [pair]).length
    (pair, stop) :: placed stop pairs

/-- Pairs are written one after another. -/
theorem encode_cons (pair : String × String) (pairs : List (String × String)) :
    encode (pair :: pairs) = encode [pair] ++ encode pairs := by
  simp [encode]

/-- The first pair is the first to come to its end. -/
theorem le_of_mem_placed {start : Nat} {pair : String × String} {pairs : List (String × String)}
    {place : (String × String) × Nat} (h : place ∈ placed start (pair :: pairs)) :
    start + (encode [pair]).length ≤ place.2 := by
  induction pairs generalizing start pair with
  | nil =>
    obtain rfl := List.mem_singleton.1 h
    exact Nat.le_refl _
  | cons next pairs ih =>
    rcases List.mem_cons.1 h with rfl | h
    · exact Nat.le_refl _
    · exact Nat.le_trans (Nat.le_add_right ..) (ih h)

/-- No pair comes to its end within less than the first one. -/
theorem filter_placed_of_lt {start stop : Nat} {pair : String × String}
    (h : stop < start + (encode [pair]).length) (pairs : List (String × String)) :
    (placed start (pair :: pairs)).filter (·.2 ≤ stop) = [] := by
  refine List.filter_eq_nil_iff.2 fun place hplace => ?_
  have := le_of_mem_placed hplace
  simp only [decide_eq_true_eq]
  omega

/-- The pairs up to one place are those up to an earlier one, and those behind that. -/
theorem filter_placed {start earlier stop : Nat} (h : earlier ≤ stop)
    (pairs : List (String × String)) :
    (placed start pairs).filter (·.2 ≤ stop) =
      (placed start pairs).filter (·.2 ≤ earlier) ++
        (placed start pairs).filter fun place => earlier < place.2 ∧ place.2 ≤ stop := by
  induction pairs generalizing start with
  | nil => rfl
  | cons pair pairs ih =>
    rcases Nat.lt_or_ge earlier (start + (encode [pair]).length) with hlater | hearlier
    · rw [filter_placed_of_lt hlater, List.nil_append]
      refine List.filter_congr fun place hplace => ?_
      have hbehind : earlier < place.2 := Nat.lt_of_lt_of_le hlater (le_of_mem_placed hplace)
      simp only [hbehind, true_and]
    · have hstop := Nat.le_trans hearlier h
      simp only [placed]
      rw [List.filter_cons_of_pos (by simpa using hstop),
        List.filter_cons_of_pos (by simpa using hearlier),
        List.filter_cons_of_neg (by simpa using fun hlt => absurd hlt (Nat.not_lt.2 hearlier)), ih]
      rfl

/-! ## Reading back what was written -/

section

variable {pair : String × String} (h : Short pair)

include h

/-- A pair that was written is read back, whatever follows it. -/
theorem item?_encode_append (rest : Bytes) :
    item? (encode [pair] ++ rest) = some (bytes pair, rest) := by
  have hencode : encode [pair] = encodePair (bytes pair).1 (bytes pair).2 := by
    simp [encode, bytes]
  rw [hencode, item?_encodePair h.1 h.2]

/-- The front of a pair that was written is no pair. -/
theorem item?_take_encode {n : Nat} (hn : n < (encode [pair]).length) :
    item? ((encode [pair]).take n) = none := by
  have hwhole := item?_encode_append h []
  rw [List.append_nil] at hwhole
  cases hfront : item? ((encode [pair]).take n) with
  | none => rfl
  | some read =>
    have hmore := item?_append hfront ((encode [pair]).drop n)
    rw [List.take_append_drop, hwhole] at hmore
    have hrest : read.2 ++ (encode [pair]).drop n = [] :=
      (congrArg Prod.snd (Option.some.inj hmore)).symm
    have hdrop := List.drop_eq_nil_iff.1 (List.append_eq_nil_iff.1 hrest).2
    exact absurd hn (Nat.not_lt.2 hdrop)

end

/-- Within the front of some pairs that were written, those are complete that have their last byte
there. -/
theorem complete_take_encode {pairs : List (String × String)} (h : ∀ pair ∈ pairs, Short pair)
    (start n : Nat) :
    complete ((encode pairs).take n) =
      ((placed start pairs).filter (·.2 ≤ start + n)).map Prod.fst := by
  induction pairs generalizing start n with
  | nil =>
    have hnil : (encode []).take n = [] := List.take_nil
    rw [hnil, complete_nil]
    rfl
  | cons pair pairs ih =>
    have hpair := h pair (.head _)
    rcases Nat.lt_or_ge n (encode [pair]).length with hcut | hwhole
    · rw [filter_placed_of_lt (by omega), encode_cons, List.take_append_of_le_length
        (Nat.le_of_lt hcut), complete, items_of_none (item?_take_encode hpair hcut)]
      rfl
    · have hrest := ih (fun p hp => h p (.tail _ hp)) (start + (encode [pair]).length)
        (n - (encode [pair]).length)
      have hstop : start + (encode [pair]).length + (n - (encode [pair]).length) = start + n := by
        omega
      rw [hstop] at hrest
      rw [encode_cons, List.take_append, List.take_of_length_le hwhole, complete,
        items_of_some (item?_encode_append hpair _), List.map_cons, texts_bytes, ← complete, hrest]
      simp only [placed]
      rw [List.filter_cons_of_pos (by simp; omega), List.map_cons]

/-- All pairs that were written are complete within their bytes. -/
theorem complete_encode {pairs : List (String × String)} (h : ∀ pair ∈ pairs, Short pair) :
    complete (encode pairs) = pairs :=
  (decode_eq_ok_iff.1 (decode_encode h)).2.symm

/-- A piece of the bytes of some pairs gives the pairs whose last byte it brings. -/
theorem feed_of_encode {pairs : List (String × String)} (h : ∀ pair ∈ pairs, Short pair)
    {front piece later : Bytes} (hwritten : encode pairs = front ++ (piece ++ later)) :
    ((Decoder.after front).feed piece).1 = ((placed 0 pairs).filter fun place =>
      front.length < place.2 ∧ place.2 ≤ front.length + piece.length).map Prod.fst := by
  -- What was complete before the piece is taken away from what is complete with it.
  have hfront : (encode pairs).take front.length = front := by
    rw [hwritten, List.take_left]
  have hwith : (encode pairs).take (front.length + piece.length) = front ++ piece := by
    rw [hwritten, ← List.append_assoc, ← List.length_append, List.take_left]
  have hearlier := complete_take_encode h 0 front.length
  have hall := complete_take_encode h 0 (front.length + piece.length)
  rw [hfront, Nat.zero_add] at hearlier
  rw [hwith, (Decoder.feed_after ..).1, Nat.zero_add,
    filter_placed (Nat.le_add_right front.length piece.length), List.map_append, hearlier] at hall
  exact List.append_cancel_left hall

/-- **Pairs are read back from a stream in pieces.** However the bytes of some pairs are cut, the
pieces give these pairs in order, and nothing is left when the stream ends. Each piece gives the
pairs whose last byte it brings. -/
theorem feedEach_encode {pairs : List (String × String)} (hpairs : ∀ pair ∈ pairs, Short pair)
    {pieces : List Bytes} (hpieces : pieces.flatten = encode pairs) :
    let fed := Decoder.new.feedEach pieces
    fed.1.flatten = pairs ∧ fed.2.finish = .ok () ∧
      ∀ front piece later, pieces = front ++ piece :: later →
        let before := front.flatten.length
        fed.1[front.length]? = some (((placed 0 pairs).filter fun place =>
          before < place.2 ∧ place.2 ≤ before + piece.length).map Prod.fst) := by
  obtain ⟨hfed, hlast⟩ := Decoder.feedEach_new pieces
  refine ⟨?_, ?_, ?_⟩
  · rw [hfed, hpieces, complete_encode hpairs]
  · rw [hlast, Decoder.finish_after, hpieces, items_encode hpairs, if_pos rfl]
  · rintro front piece later rfl
    have hpiece := Decoder.getElem?_feedEach [] front piece later
    rw [Decoder.after_nil, List.nil_append] at hpiece
    rw [List.flatten_append, List.flatten_cons] at hpieces
    rw [hpiece, feed_of_encode hpairs hpieces.symm]

/-- Two empty pairs, and between them one of a letter of two bytes and a value with a long length. One
cut goes through that length, and one through the letter. -/
theorem feedEach_encode_accented :
    let letter := ("\u00e9", String.ofList (.replicate 128 'x'))
    let pairs := [("", ""), letter, ("", "")]
    let wire := encode pairs
    let pieces := [wire.take 5, (wire.drop 5).take 3, [], wire.drop 8]
    let fed := Decoder.new.feedEach pieces
    (∀ pair ∈ pairs, Short pair) ∧ pieces.flatten = wire ∧ fed.1.flatten = pairs ∧
      fed.2.finish = .ok () ∧ fed.1[0]? = some [("", "")] ∧
      fed.1[3]? = some [letter, ("", "")] := by
  intro letter pairs wire pieces fed
  have hpairs : ∀ pair ∈ pairs, Short pair := by
    unfold Short
    decide +kernel
  have hpieces : pieces.flatten = wire := by decide +kernel
  obtain ⟨hfed, hfinish, heach⟩ := feedEach_encode hpairs hpieces
  have hfirst := heach [] (wire.take 5) _ rfl
  have hlast := heach [wire.take 5, (wire.drop 5).take 3, []] (wire.drop 8) [] rfl
  refine ⟨hpairs, hpieces, hfed, hfinish, hfirst.trans ?_, hlast.trans ?_⟩
  · decide +kernel
  · decide +kernel

end FastCgi.NameValue
