import FastCgi.Proofs.Feeding

/-!
# The grammar of name/value streams

An `Item` is a pair as any peer may write it: each of its two lengths in one byte, if it is below
128, or in four bytes of which the first has its top bit set. What is read as a pair is an item
(`item?_eq_some_iff`), and an item is read back whatever follows it, so no two items begin in the
same way (`Item.append_inj`) and a byte string falls into items and a rest that begins with none in
one way only (`flatMap_bytes_inj`). That is what a decoder gives of any stream, cut anywhere
(`feedEach_items`).
-/

namespace FastCgi.NameValue

/-! ## Lengths -/

/-- A length as it is written. Four bytes may also be given to a length that fits into one. -/
inductive WrittenLength where
  | short (n : Fin 128)
  | long (n : Fin 0x80000000)

namespace WrittenLength

/-- The length itself. -/
def value : WrittenLength → Nat
  | short n | long n => n

/-- The bytes of a length: one byte, or the big-endian form with the top bit of its 32 set. -/
def bytes : WrittenLength → Bytes
  | short n => [UInt8.ofNat n]
  | long n => BigEndian32.toBytes (UInt32.ofNat (0x80000000 + n))

/-- A length is read back, whichever form it has and whatever follows it. -/
theorem length?_bytes (length : WrittenLength) (rest : Bytes) :
    length? (length.bytes ++ rest) = some (length.value, rest) := by
  cases length with
  | short n =>
    have hbyte : (UInt8.ofNat n).toNat = n := by
      rw [UInt8.toNat_ofNat']
      omega
    have hlt : UInt8.ofNat n < 128 := by
      rw [UInt8.lt_iff_toNat_lt, hbyte]
      exact n.isLt
    simp only [bytes, List.cons_append, List.nil_append, length?, hlt, if_true, hbyte, value]
  | long n =>
    have hn := n.isLt
    have hword : (UInt32.ofNat (0x80000000 + n)).toNat = 0x80000000 + n := by
      rw [UInt32.toNat_ofNat']
      omega
    have hlt : ¬UInt8.ofNat ((0x80000000 + n) / 16777216) < 128 := fun hlt => by
      have := UInt8.lt_iff_toNat_lt.1 hlt
      simp only [UInt8.toNat_ofNat', UInt8.reduceToNat] at this
      omega
    simp only [bytes, BigEndian32.toBytes, hword, List.cons_append, List.nil_append, length?, hlt,
      if_false, UInt8.toNat_ofNat', UInt32.toNat_toUInt8, value, Option.some.injEq,
      Prod.mk.injEq, and_true]
    omega

/-- What is read as a length stands there in one of its two forms. -/
theorem exists_bytes_of_length? {bytes rest : Bytes} {n : Nat}
    (h : length? bytes = some (n, rest)) :
    ∃ length : WrittenLength, length.value = n ∧ bytes = length.bytes ++ rest := by
  unfold length? at h
  split at h
  next => cases h
  next b₀ tail =>
    split at h
    next hshort =>
      cases h
      refine ⟨.short ⟨b₀.toNat, UInt8.lt_iff_toNat_lt.1 hshort⟩, rfl, ?_⟩
      simp [WrittenLength.bytes]
    next hlong =>
      split at h
      next b₁ b₂ b₃ rest' =>
        cases h
        have htop : 128 ≤ b₀.toNat := Nat.not_lt.1 fun hlt => hlong (UInt8.lt_iff_toNat_lt.2 hlt)
        have := b₀.toNat_lt
        have := b₁.toNat_lt
        have := b₂.toNat_lt
        have := b₃.toNat_lt
        refine ⟨.long ⟨_, ?_⟩, rfl, ?_⟩
        · omega
        · have hword : UInt32.ofNat (0x80000000 +
              (((b₀.toNat % 128 * 256 + b₁.toNat) * 256 + b₂.toNat) * 256 + b₃.toNat)) =
              BigEndian32.ofBytes b₀ b₁ b₂ b₃ := by
            refine congrArg UInt32.ofNat ?_
            omega
          simp only [WrittenLength.bytes, hword, BigEndian32.toBytes_ofBytes, List.cons_append,
            List.nil_append]
      next => cases h

/-- No two lengths are written so that they begin in the same way. -/
theorem append_inj {length length' : WrittenLength} {rest rest' : Bytes}
    (h : length.bytes ++ rest = length'.bytes ++ rest') : length = length' ∧ rest = rest' := by
  have hread := length'.length?_bytes rest'
  rw [← h, length?_bytes] at hread
  obtain ⟨hvalue, rfl⟩ := Prod.mk.inj (Option.some.inj hread)
  have hbytes := congrArg List.length (List.append_cancel_right h)
  refine ⟨?_, rfl⟩
  cases length <;> cases length'
  case short.short => exact congrArg short (Fin.ext hvalue)
  case long.long => exact congrArg long (Fin.ext hvalue)
  all_goals exact absurd hbytes (by simp [bytes])

end WrittenLength

/-! ## Items -/

/-- A pair as it is written. -/
structure Item where
  nameLength : WrittenLength
  valueLength : WrittenLength
  name : Bytes
  value : Bytes
  length_name : name.length = nameLength.value
  length_value : value.length = valueLength.value

namespace Item

/-- The bytes of an item: its two lengths, its name and its value. -/
def bytes (item : Item) : Bytes :=
  item.nameLength.bytes ++ (item.valueLength.bytes ++ (item.name ++ item.value))

/-- An item is read back, whatever follows it. -/
theorem item?_bytes (item : Item) (rest : Bytes) :
    item? (item.bytes ++ rest) = some ((item.name, item.value), rest) := by
  simp only [item?, bytes, List.append_assoc, WrittenLength.length?_bytes, ← item.length_name,
    ← item.length_value]
  rw [if_pos (by simp)]
  simp

/-- No two items are written so that they begin in the same way. -/
theorem append_inj {item item' : Item} {rest rest' : Bytes}
    (h : item.bytes ++ rest = item'.bytes ++ rest') : item = item' ∧ rest = rest' := by
  have hread := item'.item?_bytes rest'
  rw [← h, item?_bytes] at hread
  obtain ⟨⟨hname, hvalue⟩, hrest⟩ : (item.name = item'.name ∧ item.value = item'.value) ∧
      rest = rest' := by simpa using hread
  simp only [bytes, List.append_assoc] at h
  obtain ⟨hnameLength, htail⟩ := WrittenLength.append_inj h
  obtain ⟨hvalueLength, -⟩ := WrittenLength.append_inj htail
  refine ⟨?_, hrest⟩
  cases item
  cases item'
  simp only at hname hvalue hnameLength hvalueLength
  subst hname hvalue hnameLength hvalueLength
  rfl

end Item

/-- What is read off the front of a byte string as a pair is an item there. -/
theorem item?_eq_some_iff {bytes rest : Bytes} {read : Bytes × Bytes} :
    item? bytes = some (read, rest) ↔
      ∃ item : Item, (item.name, item.value) = read ∧ bytes = item.bytes ++ rest := by
  constructor
  · intro h
    unfold item? at h
    split at h
    next => cases h
    next n afterName hname =>
      split at h
      next => cases h
      next m afterValue hvalue =>
        obtain ⟨nameLength, rfl, rfl⟩ := WrittenLength.exists_bytes_of_length? hname
        obtain ⟨valueLength, rfl, rfl⟩ := WrittenLength.exists_bytes_of_length? hvalue
        split at h
        next hfits =>
          cases h
          have hfits := Bytes.atLeast_iff.1 hfits
          refine ⟨⟨nameLength, valueLength, afterValue.take nameLength.value,
            (afterValue.drop nameLength.value).take valueLength.value, ?_, ?_⟩, rfl, ?_⟩
          · rw [List.length_take]
            omega
          · rw [List.length_take, List.length_drop]
            omega
          · simp only [Item.bytes, List.append_assoc, List.take_append_drop]
        next => cases h
  · rintro ⟨item, rfl, rfl⟩
    exact item.item?_bytes rest

/-! ## Items and a rest -/

/-- A byte string falls into items and a rest that begins with none in one way only. -/
theorem flatMap_bytes_inj {its its' : List Item} {left left' : Bytes}
    (h : its.flatMap Item.bytes ++ left = its'.flatMap Item.bytes ++ left')
    (hleft : item? left = none) (hleft' : item? left' = none) : its = its' ∧ left = left' := by
  induction its generalizing its' with
  | nil =>
    cases its' with
    | nil => exact ⟨rfl, h⟩
    | cons item' its' =>
      rw [List.flatMap_nil, List.nil_append, List.flatMap_cons, List.append_assoc] at h
      rw [h, item'.item?_bytes] at hleft
      cases hleft
  | cons item its ih =>
    rw [List.flatMap_cons, List.append_assoc] at h
    cases its' with
    | nil =>
      rw [List.flatMap_nil, List.nil_append] at h
      rw [← h, item.item?_bytes] at hleft'
      cases hleft'
    | cons item' its' =>
      rw [List.flatMap_cons, List.append_assoc] at h
      obtain ⟨rfl, hrest⟩ := Item.append_inj h
      obtain ⟨rfl, rfl⟩ := ih hrest
      exact ⟨rfl, rfl⟩

/-- The pairs of a byte string are read off items at its front, and what is left begins with none. -/
theorem exists_items (bytes : Bytes) :
    ∃ its : List Item, its.flatMap Item.bytes ++ (items bytes).2 = bytes ∧
      (items bytes).1 = its.map (fun item => (item.name, item.value)) ∧
      item? (items bytes).2 = none := by
  induction bytes using items.induct with
  | case1 bytes h =>
    rw [items_of_none h]
    exact ⟨[], rfl, rfl, h⟩
  | case2 bytes read rest h _ ih =>
    obtain ⟨item, rfl, rfl⟩ := item?_eq_some_iff.1 h
    obtain ⟨its, hrest, hread, hleft⟩ := ih
    rw [items_of_some h]
    refine ⟨item :: its, ?_, ?_, hleft⟩
    · rw [List.flatMap_cons, List.append_assoc, hrest]
    · rw [List.map_cons, hread]

/-- Nothing is left of a byte string behind its pairs if and only if it is made up of items. -/
theorem left_eq_nil_iff {bytes : Bytes} :
    (items bytes).2 = [] ↔ ∃ its : List Item, its.flatMap Item.bytes = bytes := by
  obtain ⟨its, hits, -, hleft⟩ := exists_items bytes
  refine ⟨fun hnil => ⟨its, by rwa [hnil, List.append_nil] at hits⟩, ?_⟩
  rintro ⟨its', hits'⟩
  have hends : its'.flatMap Item.bytes ++ [] = its.flatMap Item.bytes ++ (items bytes).2 := by
    rw [List.append_nil, hits, hits']
  exact (flatMap_bytes_inj hends rfl hleft).2.symm

/-- Of all the items that a byte string can begin with, those that are read are the most. -/
theorem isPrefix_of_item?_eq_none {its its' : List Item} {left left' : Bytes}
    (h : its'.flatMap Item.bytes ++ left' = its.flatMap Item.bytes ++ left)
    (hleft : item? left = none) : its' <+: its := by
  obtain ⟨more, hmore, -, hend⟩ := exists_items left'
  rw [← hmore, ← List.append_assoc, ← List.flatMap_append] at h
  exact ⟨more, (flatMap_bytes_inj h hend hleft).1⟩

/-! ## Any stream -/

/-- **A decoder accepts exactly its grammar.** What it gives of a stream, and whether the stream can be
ended, depends on the bytes alone, not on how they are cut. The stream can be ended if and only if it
is a concatenation of items, which it is in one way only. In any case the pairs are the texts of the
longest sequence of items at its front, and what is left behind them is what the stream ends too
early with. -/
theorem feedEach_items (pieces : List Bytes) :
    let bytes := pieces.flatten
    let fed := Decoder.new.feedEach pieces
    (fed.2.finish.map fun _ => fed.1.flatten) = decode bytes ∧
      (∀ pieces' : List Bytes, pieces'.flatten = bytes →
        (Decoder.new.feedEach pieces').1.flatten = fed.1.flatten ∧
          (Decoder.new.feedEach pieces').2.finish = fed.2.finish) ∧
      (fed.2.finish = .ok () ↔ ∃ its : List Item, its.flatMap Item.bytes = bytes) ∧
      (∀ its its' : List Item, its.flatMap Item.bytes = its'.flatMap Item.bytes → its = its') ∧
      ∃ (its : List Item) (left : Bytes), its.flatMap Item.bytes ++ left = bytes ∧
        (∀ its' left', its'.flatMap Item.bytes ++ left' = bytes → its' <+: its) ∧
        fed.1.flatten = its.map (fun item => (Utf8.decode item.name, Utf8.decode item.value)) ∧
        fed.2.finish = if left = [] then .ok () else .error (.truncatedNameValue left.length) := by
  intro bytes fed
  obtain ⟨hfed, hlast⟩ := Decoder.feedEach_new pieces
  have hfinish := Decoder.finish_after bytes
  rw [← hlast] at hfinish
  obtain ⟨its, hits, hread, hleft⟩ := exists_items bytes
  refine ⟨?_, fun pieces' hpieces' => ?_, ?_, fun its its' h => ?_, its, (items bytes).2, hits,
    fun its' left' h => ?_, ?_, hfinish⟩
  · rw [hfinish, decode_eq, hfed]
    split <;> rfl
  · obtain ⟨hfed', hlast'⟩ := Decoder.feedEach_new pieces'
    rw [hpieces'] at hfed' hlast'
    exact ⟨hfed'.trans hfed.symm, congrArg Decoder.finish (hlast'.trans hlast.symm)⟩
  · rw [hfinish, ← left_eq_nil_iff]
    split
    next hnil => exact ⟨fun _ => hnil, fun _ => rfl⟩
    next hne => exact ⟨nofun, fun hnil => absurd hnil hne⟩
  · have hends : its.flatMap Item.bytes ++ [] = its'.flatMap Item.bytes ++ [] := by rw [h]
    exact (flatMap_bytes_inj hends rfl rfl).1
  · exact isPrefix_of_item?_eq_none (h.trans hits.symm) hleft
  · rw [hfed, complete, hread, List.map_map]
    rfl

end FastCgi.NameValue
