import FastCgi.Bytes
import FastCgi.ProtocolError

/-!
# Records

Everything a peer and a server say to each other is cut into records. A record is written as a
header of eight bytes, its content, and padding:

    version  type  id (2)  content length (2)  padding length  reserved

The content of a record has at most 65535 bytes, since its length has two. A record made by
`Record.new` is padded to a multiple of eight bytes (`eight_dvd_encodedLength`).
-/

namespace FastCgi

/-- The only version of the protocol. -/
def version1 : UInt8 := 1

/-- The size of a header. -/
def headerLength : Nat := 8

/-- The largest content of a record. -/
def maxContentLength : Nat := 65535

/-- A record can hold something, so that a stream can be cut into records. -/
theorem maxContentLength_pos : 0 < maxContentLength := Nat.zero_lt_succ _

/-- The id of management records, which belong to no request. -/
def managementId : UInt16 := 0

/-- The padding that brings a content to a multiple of eight bytes. -/
def paddingFor (contentLength : Nat) : UInt8 := UInt8.ofNat ((8 - contentLength % 8) % 8)

/-- The padding is what is missing to the next multiple of eight. -/
theorem toNat_paddingFor (n : Nat) : (paddingFor n).toNat = (8 - n % 8) % 8 := by
  simp only [paddingFor, UInt8.toNat_ofNat']
  omega

/-! ## Headers -/

/-- The fields of a header. -/
structure Header where
  version : UInt8
  type : RecordType
  id : UInt16
  contentLength : UInt16
  paddingLength : UInt8
deriving DecidableEq, Repr, Inhabited

namespace Header

/-- The eight bytes of a header. -/
def toBytes (header : Header) : Bytes :=
  [header.version, header.type.code] ++ BigEndian16.toBytes header.id ++
    BigEndian16.toBytes header.contentLength ++ [header.paddingLength, 0]

/-- Reads a header from its bytes, the last of which is reserved and not looked at. Only version 1
is read. -/
def ofFields (version type id₀ id₁ length₀ length₁ padding : UInt8) :
    Except ProtocolError Header :=
  if version = version1 then
    .ok ⟨version, .ofCode type, BigEndian16.ofBytes id₀ id₁, BigEndian16.ofBytes length₀ length₁,
      padding⟩
  else .error (.unsupportedVersion version)

/-- The number of content and padding bytes after a header. -/
def payloadLength (header : Header) : Nat :=
  header.contentLength.toNat + header.paddingLength.toNat

/-- The size of the whole record. -/
def frameLength (header : Header) : Nat := headerLength + header.payloadLength

@[simp]
theorem length_toBytes (header : Header) : header.toBytes.length = headerLength := rfl

end Header

/-! ## Records -/

/-- A record. -/
structure Record where
  version : UInt8
  type : RecordType
  id : UInt16
  content : Bytes
  paddingLength : UInt8
deriving DecidableEq, Repr, Inhabited

namespace Record

/-- The record of a content, with the least padding to a multiple of eight bytes. -/
def new (type : RecordType) (id : UInt16) (content : Bytes) : Except ProtocolError Record :=
  if content.length ≤ maxContentLength then
    .ok ⟨version1, type, id, content, paddingFor content.length⟩
  else .error (.contentTooLong content.length)

/-- The record without content, which ends a stream. -/
def endOfStream (type : RecordType) (id : UInt16) : Record := ⟨version1, type, id, [], 0⟩

/-- Whether a record has no content. -/
def isEmpty (record : Record) : Bool := record.content.isEmpty

/-- Whether a record belongs to no request. -/
def isManagement (record : Record) : Bool := record.id == managementId

/-- The header of a record. A content too long for a record wraps around in it. -/
def header (record : Record) : Header :=
  ⟨record.version, record.type, record.id, UInt16.ofNat record.content.length,
    record.paddingLength⟩

/-- The size that a record's header announces. -/
def encodedLength (record : Record) : Nat := record.header.frameLength

/-- The bytes of a record. -/
def encode (record : Record) : Bytes :=
  record.header.toBytes ++ (record.content ++ List.replicate record.paddingLength.toNat 0)

/-- The bytes of several records, one after another. -/
def encodeAll (records : List Record) : Bytes := records.flatMap encode

@[simp]
theorem encodeAll_nil : encodeAll [] = [] := rfl

@[simp]
theorem encodeAll_cons (record : Record) (records : List Record) :
    encodeAll (record :: records) = record.encode ++ encodeAll records := rfl

@[simp]
theorem encodeAll_append (records records' : List Record) :
    encodeAll (records ++ records') = encodeAll records ++ encodeAll records' := by
  simp [encodeAll]

/-- A record takes up as many bytes as its header announces, if it can hold its content. -/
theorem length_encode {record : Record} (h : record.content.length ≤ maxContentLength) :
    record.encode.length = record.encodedLength := by
  have : record.content.length < 65536 := Nat.lt_succ_of_le h
  simp only [encode, encodedLength, header, Header.frameLength, Header.payloadLength,
    List.length_append, Header.length_toBytes, List.length_replicate, UInt16.toNat_ofNat']
  omega

/-- A record is made of any content that it can hold, and of no other. -/
theorem new_eq_ok_iff {type : RecordType} {id : UInt16} {content : Bytes} {record : Record} :
    new type id content = .ok record ↔
      content.length ≤ maxContentLength ∧
        record = ⟨version1, type, id, content, paddingFor content.length⟩ := by
  unfold new
  split
  next h => simp [h, eq_comm]
  next h => simp [h]

/-- A record that is made of a content takes up a multiple of eight bytes. -/
theorem eight_dvd_encodedLength {type : RecordType} {id : UInt16} {content : Bytes}
    {record : Record} (h : new type id content = .ok record) : 8 ∣ record.encodedLength := by
  obtain ⟨hlen, rfl⟩ := new_eq_ok_iff.1 h
  have : content.length < 65536 := Nat.lt_succ_of_le hlen
  simp only [encodedLength, header, Header.frameLength, Header.payloadLength, headerLength,
    UInt16.toNat_ofNat', toNat_paddingFor]
  omega

end Record

end FastCgi
