/-!
# Record types

The byte that says what a record is for. Eleven values have a name; every other value is a type of
its own, which keeps its code. `ofCode_code` says which types a byte can be read as: all but an
`other` that hides a named code.
-/

namespace FastCgi

/-- What a record is for. -/
inductive RecordType where
  | beginRequest
  | abortRequest
  | endRequest
  | params
  | stdin
  | stdout
  | stderr
  | data
  | getValues
  | getValuesResult
  | unknownType
  /-- A type without a name, by its code. -/
  | other (code : UInt8)
deriving DecidableEq, Repr, Inhabited

namespace RecordType

/-- The byte that stands for a type on the wire. -/
def code : RecordType → UInt8
  | beginRequest => 1
  | abortRequest => 2
  | endRequest => 3
  | params => 4
  | stdin => 5
  | stdout => 6
  | stderr => 7
  | data => 8
  | getValues => 9
  | getValuesResult => 10
  | unknownType => 11
  | other code => code

/-- The type that a byte stands for. -/
def ofCode (code : UInt8) : RecordType :=
  if code = 1 then beginRequest
  else if code = 2 then abortRequest
  else if code = 3 then endRequest
  else if code = 4 then params
  else if code = 5 then stdin
  else if code = 6 then stdout
  else if code = 7 then stderr
  else if code = 8 then data
  else if code = 9 then getValues
  else if code = 10 then getValuesResult
  else if code = 11 then unknownType
  else other code

/-- The types a byte can be read as: an `other` has a code without a name. -/
def Readable : RecordType → Prop
  | other code => code = 0 ∨ 11 < code
  | _ => True

instance : DecidablePred Readable
  | other code => inferInstanceAs (Decidable (code = 0 ∨ 11 < code))
  | beginRequest | abortRequest | endRequest | params | stdin | stdout | stderr | data | getValues
  | getValuesResult | unknownType => isTrue trivial

/-- Every byte is the code of the type that it stands for. -/
@[simp]
theorem code_ofCode (code : UInt8) : (ofCode code).code = code := by
  unfold ofCode
  iterate 11
    refine iteInduction (motive := fun type : RecordType => type.code = code) (·.symm) fun _ => ?_
  rfl

/-- A type that can be read is read back from its code. One with a code without a name must not have
the code of another type. -/
theorem ofCode_code {type : RecordType} (h : type.Readable) : ofCode type.code = type := by
  cases type with
  | other code =>
    have hne : ∀ n : UInt8, 1 ≤ n → n ≤ 11 → code ≠ n := by
      rintro n h1 h2 rfl
      rcases h with rfl | h
      · exact absurd h1 (by decide)
      · exact absurd h2 (UInt8.not_le.2 h)
    simp [ofCode, RecordType.code, hne]
  | _ => rfl

/-- A type that was read off a byte can be read. -/
theorem readable_ofCode (code : UInt8) : (ofCode code).Readable := by
  unfold ofCode
  iterate 11
    refine iteInduction (motive := Readable) (fun _ => trivial) fun _ => ?_
  show code = 0 ∨ 11 < code
  simp only [← UInt8.toNat_inj, UInt8.lt_iff_toNat_lt, UInt8.reduceToNat] at *
  omega

/-- The name of a type in messages. -/
def name : RecordType → String
  | beginRequest => "BeginRequest"
  | abortRequest => "AbortRequest"
  | endRequest => "EndRequest"
  | params => "Params"
  | stdin => "Stdin"
  | stdout => "Stdout"
  | stderr => "Stderr"
  | data => "Data"
  | getValues => "GetValues"
  | getValuesResult => "GetValuesResult"
  | unknownType => "UnknownType"
  | other code => s!"Other({code})"

end RecordType

end FastCgi
