import Hxrpc.Lib.ProtoWire
import Hxrpc.Types
import Mathlib.Tactic.SplitIfs

/-!
# The protobuf runtime

Protobuf is not part of the program: its headers and messages enter as records of functions, with
the documented behaviour that the program relies on as named laws.  The last sections instantiate
both records with the proto3 wire format of the framework headers and of messages made of two
`bytes` fields.
-/

namespace Hxrpc

/-- The request header message. -/
structure RpcHeader where
  /-- Field 1. -/
  requestId : UInt64
  /-- Field 2. -/
  serviceName : Bytes
  /-- Field 3. -/
  methodName : Bytes
  /-- Field 4. -/
  argsSize : UInt32
  /-- Field 5. -/
  metaSize : UInt32
  deriving DecidableEq

/-- The response header message. -/
structure RpcResponseHeader where
  /-- Field 1. -/
  requestId : UInt64
  /-- Field 2. -/
  statusCode : Int32
  /-- Field 3. -/
  errorText : Bytes
  /-- Field 4. -/
  payloadSize : UInt32
  deriving DecidableEq

/-- Serialization and parsing of the two framework headers. -/
structure HeaderCodec where
  /-- `RpcHeader::SerializeToString`. -/
  serializeRequest : RpcHeader → Option Bytes
  /-- `RpcHeader::ParseFromArray`. -/
  parseRequest : Bytes → Option RpcHeader
  /-- `RpcResponseHeader::SerializeToString`. -/
  serializeResponse : RpcResponseHeader → Option Bytes
  /-- `RpcResponseHeader::ParseFromArray`. -/
  parseResponse : Bytes → Option RpcResponseHeader

/-- What the framework relies on: parsing inverts serialization, a serialized header is shorter
than two gibibytes, and only that bound makes serialization fail. -/
structure HeaderCodec.Lawful (headers : HeaderCodec) : Prop where
  parse_serializeRequest : ∀ {header bytes},
    headers.serializeRequest header = some bytes → headers.parseRequest bytes = some header
  serializeRequest_length : ∀ {header bytes},
    headers.serializeRequest header = some bytes → bytes.length < 2 ^ 31
  parse_serializeResponse : ∀ {header bytes},
    headers.serializeResponse header = some bytes → headers.parseResponse bytes = some header
  serializeResponse_length : ∀ {header bytes},
    headers.serializeResponse header = some bytes → bytes.length < 2 ^ 31
  serializeResponse_total : ∀ header : RpcResponseHeader, header.errorText.length < 2 ^ 31 - 128 →
    ∃ bytes, headers.serializeResponse header = some bytes

/-- The part of the protobuf message interface that the framework calls. -/
structure MessageRuntime (Message : Type) where
  /-- `GetDescriptor()->full_name()`. -/
  fullName : Message → Bytes
  /-- `New()`: a default instance of the prototype's type. -/
  new : Message → Message
  /-- `Clear()`. -/
  clear : Message → Message
  /-- `SerializeToString`. -/
  serializeToString : Message → Option Bytes
  /-- `ParseFromArray` into an existing object: its contents afterwards, and success. -/
  parseFromArray : Message → Bytes → Message × Bool

/-- What the framework relies on for its objects: they keep their type, and clearing gives the
default instance of the type. -/
structure MessageRuntime.Lawful {Message : Type} (messages : MessageRuntime Message) : Prop where
  fullName_new : ∀ prototype, messages.fullName (messages.new prototype) =
    messages.fullName prototype
  clear_eq_new : ∀ {message prototype}, messages.fullName message = messages.fullName prototype →
    messages.clear message = messages.new prototype
  fullName_parse : ∀ message bytes,
    messages.fullName (messages.parseFromArray message bytes).1 = messages.fullName message

/-- Parsing a serialized message into any object of its type restores the message. -/
def MessageRuntime.RoundTrips {Message : Type} (messages : MessageRuntime Message) : Prop :=
  ∀ {message target bytes}, messages.serializeToString message = some bytes →
    messages.fullName target = messages.fullName message →
    messages.parseFromArray target bytes = (message, true)

theorem MessageRuntime.Lawful.fullName_clear {Message : Type} {messages : MessageRuntime Message}
    (lawful : messages.Lawful) (message : Message) :
    messages.fullName (messages.clear message) = messages.fullName message := by
  rw [lawful.clear_eq_new rfl, lawful.fullName_new]

namespace Proto3

open ProtoWire

/-! ## Framework headers -/

/-- A `uint64` or `uint32` field; zero is not written. -/
def unsignedField (number value : Nat) : List Record :=
  if value = 0 then [] else [.varint number value]

/-- A `bytes` field; the empty string is not written. -/
def bytesField (number : Nat) (value : Bytes) : List Record :=
  if value = [] then [] else [.delimited number value]

/-- An `int32` field; negative values are sign-extended to 64 bits. -/
def signedField (number : Nat) (value : Int32) : List Record :=
  unsignedField number (value.toInt % 2 ^ 64).toNat

/-- Serialization refuses messages of two gibibytes or more. -/
def serialize (records : List Record) : Option Bytes :=
  if (writeRecords records).length < 2 ^ 31 then some (writeRecords records) else none

/-- The records of a serialized message. -/
def parse (bytes : Bytes) : Option (List Record) :=
  readRecords bytes.length bytes

/-- A record numbered like a small message field. -/
def Small : Record → Prop
  | .varint number value => 0 < number ∧ number < 16 ∧ value < 2 ^ 64
  | .delimited number _ => 0 < number ∧ number < 16

theorem serialize_eq_some {records : List Record} {bytes : Bytes} :
    serialize records = some bytes ↔
      (writeRecords records).length < 2 ^ 31 ∧ writeRecords records = bytes := by
  simp [serialize]

theorem length_of_serialize {records : List Record} {bytes : Bytes}
    (serialized : serialize records = some bytes) : bytes.length < 2 ^ 31 := by
  obtain ⟨bounded, rfl⟩ := serialize_eq_some.mp serialized
  exact bounded

theorem valid_of_serialize {records : List Record} {bytes : Bytes}
    (small : ∀ record ∈ records, Small record) (serialized : serialize records = some bytes) :
    ∀ record ∈ records, record.Valid := by
  intro record member
  obtain ⟨bounded, -⟩ := serialize_eq_some.mp serialized
  have part : record.write.length ≤ (writeRecords records).length := by
    rw [writeRecords, List.length_flatMap]
    exact List.le_sum_of_mem (List.mem_map.mpr ⟨record, member, rfl⟩)
  have facts := small record member
  cases record with
  | varint number value =>
      obtain ⟨positive, below, fits⟩ := facts
      exact ⟨positive, by omega, fits⟩
  | delimited number contents =>
      obtain ⟨positive, below⟩ := facts
      refine ⟨positive, by omega, ?_⟩
      simp only [Record.write, List.length_append] at part
      omega

/-- Parsing reads back the records of a serialized message. -/
theorem parse_of_serialize {records : List Record} {bytes : Bytes}
    (small : ∀ record ∈ records, Small record) (serialized : serialize records = some bytes) :
    parse bytes = some records := by
  have valid := valid_of_serialize small serialized
  obtain ⟨-, rfl⟩ := serialize_eq_some.mp serialized
  exact readRecords_writeRecords records valid _ (length_le_writeRecords records)

theorem small_unsignedField {number value : Nat} (positive : 0 < number) (below : number < 16)
    (fits : value < 2 ^ 64) : ∀ record ∈ unsignedField number value, Small record := by
  intro record member
  simp only [unsignedField] at member
  split_ifs at member
  · simp at member
  · rw [List.mem_singleton.mp member]
    exact ⟨positive, below, fits⟩

theorem small_bytesField {number : Nat} (value : Bytes) (positive : 0 < number)
    (below : number < 16) : ∀ record ∈ bytesField number value, Small record := by
  intro record member
  simp only [bytesField] at member
  split_ifs at member
  · simp at member
  · rw [List.mem_singleton.mp member]
    exact ⟨positive, below⟩

/-- Records of a request header. -/
def requestRecords (header : RpcHeader) : List Record :=
  unsignedField 1 header.requestId.toNat ++ bytesField 2 header.serviceName ++
    bytesField 3 header.methodName ++ unsignedField 4 header.argsSize.toNat ++
    unsignedField 5 header.metaSize.toNat

/-- Take over one record into a request header; unknown records are skipped. -/
def mergeRequest (header : RpcHeader) : Record → RpcHeader
  | .varint 1 value => { header with requestId := UInt64.ofNat value }
  | .delimited 2 value => { header with serviceName := value }
  | .delimited 3 value => { header with methodName := value }
  | .varint 4 value => { header with argsSize := UInt32.ofNat value }
  | .varint 5 value => { header with metaSize := UInt32.ofNat value }
  | _ => header

/-- Records of a response header. -/
def responseRecords (header : RpcResponseHeader) : List Record :=
  unsignedField 1 header.requestId.toNat ++ signedField 2 header.statusCode ++
    bytesField 3 header.errorText ++ unsignedField 4 header.payloadSize.toNat

/-- Take over one record into a response header; unknown records are skipped. -/
def mergeResponse (header : RpcResponseHeader) : Record → RpcResponseHeader
  | .varint 1 value => { header with requestId := UInt64.ofNat value }
  | .varint 2 value => { header with statusCode := Int32.ofInt value }
  | .delimited 3 value => { header with errorText := value }
  | .varint 4 value => { header with payloadSize := UInt32.ofNat value }
  | _ => header

/-- The framework headers in the proto3 wire format. -/
def headers : HeaderCodec where
  serializeRequest header := serialize (requestRecords header)
  parseRequest bytes := (parse bytes).map (List.foldl mergeRequest ⟨0, [], [], 0, 0⟩)
  serializeResponse header := serialize (responseRecords header)
  parseResponse bytes := (parse bytes).map (List.foldl mergeResponse ⟨0, 0, [], 0⟩)

theorem small_requestRecords (header : RpcHeader) :
    ∀ record ∈ requestRecords header, Small record := by
  have id_fits := header.requestId.toNat_lt
  have args_fits := header.argsSize.toNat_lt
  have meta_fits := header.metaSize.toNat_lt
  simp only [requestRecords, List.mem_append]
  rintro record ((((member | member) | member) | member) | member)
  · exact small_unsignedField (by omega) (by omega) (by omega) record member
  · exact small_bytesField _ (by omega) (by omega) record member
  · exact small_bytesField _ (by omega) (by omega) record member
  · exact small_unsignedField (by omega) (by omega) (by omega) record member
  · exact small_unsignedField (by omega) (by omega) (by omega) record member

theorem small_responseRecords (header : RpcResponseHeader) :
    ∀ record ∈ responseRecords header, Small record := by
  have id_fits := header.requestId.toNat_lt
  have size_fits := header.payloadSize.toNat_lt
  simp only [responseRecords, List.mem_append]
  rintro record (((member | member) | member) | member)
  · exact small_unsignedField (by omega) (by omega) (by omega) record member
  · exact small_unsignedField (by omega) (by omega) (by omega) record member
  · exact small_bytesField _ (by omega) (by omega) record member
  · exact small_unsignedField (by omega) (by omega) (by omega) record member

theorem foldl_unsignedField {Header : Type} (merge : Header → Record → Header)
    (before after : Header) (number value : Nat) (absent : value = 0 → before = after)
    (present : merge before (.varint number value) = after) :
    (unsignedField number value).foldl merge before = after := by
  simp only [unsignedField]
  split_ifs with zero
  · exact absent zero
  · exact present

theorem foldl_bytesField {Header : Type} (merge : Header → Record → Header)
    (before after : Header) (number : Nat) (value : Bytes) (absent : value = [] → before = after)
    (present : merge before (.delimited number value) = after) :
    (bytesField number value).foldl merge before = after := by
  simp only [bytesField]
  split_ifs with empty
  · exact absent empty
  · exact present

theorem eq_zero_of_toNat64 {value : UInt64} (zero : value.toNat = 0) : 0 = value :=
  UInt64.toNat_inj.mp zero.symm

theorem eq_zero_of_toNat32 {value : UInt32} (zero : value.toNat = 0) : 0 = value :=
  UInt32.toNat_inj.mp zero.symm

/-- Merging the records of a request header into the default header restores it. -/
theorem merge_requestRecords (header : RpcHeader) :
    (requestRecords header).foldl mergeRequest ⟨0, [], [], 0, 0⟩ = header := by
  obtain ⟨requestId, serviceName, methodName, argsSize, metaSize⟩ := header
  simp only [requestRecords, List.foldl_append]
  rw [foldl_unsignedField mergeRequest ⟨0, [], [], 0, 0⟩ ⟨requestId, [], [], 0, 0⟩ 1 _
    (fun zero => by rw [eq_zero_of_toNat64 zero]) (by simp [mergeRequest])]
  rw [foldl_bytesField mergeRequest _ ⟨requestId, serviceName, [], 0, 0⟩ 2 serviceName
    (fun empty => by rw [empty]) rfl]
  rw [foldl_bytesField mergeRequest _ ⟨requestId, serviceName, methodName, 0, 0⟩ 3 methodName
    (fun empty => by rw [empty]) rfl]
  rw [foldl_unsignedField mergeRequest _ ⟨requestId, serviceName, methodName, argsSize, 0⟩ 4 _
    (fun zero => by rw [eq_zero_of_toNat32 zero]) (by simp [mergeRequest])]
  exact foldl_unsignedField mergeRequest _ _ 5 _
    (fun zero => by rw [eq_zero_of_toNat32 zero]) (by simp [mergeRequest])

/-- Sign extension to 64 bits is undone by truncation to 32 bits. -/
theorem ofInt_signExtended (value : Int32) :
    Int32.ofInt ((value.toInt % 2 ^ 64).toNat : Int) = value := by
  have upper := value.toInt_lt
  have lower := value.le_toInt
  rw [Int32.ofInt_eq_iff_bmod_eq_toInt, Int.bmod_def]
  omega

theorem eq_zero_of_signExtended {value : Int32} (zero : (value.toInt % 2 ^ 64).toNat = 0) :
    (0 : Int32) = value := by
  rw [← ofInt_signExtended value, zero]
  rfl

/-- Merging the records of a response header into the default header restores it. -/
theorem merge_responseRecords (header : RpcResponseHeader) :
    (responseRecords header).foldl mergeResponse ⟨0, 0, [], 0⟩ = header := by
  obtain ⟨requestId, statusCode, errorText, payloadSize⟩ := header
  simp only [responseRecords, signedField, List.foldl_append]
  rw [foldl_unsignedField mergeResponse ⟨0, 0, [], 0⟩ ⟨requestId, 0, [], 0⟩ 1 _
    (fun zero => by rw [eq_zero_of_toNat64 zero]) (by simp [mergeResponse])]
  rw [foldl_unsignedField mergeResponse _ ⟨requestId, statusCode, [], 0⟩ 2 _
    (fun zero => by rw [eq_zero_of_signExtended zero])
    (by simp only [mergeResponse, ofInt_signExtended])]
  rw [foldl_bytesField mergeResponse _ ⟨requestId, statusCode, errorText, 0⟩ 3 errorText
    (fun empty => by rw [empty]) rfl]
  exact foldl_unsignedField mergeResponse _ _ 4 _
    (fun zero => by rw [eq_zero_of_toNat32 zero]) (by simp [mergeResponse])

theorem length_unsignedField (number value : Nat) :
    (writeRecords (unsignedField number value)).length ≤ 20 := by
  simp only [unsignedField]
  split_ifs
  · simp [writeRecords]
  · have tag := length_writeVarint 10 (number * 8)
    have contents := length_writeVarint 10 value
    simp only [writeRecords, List.flatMap_singleton, Record.write, List.length_append]
    omega

theorem length_bytesField (number : Nat) (value : Bytes) :
    (writeRecords (bytesField number value)).length ≤ 20 + value.length := by
  simp only [bytesField]
  split_ifs
  · simp [writeRecords]
  · have tag := length_writeVarint 10 (number * 8 + 2)
    have size := length_writeVarint 10 value.length
    simp only [writeRecords, List.flatMap_singleton, Record.write, List.length_append]
    omega

/-- The proto3 headers behave as the framework relies on. -/
theorem headers_lawful : headers.Lawful where
  parse_serializeRequest := by
    intro header bytes serialized
    simp only [headers] at serialized ⊢
    rw [parse_of_serialize (small_requestRecords header) serialized, Option.map_some,
      merge_requestRecords]
  serializeRequest_length := length_of_serialize
  parse_serializeResponse := by
    intro header bytes serialized
    simp only [headers] at serialized ⊢
    rw [parse_of_serialize (small_responseRecords header) serialized, Option.map_some,
      merge_responseRecords]
  serializeResponse_length := length_of_serialize
  serializeResponse_total := by
    intro header short
    have id_length := length_unsignedField 1 header.requestId.toNat
    have status_length := length_unsignedField 2 (header.statusCode.toInt % 2 ^ 64).toNat
    have text_length := length_bytesField 3 header.errorText
    have size_length := length_unsignedField 4 header.payloadSize.toNat
    refine ⟨writeRecords (responseRecords header), serialize_eq_some.mpr ⟨?_, rfl⟩⟩
    simp only [responseRecords, signedField, writeRecords, List.flatMap_append,
      List.length_append] at id_length status_length text_length size_length ⊢
    omega

/-! ## Messages of two `bytes` fields -/

/-- A message whose type declares `bytes name = 1` and `bytes pwd = 2`. -/
structure BytesMessage where
  /-- Full name of the message type. -/
  fullName : Bytes
  /-- Field 1. -/
  name : Bytes
  /-- Field 2. -/
  pwd : Bytes
  deriving DecidableEq

/-- Take over one record into a message; unknown records are skipped. -/
def mergeMessage (message : BytesMessage) : Record → BytesMessage
  | .delimited 1 value => { message with name := value }
  | .delimited 2 value => { message with pwd := value }
  | _ => message

/-- Messages of two `bytes` fields in the proto3 wire format. -/
def messages : MessageRuntime BytesMessage where
  fullName := BytesMessage.fullName
  new prototype := ⟨prototype.fullName, [], []⟩
  clear message := ⟨message.fullName, [], []⟩
  serializeToString message := serialize (bytesField 1 message.name ++ bytesField 2 message.pwd)
  parseFromArray target bytes :=
    match parse bytes with
    | none => (⟨target.fullName, [], []⟩, false)
    | some records => (records.foldl mergeMessage ⟨target.fullName, [], []⟩, true)

theorem fullName_mergeMessages (records : List Record) (message : BytesMessage) :
    (records.foldl mergeMessage message).fullName = message.fullName := by
  induction records generalizing message with
  | nil => rfl
  | cons record records ih =>
      rw [List.foldl_cons, ih]
      simp only [mergeMessage]
      split <;> rfl

/-- Messages of two `bytes` fields behave as the framework relies on. -/
theorem messages_lawful : messages.Lawful where
  fullName_new _ := rfl
  clear_eq_new := by
    intro message prototype same_type
    simpa [messages] using same_type
  fullName_parse := by
    intro message bytes
    simp only [messages]
    cases parse bytes with
    | none => rfl
    | some records => exact fullName_mergeMessages records _

theorem messages_roundTrips : messages.RoundTrips := by
  rintro ⟨fullName, name, pwd⟩ target bytes serialized same_type
  simp only [messages] at serialized same_type ⊢
  have small : ∀ record ∈ bytesField 1 name ++ bytesField 2 pwd, Small record := by
    simp only [List.mem_append]
    rintro record (member | member)
    · exact small_bytesField _ (by omega) (by omega) record member
    · exact small_bytesField _ (by omega) (by omega) record member
  rw [parse_of_serialize small serialized]
  simp only [List.foldl_append, same_type]
  rw [foldl_bytesField mergeMessage _ ⟨fullName, name, []⟩ 1 name
    (fun empty => by rw [empty]) rfl]
  rw [foldl_bytesField mergeMessage _ ⟨fullName, name, pwd⟩ 2 pwd
    (fun empty => by rw [empty]) rfl]

end Proto3

end Hxrpc
