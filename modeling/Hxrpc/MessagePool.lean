import Hxrpc.Protobuf
import Mathlib.Logic.Function.Basic

/-!
# Serializer and message pool

Business messages are turned into payloads by the protobuf serializer and live in objects that a
pool keeps per message type.  Whatever a pool holds, an acquired object is the default instance of
the prototype's type.
-/

namespace Hxrpc

open RpcStatusCode

namespace ProtobufSerializer

/-- `ProtobufSerializer::Serialize`. -/
def serialize {Message : Type} (messages : MessageRuntime Message) (message : Message) :
    Except RpcError Bytes :=
  match messages.serializeToString message with
  | none => .error ⟨kSerializeError, text "protobuf serialize failed"⟩
  | some payload => .ok payload

/-- `ProtobufSerializer::Deserialize`: the object afterwards, and the result.  From `2 ^ 31` bytes
on the size is negative as an `int` and nothing is parsed. -/
def deserialize {Message : Type} (messages : MessageRuntime Message) (payload : Bytes)
    (message : Message) : Message × Except RpcError Unit :=
  if payload.length < 2 ^ 31 then
    match messages.parseFromArray message payload with
    | (parsed, true) => (parsed, .ok ())
    | (parsed, false) => (parsed, .error ⟨kDeserializeError, text "protobuf deserialize failed"⟩)
  else
    (message, .error ⟨kDeserializeError, text "protobuf deserialize failed"⟩)

/-- `ParseFromArray` reads the message from the payload into a new object of the prototype's type.
A payload of `2 ^ 31` bytes or more is not read. -/
structure ParsesAs {Message : Type} (messages : MessageRuntime Message) (prototype : Message)
    (payload : Bytes) (message : Message) : Prop where
  short : payload.length < 2 ^ 31
  parsed : messages.parseFromArray (messages.new prototype) payload = (message, true)

theorem deserialize_new_iff {Message : Type} {messages : MessageRuntime Message}
    {payload : Bytes} {prototype message : Message} :
    deserialize messages payload (messages.new prototype) = (message, .ok ()) ↔
      ParsesAs messages prototype payload message := by
  rw [deserialize]
  constructor
  · intro succeeded
    split_ifs at succeeded with short
    · split at succeeded
      · rename_i parsed reads
        obtain rfl := (Prod.mk.inj succeeded).1
        exact ⟨short, reads⟩
      · cases succeeded
    · cases succeeded
  · rintro ⟨short, parsed⟩
    rw [if_pos short, parsed]

theorem deserialize_error {Message : Type} {messages : MessageRuntime Message} {payload : Bytes}
    {message parsed : Message} {error : RpcError}
    (failed : deserialize messages payload message = (parsed, .error error)) :
    error = ⟨kDeserializeError, text "protobuf deserialize failed"⟩ := by
  simp only [deserialize] at failed
  split at failed
  · split at failed
    · cases failed
    · cases failed
      rfl
  · cases failed
    rfl

theorem fullName_deserialize {Message : Type} {messages : MessageRuntime Message}
    (lawful : messages.Lawful) (payload : Bytes) (message : Message) :
    messages.fullName (deserialize messages payload message).1 = messages.fullName message := by
  have kept := lawful.fullName_parse message payload
  simp only [deserialize]
  split
  · split <;> simp_all
  · rfl

/-- A serialized message is restored in any object of its type. -/
theorem deserialize_serialize {Message : Type} {messages : MessageRuntime Message}
    (round_trips : messages.RoundTrips) {message target : Message} {payload : Bytes}
    (serialized : serialize messages message = .ok payload) (short : payload.length < 2 ^ 31)
    (same_type : messages.fullName target = messages.fullName message) :
    deserialize messages payload target = (message, .ok ()) := by
  have written : messages.serializeToString message = some payload := by
    simp only [serialize] at serialized
    split at serialized
    · cases serialized
    · rename_i written
      cases serialized
      exact written
  rw [deserialize, if_pos short, round_trips written same_type]

end ProtobufSerializer

/-- Idle objects by type name.  The head of a bucket is the back of the program's vector. -/
structure MessagePool (Message : Type) where
  /-- Largest number of idle objects of one type. -/
  bucketLimit : Nat := 32
  /-- Idle objects of each type. -/
  buckets : Bytes → List Message := fun _ => []

namespace MessagePool

/-- `MessagePool::Acquire`: an idle object, cleared, or a new one. -/
def acquire {Message : Type} (messages : MessageRuntime Message) (pool : MessagePool Message)
    (prototype : Message) : Message × MessagePool Message :=
  match pool.buckets (messages.fullName prototype) with
  | [] => (messages.new prototype, pool)
  | message :: rest =>
      (messages.clear message,
        { pool with buckets := Function.update pool.buckets (messages.fullName prototype) rest })

/-- `MessagePool::Release`: keep the object unless the bucket is full. -/
def release {Message : Type} (pool : MessagePool Message) (key : Bytes) (message : Message) :
    MessagePool Message :=
  if pool.bucketLimit ≤ (pool.buckets key).length then pool
  else { pool with buckets := Function.update pool.buckets key (message :: pool.buckets key) }

/-- `PooledMessage::Release`: clear the object and return it under the key it was acquired with. -/
def releaseHandle {Message : Type} (messages : MessageRuntime Message)
    (pool : MessagePool Message) (key : Bytes) (message : Message) : MessagePool Message :=
  pool.release key (messages.clear message)

/-- Every idle object is in the bucket of its own type. -/
def Typed {Message : Type} (messages : MessageRuntime Message) (pool : MessagePool Message) :
    Prop :=
  ∀ key, ∀ message ∈ pool.buckets key, messages.fullName message = key

theorem typed_empty {Message : Type} (messages : MessageRuntime Message) (limit : Nat) :
    Typed messages { bucketLimit := limit } := by
  intro key message member
  cases member

/-- An acquired object is the default instance, whatever the pool held. -/
theorem acquire_fst {Message : Type} {messages : MessageRuntime Message}
    (lawful : messages.Lawful) {pool : MessagePool Message} (typed : pool.Typed messages)
    (prototype : Message) : (pool.acquire messages prototype).1 = messages.new prototype := by
  simp only [acquire]
  split
  · rfl
  · rename_i message rest bucket
    exact lawful.clear_eq_new (typed _ message (by simp [bucket]))

theorem typed_acquire {Message : Type} {messages : MessageRuntime Message}
    {pool : MessagePool Message} (typed : pool.Typed messages) (prototype : Message) :
    (pool.acquire messages prototype).2.Typed messages := by
  simp only [acquire]
  split
  · exact typed
  · rename_i message rest bucket
    intro key other member
    by_cases same : key = messages.fullName prototype
    · subst same
      simp only [Function.update_self] at member
      exact typed _ other (by simp [bucket, member])
    · simp only [Function.update_of_ne same] at member
      exact typed key other member

theorem typed_releaseHandle {Message : Type} {messages : MessageRuntime Message}
    (lawful : messages.Lawful) {pool : MessagePool Message} (typed : pool.Typed messages)
    {key : Bytes} {message : Message} (own_key : messages.fullName message = key) :
    (pool.releaseHandle messages key message).Typed messages := by
  simp only [releaseHandle, release]
  split
  · exact typed
  · intro other_key other member
    by_cases same : other_key = key
    · subst same
      simp only [Function.update_self, List.mem_cons] at member
      rcases member with rfl | member
      · rw [lawful.fullName_clear, own_key]
      · exact typed _ other member
    · simp only [Function.update_of_ne same] at member
      exact typed other_key other member

end MessagePool

end Hxrpc
