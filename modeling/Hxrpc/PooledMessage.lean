import Hxrpc.Lib.GuardedRun
import Hxrpc.MessagePool

/-!
# Handles on pooled messages

`PooledMessage` and `MessagePool` with the identity of the message objects: handles that are moved
and destroyed in any order, objects that are held, stored or destroyed, and buckets of stored
objects.  The string and the pointer of a handle that was moved from are as the language leaves
them: the pointer is null, and the string holds anything.
-/

namespace Hxrpc

/-- A `PooledMessage`: whether `pool_` is set, `key_`, and the object of `message_`.  Objects are
numbered in the order of their creation. -/
structure PooledMessage where
  /-- `pool_ != nullptr`. -/
  pool : Bool := false
  /-- `key_`. -/
  key : Bytes := []
  /-- `message_`. -/
  message : Option Nat := none
  deriving DecidableEq

/-- A message pool with all its handles and message objects. -/
structure PooledMessages (Message : Type) where
  /-- `bucket_limit_`. -/
  bucketLimit : Nat
  /-- `buckets_`. -/
  buckets : Bytes → List Nat := fun _ => []
  /-- Contents of the message objects that exist. -/
  objects : Nat → Option Message := fun _ => none
  /-- Number of message objects created so far. -/
  created : Nat := 0
  /-- The handles that exist, by their addresses. -/
  handles : Nat → Option PooledMessage := fun _ => none

namespace PooledMessages

variable {Message : Type}

/-- The object that a handle holds. -/
def holder (state : PooledMessages Message) (address : Nat) : Option Nat :=
  (state.handles address).bind PooledMessage.message

/-- The object behind a `unique_ptr` is deleted, if there is one. -/
def delete (state : PooledMessages Message) (message : Option Nat) : PooledMessages Message :=
  match message with
  | none => state
  | some object => { state with objects := Function.update state.objects object none }

/-- Construct or overwrite a handle. -/
def setHandle (state : PooledMessages Message) (address : Nat) (handle : PooledMessage) :
    PooledMessages Message :=
  { state with handles := Function.update state.handles address (some handle) }

/-- `MessagePool::Release`. -/
def release (state : PooledMessages Message) (key : Bytes) (object : Nat) :
    PooledMessages Message :=
  if state.bucketLimit ≤ (state.buckets key).length then state.delete (some object)
  else
    { state with buckets := Function.update state.buckets key (state.buckets key ++ [object]) }

/-- `message->Clear()`. -/
def clear (messages : MessageRuntime Message) (state : PooledMessages Message) (object : Nat) :
    PooledMessages Message :=
  { state with
    objects := Function.update state.objects object
      ((state.objects object).map messages.clear) }

/-- `PooledMessage::Release`; `residue` is what `key_` holds after it was moved from. -/
def releaseHandle (messages : MessageRuntime Message) (state : PooledMessages Message)
    (address : Nat) (residue : Bytes) : PooledMessages Message :=
  match state.handles address with
  | some ⟨true, key, some object⟩ =>
      ((state.clear messages object).release key object).setHandle address
        { pool := false, key := residue, message := none }
  | _ => state

/-- `MessagePool::Acquire` into a new handle. -/
def acquire (messages : MessageRuntime Message) (state : PooledMessages Message) (address : Nat)
    (prototype : Message) : PooledMessages Message :=
  let key := messages.fullName prototype
  match (state.buckets key).getLast? with
  | some object =>
      let taken := { state with
        buckets := Function.update state.buckets key (state.buckets key).dropLast }
      (taken.clear messages object).setHandle address
        { pool := true, key := key, message := some object }
  | none =>
      let object := state.created
      let grown := { state with
        objects := Function.update state.objects object (some (messages.new prototype))
        created := object + 1 }
      grown.setHandle address { pool := true, key := key, message := some object }

/-- The members of one handle are moved into another. -/
def move (state : PooledMessages Message) (target source : Nat) (handle : PooledMessage)
    (residue : Bytes) : PooledMessages Message :=
  (state.setHandle target handle).setHandle source
    { pool := false, key := residue, message := none }

/-- What a program does with handles.  A residue is what a moved-from string holds. -/
inductive Operation (Message : Type) where
  /-- `PooledMessage()`. -/
  | construct (address : Nat)
  /-- `Acquire(prototype)`. -/
  | acquire (address : Nat) (prototype : Message)
  /-- Any change of the message through the handle. -/
  | mutate (address : Nat) (contents : Message)
  /-- `PooledMessage(PooledMessage&&)`. -/
  | moveConstruct (target source : Nat) (residue : Bytes)
  /-- `operator=(PooledMessage&&)`. -/
  | moveAssign (target source : Nat) (released residue : Bytes)
  /-- `~PooledMessage()`. -/
  | destroy (address : Nat) (released : Bytes)

/-- One operation; a handle is constructed where there is none, used while it exists, and its
message keeps its type. -/
def step (messages : MessageRuntime Message) (state : PooledMessages Message) :
    Operation Message → Option (PooledMessages Message)
  | .construct address =>
      match state.handles address with
      | none => some (state.setHandle address {})
      | some _ => none
  | .acquire address prototype =>
      match state.handles address with
      | none => some (state.acquire messages address prototype)
      | some _ => none
  | .mutate address contents =>
      match state.holder address with
      | none => none
      | some object =>
          if (state.objects object).map messages.fullName = some (messages.fullName contents) then
            some { state with objects := Function.update state.objects object (some contents) }
          else none
  | .moveConstruct target source residue =>
      match state.handles target, state.handles source with
      | none, some handle => some (state.move target source handle residue)
      | _, _ => none
  | .moveAssign target source released residue =>
      match state.handles target, state.handles source with
      | some _, some handle =>
          if target = source then some state
          else
            let emptied := state.releaseHandle messages target released
            some ((emptied.delete (emptied.holder target)).move target source handle residue)
      | _, _ => none
  | .destroy address released =>
      match state.handles address with
      | none => none
      | some _ =>
          let emptied := state.releaseHandle messages address released
          let deleted := emptied.delete (emptied.holder address)
          some { deleted with handles := Function.update deleted.handles address none }

/-- The operations, each with what the handles are like when it is done. -/
inductive Stepped (messages : MessageRuntime Message) (state : PooledMessages Message) :
    Operation Message → PooledMessages Message → Prop where
  | construct {address : Nat} (new : state.handles address = none) :
      Stepped messages state (.construct address) (state.setHandle address {})
  | acquire {address : Nat} (new : state.handles address = none) (prototype : Message) :
      Stepped messages state (.acquire address prototype) (state.acquire messages address prototype)
  | mutate {address object : Nat} {contents : Message} (holds : state.holder address = some object)
      (same_type : (state.objects object).map messages.fullName =
        some (messages.fullName contents)) :
      Stepped messages state (.mutate address contents)
        { state with objects := Function.update state.objects object (some contents) }
  | moveConstruct {target source : Nat} {handle : PooledMessage}
      (new : state.handles target = none) (found : state.handles source = some handle)
      (residue : Bytes) :
      Stepped messages state (.moveConstruct target source residue)
        (state.move target source handle residue)
  | moveSelf (address : Nat) (released residue : Bytes) :
      Stepped messages state (.moveAssign address address released residue) state
  | moveAssign {target source : Nat} {handle : PooledMessage} (ne : target ≠ source)
      (found : state.handles source = some handle) (released residue : Bytes) :
      Stepped messages state (.moveAssign target source released residue)
        (((state.releaseHandle messages target released).delete
          ((state.releaseHandle messages target released).holder target)).move
            target source handle residue)
  | destroy (address : Nat) (released : Bytes) :
      Stepped messages state (.destroy address released)
        { (state.releaseHandle messages address released).delete
            ((state.releaseHandle messages address released).holder address) with
          handles := Function.update ((state.releaseHandle messages address released).delete
            ((state.releaseHandle messages address released).holder address)).handles
              address none }

theorem stepped_of_step {messages : MessageRuntime Message} {state next : PooledMessages Message}
    {operation : Operation Message} (moved : state.step messages operation = some next) :
    Stepped messages state operation next := by
  cases operation with
  | construct address =>
      simp only [PooledMessages.step] at moved
      split at moved
      · rename_i new
        cases moved
        exact .construct new
      · cases moved
  | acquire address prototype =>
      simp only [PooledMessages.step] at moved
      split at moved
      · rename_i new
        cases moved
        exact .acquire new prototype
      · cases moved
  | mutate address contents =>
      simp only [PooledMessages.step] at moved
      split at moved
      · cases moved
      · rename_i object holds
        obtain ⟨same_type, moved⟩ := Option.ite_none_right_eq_some.mp moved
        cases moved
        exact .mutate holds same_type
  | moveConstruct target source residue =>
      simp only [PooledMessages.step] at moved
      split at moved
      · rename_i handle new found
        cases moved
        exact .moveConstruct new found residue
      · cases moved
  | moveAssign target source released residue =>
      simp only [PooledMessages.step] at moved
      split at moved
      · rename_i old handle _ found
        rcases eq_or_ne target source with rfl | ne
        · rw [if_pos rfl] at moved
          cases moved
          exact .moveSelf target released residue
        · rw [if_neg ne] at moved
          cases moved
          exact .moveAssign ne found released residue
      · cases moved
  | destroy address released =>
      simp only [PooledMessages.step] at moved
      split at moved
      · cases moved
      · cases moved
        exact .destroy address released

/-- The states that a pool with this limit and its handles can reach. -/
inductive Reachable (messages : MessageRuntime Message) (bucketLimit : Nat) :
    PooledMessages Message → Prop where
  | initial : Reachable messages bucketLimit { bucketLimit := bucketLimit }
  | step {state next : PooledMessages Message} (operation : Operation Message)
      (before : Reachable messages bucketLimit state)
      (moved : state.step messages operation = some next) :
      Reachable messages bucketLimit next

/-- Several operations. -/
def perform (messages : MessageRuntime Message) (state : PooledMessages Message)
    (operations : List (Operation Message)) : Option (PooledMessages Message) :=
  operations.foldlM (fun state operation => state.step messages operation) state

theorem Reachable.perform {messages : MessageRuntime Message} {bucketLimit : Nat}
    {state next : PooledMessages Message}
    (reachable : Reachable messages bucketLimit state) {operations : List (Operation Message)}
    (performed : state.perform messages operations = some next) :
    Reachable messages bucketLimit next :=
  holds_of_foldlM (Reachable messages bucketLimit) reachable
    (fun before _ moved => before.step _ moved) performed

end PooledMessages

end Hxrpc
