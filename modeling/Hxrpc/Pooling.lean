import Hxrpc.Lib.Custody
import Hxrpc.PooledMessage

/-!
# Every message object is in one place

In every state that handles and their pool can reach, each message object is held by one handle,
stored once in the bucket of its type with default contents, or destroyed.  Returning happens in
destructors and assignments, always from a handle that still holds the object.  Without the
identities of the objects the pool is the `MessagePool` of contents.
-/

namespace Hxrpc

namespace PooledMessages

variable {Message : Type}

/-! ## The invariant -/

/-- The type of an object. -/
def label (messages : MessageRuntime Message) (state : PooledMessages Message) (object : Nat) :
    Option Bytes :=
  (state.objects object).map messages.fullName

/-- The key of a handle. -/
def wanted (state : PooledMessages Message) (address : Nat) : Option Bytes :=
  (state.handles address).map PooledMessage.key

/-- Every object is in one place, the bucket or the key of its handle is its type, handles with an
object know the pool, and stored objects have default contents. -/
structure Orderly (messages : MessageRuntime Message) (state : PooledMessages Message) : Prop where
  custody : Custody id state.bucketLimit (state.label messages) state.holder state.wanted
    state.buckets
  pooled : ∀ {address handle}, state.handles address = some handle → handle.message ≠ none →
    handle.pool = true
  clean : ∀ {key object message}, object ∈ state.buckets key →
    state.objects object = some message → messages.new message = message
  fresh : ∀ object, state.created ≤ object → state.objects object = none

section Simp

variable (messages : MessageRuntime Message) (state : PooledMessages Message) (address : Nat)
  (handle : PooledMessage) (object : Nat)

@[simp] theorem holder_setHandle :
    (state.setHandle address handle).holder =
      Function.update state.holder address handle.message := by
  funext other
  by_cases same : other = address
  · simp [same, holder, setHandle]
  · simp [same, holder, setHandle]

@[simp] theorem wanted_setHandle :
    (state.setHandle address handle).wanted =
      Function.update state.wanted address (some handle.key) := by
  funext other
  by_cases same : other = address
  · simp [same, wanted, setHandle]
  · simp [same, wanted, setHandle]

@[simp] theorem label_setHandle :
    (state.setHandle address handle).label messages = state.label messages := rfl

@[simp] theorem delete_none : state.delete none = state := rfl

theorem label_update (contents : Option Message) :
    label messages { state with objects := Function.update state.objects object contents } =
      Function.update (state.label messages) object (contents.map messages.fullName) := by
  funext other
  by_cases same : other = object
  · simp [same, label]
  · simp [same, label]

end Simp

variable {messages : MessageRuntime Message} {state : PooledMessages Message}

theorem label_clear (lawful : messages.Lawful) (state : PooledMessages Message) (object : Nat) :
    (state.clear messages object).label messages = state.label messages := by
  rw [clear, label_update, Option.map_map]
  have kept : messages.fullName ∘ messages.clear = messages.fullName :=
    funext fun message => lawful.fullName_clear message
  rw [kept]
  exact Function.update_eq_self _ _

theorem new_clear (lawful : messages.Lawful) (message : Message) :
    messages.new (messages.clear message) = messages.clear message :=
  (lawful.clear_eq_new (lawful.fullName_clear message).symm).symm

theorem new_new (lawful : messages.Lawful) (prototype : Message) :
    messages.new (messages.new prototype) = messages.new prototype := by
  rw [← lawful.clear_eq_new (lawful.fullName_new prototype).symm,
    lawful.clear_eq_new (Eq.refl (messages.fullName prototype))]

theorem orderly_initial (messages : MessageRuntime Message) (bucketLimit : Nat) :
    Orderly messages { bucketLimit := bucketLimit } where
  custody := Custody.empty id bucketLimit _
  pooled := by simp
  clean := by simp
  fresh := by simp

/-- The object of a handle exists, and its type is the key. -/
theorem Orderly.held (orderly : Orderly messages state) {address object : Nat}
    (holds : state.holder address = some object) :
    ∃ handle message, state.handles address = some handle ∧ handle.pool = true ∧
      handle.message = some object ∧ state.objects object = some message ∧
      messages.fullName message = handle.key := by
  obtain ⟨kind, wants, labelled⟩ := orderly.custody.held holds
  obtain ⟨handle, found, message_eq⟩ := Option.bind_eq_some_iff.mp holds
  obtain ⟨same, same_found, rfl⟩ := Option.map_eq_some_iff.mp wants
  obtain rfl := Option.some.inj (found.symm.trans same_found)
  obtain ⟨message, contents, type_eq⟩ := Option.map_eq_some_iff.mp labelled
  exact ⟨handle, message, found, orderly.pooled found (by simp [message_eq]), message_eq, contents,
    type_eq⟩

/-- A handle without an object may be constructed or overwritten by another one. -/
theorem Orderly.setHandle (orderly : Orderly messages state) {address : Nat}
    (idle : state.holder address = none) {handle : PooledMessage} (null : handle.message = none) :
    Orderly messages (state.setHandle address handle) where
  custody := by
    have wanting := orderly.custody.want idle (some handle.key)
    rw [label_setHandle, holder_setHandle, wanted_setHandle, null, ← idle,
      Function.update_eq_self]
    exact wanting
  pooled := by
    intro other other_handle found holds
    by_cases same : other = address
    · subst same
      obtain rfl : handle = other_handle := by simpa [PooledMessages.setHandle] using found
      exact absurd null holds
    · simp only [PooledMessages.setHandle, Function.update_of_ne same] at found
      exact orderly.pooled found holds
  clean := orderly.clean
  fresh := orderly.fresh

/-- Clearing an object keeps everything in order. -/
theorem Orderly.clear (lawful : messages.Lawful) (orderly : Orderly messages state)
    (object : Nat) : Orderly messages (state.clear messages object) where
  custody := by
    rw [label_clear lawful]
    exact orderly.custody
  pooled := orderly.pooled
  clean := by
    intro key other message member contents
    by_cases same : other = object
    · subst same
      simp only [PooledMessages.clear, Function.update_self, Option.map_eq_some_iff] at contents
      obtain ⟨before, -, rfl⟩ := contents
      exact new_clear lawful before
    · simp only [PooledMessages.clear, Function.update_of_ne same] at contents
      exact orderly.clean member contents
  fresh := by
    intro other unborn
    by_cases same : other = object
    · simp [PooledMessages.clear, same, orderly.fresh object (same ▸ unborn)]
    · simp [PooledMessages.clear, same, orderly.fresh other unborn]

/-- A handle whose object has default contents gives it back: the object is stored, or deleted when
the bucket is full. -/
theorem Orderly.release (orderly : Orderly messages state) {address object : Nat} {key : Bytes}
    (found : state.handles address = some ⟨true, key, some object⟩)
    (default : ∀ message, state.objects object = some message → messages.new message = message)
    (residue : Bytes) :
    Orderly messages ((state.release key object).setHandle address
      { pool := false, key := residue, message := none }) := by
  have holds : state.holder address = some object := by simp [holder, found]
  have wants : state.wanted address = some key := by simp [wanted, found]
  have pooled : ∀ {other handle}, Function.update state.handles address
      (some { pool := false, key := residue, message := none }) other = some handle →
        handle.message ≠ none → handle.pool = true := by
    intro other handle other_found other_holds
    by_cases same : other = address
    · subst same
      simp only [Function.update_self, Option.some.injEq] at other_found
      simp [← other_found] at other_holds
    · rw [Function.update_of_ne same] at other_found
      exact orderly.pooled other_found other_holds
  simp only [PooledMessages.release]
  split_ifs with full
  · have burnt := orderly.custody.burn holds
    have idle := burnt.want (Function.update_self _ _ _) (some residue)
    refine ⟨?_, pooled, ?_, ?_⟩
    · rw [label_setHandle, holder_setHandle, wanted_setHandle, delete, label_update]
      exact idle
    · intro other_key other message member contents
      have ne : other ≠ object := by
        rintro rfl
        exact orderly.custody.apart holds member
      simp only [delete, PooledMessages.setHandle, Function.update_of_ne ne] at contents
      exact orderly.clean member contents
    · intro other unborn
      by_cases same : other = object
      · simp [delete, PooledMessages.setHandle, same]
      · simp [delete, PooledMessages.setHandle, same, orderly.fresh other unborn]
  · have filed := orderly.custody.file holds wants (Nat.lt_of_not_le full)
      (Function.update_self _ _ _) fun _ ne => Function.update_of_ne ne _ _
    have idle := filed.want (Function.update_self _ _ _) (some residue)
    refine ⟨?_, pooled, ?_, orderly.fresh⟩
    · rw [label_setHandle, holder_setHandle, wanted_setHandle]
      exact idle
    · intro other_key other message member contents
      by_cases same : other_key = key
      · subst same
        simp only [PooledMessages.setHandle, Function.update_self, List.mem_append,
          List.mem_singleton] at member
        rcases member with member | rfl
        · exact orderly.clean member contents
        · exact default message contents
      · simp only [PooledMessages.setHandle, Function.update_of_ne same] at member
        exact orderly.clean member contents

/-- `PooledMessage::Release` keeps everything in order, empties the handle and leaves all other
handles alone. -/
theorem Orderly.releaseHandle (lawful : messages.Lawful) (orderly : Orderly messages state)
    (address : Nat) (residue : Bytes) :
    Orderly messages (state.releaseHandle messages address residue) ∧
      (state.releaseHandle messages address residue).holder address = none ∧
      ∀ other, other ≠ address →
        (state.releaseHandle messages address residue).handles other = state.handles other := by
  simp only [PooledMessages.releaseHandle]
  split
  · rename_i key object found
    refine ⟨(orderly.clear lawful object).release found ?_ residue, ?_, ?_⟩
    · intro message contents
      simp only [PooledMessages.clear, Function.update_self, Option.map_eq_some_iff] at contents
      obtain ⟨before, -, rfl⟩ := contents
      exact new_clear lawful before
    · rw [holder_setHandle, Function.update_self]
    · intro other ne
      simp only [PooledMessages.setHandle, Function.update_of_ne ne, PooledMessages.release]
      split_ifs <;> rfl
  · rename_i other_shape
    refine ⟨orderly, ?_, fun _ _ => rfl⟩
    cases holds : state.holder address with
    | none => rfl
    | some object =>
        obtain ⟨⟨pool, key, message⟩, contents, found, known, message_eq, -⟩ := orderly.held holds
        simp only at known message_eq
        subst known message_eq
        exact absurd found (other_shape key object)

/-- Moving the members of a handle into one without an object keeps everything in order. -/
theorem Orderly.move (orderly : Orderly messages state) {target source : Nat}
    (idle : state.holder target = none) (ne : target ≠ source) {handle : PooledMessage}
    (found : state.handles source = some handle) (residue : Bytes) :
    Orderly messages (state.move target source handle residue) := by
  cases message_eq : handle.message with
  | none =>
      have source_idle : state.holder source = none := by simp [holder, found, message_eq]
      have first := orderly.setHandle idle message_eq
      apply first.setHandle
      · rw [holder_setHandle, Function.update_of_ne ne.symm, source_idle]
      · rfl
  | some object =>
      have holds : state.holder source = some object := by simp [holder, found, message_eq]
      have wants : state.wanted source = some handle.key := by simp [wanted, found]
      have passed := orderly.custody.pass holds wants idle
      have emptied : Function.update (Function.update state.holder source none) target
          (some object) source = none := by
        rw [Function.update_of_ne ne.symm, Function.update_self]
      refine ⟨?_, ?_, orderly.clean, orderly.fresh⟩
      · have wanting := passed.want emptied (some residue)
        rw [Function.update_comm ne.symm none (some object) state.holder] at wanting
        rw [PooledMessages.move, label_setHandle, label_setHandle, holder_setHandle,
          holder_setHandle, wanted_setHandle, wanted_setHandle, message_eq]
        exact wanting
      · intro other other_handle other_found other_holds
        simp only [PooledMessages.move, PooledMessages.setHandle] at other_found
        by_cases is_source : other = source
        · subst is_source
          simp only [Function.update_self, Option.some.injEq] at other_found
          simp [← other_found] at other_holds
        rw [Function.update_of_ne is_source] at other_found
        by_cases is_target : other = target
        · subst is_target
          simp only [Function.update_self, Option.some.injEq] at other_found
          exact other_found ▸ orderly.pooled found (by simp [message_eq])
        · rw [Function.update_of_ne is_target] at other_found
          exact orderly.pooled other_found other_holds

/-- What `Acquire` hands out: an object of the prototype's type with default contents. -/
theorem Orderly.acquired (lawful : messages.Lawful) (orderly : Orderly messages state)
    (address : Nat) (prototype : Message) :
    ∃ object,
      (state.acquire messages address prototype).handles =
        Function.update state.handles address
          (some { pool := true, key := messages.fullName prototype, message := some object }) ∧
      (state.acquire messages address prototype).objects object =
        some (messages.new prototype) := by
  simp only [acquire]
  split
  · rename_i object last
    obtain ⟨kind, labelled, type_eq⟩ := orderly.custody.shelved (List.mem_of_getLast? last)
    obtain ⟨message, contents, rfl⟩ := Option.map_eq_some_iff.mp labelled
    refine ⟨object, rfl, ?_⟩
    simp only [PooledMessages.setHandle, PooledMessages.clear, Function.update_self, contents,
      Option.map_some]
    rw [lawful.clear_eq_new type_eq]
  · exact ⟨state.created, rfl, Function.update_self _ _ _⟩

/-- `Acquire` into a new handle keeps everything in order. -/
theorem Orderly.acquire (lawful : messages.Lawful) (orderly : Orderly messages state)
    {address : Nat} (new : state.handles address = none) (prototype : Message) :
    Orderly messages (state.acquire messages address prototype) := by
  have idle : state.holder address = none := by simp [holder, new]
  have pooled : ∀ {object other handle}, Function.update state.handles address
      (some { pool := true, key := messages.fullName prototype, message := some object }) other =
        some handle → handle.message ≠ none → handle.pool = true := by
    intro object other handle found holds
    by_cases same : other = address
    · subst same
      rw [Function.update_self] at found
      obtain rfl := Option.some.inj found
      rfl
    · rw [Function.update_of_ne same] at found
      exact orderly.pooled found holds
  have wanting := orderly.custody.want idle (some (messages.fullName prototype))
  simp only [PooledMessages.acquire]
  split
  · rename_i object last
    have taken := wanting.take Function.injective_id idle (Function.update_self _ _ _) last
      (Function.update_self _ _ _) fun _ ne => Function.update_of_ne ne _ _
    refine ⟨?_, pooled, ?_, ?_⟩
    · rw [label_setHandle, label_clear lawful, holder_setHandle, wanted_setHandle]
      exact taken
    · intro key other message member contents
      have stored : other ∈ state.buckets key := by
        by_cases same : key = messages.fullName prototype
        · subst same
          simp only [PooledMessages.setHandle, PooledMessages.clear, Function.update_self]
            at member
          exact List.mem_of_mem_dropLast member
        · simpa [PooledMessages.setHandle, PooledMessages.clear, same] using member
      exact (orderly.clear lawful object).clean stored contents
    · exact (orderly.clear lawful object).fresh
  · have unborn := orderly.fresh state.created le_rfl
    have minted := wanting.mint idle (Function.update_self _ _ _)
      (by simp [label, unborn] : state.label messages state.created = none)
    refine ⟨?_, pooled, ?_, ?_⟩
    · rw [label_setHandle, holder_setHandle, wanted_setHandle]
      have labelled := label_update messages state state.created (some (messages.new prototype))
      rw [Option.map_some, lawful.fullName_new] at labelled
      rw [← labelled] at minted
      exact minted
    · intro key other message member contents
      by_cases same : other = state.created
      · subst same
        simp only [PooledMessages.setHandle, Function.update_self, Option.some.injEq] at contents
        exact contents ▸ new_new lawful prototype
      · simp only [PooledMessages.setHandle, Function.update_of_ne same] at contents
        exact orderly.clean member contents
    · intro other later
      have ne : other ≠ state.created := Nat.ne_of_gt later
      simp only [PooledMessages.setHandle, Function.update_of_ne ne]
      exact orderly.fresh other (Nat.le_of_succ_le later)

/-- A change of the message behind a handle keeps everything in order. -/
theorem Orderly.mutate (orderly : Orderly messages state) {address object : Nat}
    (holds : state.holder address = some object) {contents : Message}
    (same_type : (state.objects object).map messages.fullName =
      some (messages.fullName contents)) :
    Orderly messages
      { state with objects := Function.update state.objects object (some contents) } where
  custody := by
    rw [label_update, Option.map_some, ← same_type]
    have kept : Function.update (state.label messages) object
        ((state.objects object).map messages.fullName) = state.label messages :=
      Function.update_eq_self _ _
    rw [kept]
    exact orderly.custody
  pooled := orderly.pooled
  clean := by
    intro key other message member found
    have ne : other ≠ object := by
      rintro rfl
      exact orderly.custody.apart holds member
    simp only [Function.update_of_ne ne] at found
    exact orderly.clean member found
  fresh := by
    intro other unborn
    have ne : other ≠ object := by
      rintro rfl
      simp [orderly.fresh other unborn] at same_type
    simp only [Function.update_of_ne ne]
    exact orderly.fresh other unborn

/-- A handle without an object may be destroyed. -/
theorem Orderly.erase (orderly : Orderly messages state) {address : Nat}
    (idle : state.holder address = none) :
    Orderly messages { state with handles := Function.update state.handles address none } := by
  have holder_eq : PooledMessages.holder
      { state with handles := Function.update state.handles address none } = state.holder := by
    funext other
    by_cases same : other = address
    · rw [same, idle]
      simp [holder]
    · simp [holder, same]
  have wanted_eq : PooledMessages.wanted
      { state with handles := Function.update state.handles address none } =
        Function.update state.wanted address none := by
    funext other
    by_cases same : other = address
    · simp [wanted, same]
    · simp [wanted, same]
  refine ⟨?_, ?_, orderly.clean, orderly.fresh⟩
  · rw [holder_eq, wanted_eq]
    exact orderly.custody.want idle none
  · intro other handle found holds
    by_cases same : other = address
    · simp [same] at found
    · exact orderly.pooled (by simpa [same] using found) holds

/-- Every operation keeps everything in order. -/
theorem Orderly.step (lawful : messages.Lawful) (orderly : Orderly messages state)
    {operation : Operation Message} {next : PooledMessages Message}
    (moved : state.step messages operation = some next) : Orderly messages next := by
  cases stepped_of_step moved with
  | construct new => exact orderly.setHandle (by simp [holder, new]) rfl
  | acquire new prototype => exact orderly.acquire lawful new prototype
  | mutate holds same_type => exact orderly.mutate holds same_type
  | moveConstruct new found residue =>
      apply orderly.move (by simp [holder, new]) ?_ found
      rintro rfl
      rw [new] at found
      cases found
  | moveSelf address released residue => exact orderly
  | @moveAssign target source handle ne found released residue =>
      obtain ⟨emptied, idle, others⟩ := orderly.releaseHandle lawful target released
      rw [idle, delete_none]
      apply emptied.move idle ne
      rw [others source ne.symm, found]
  | destroy address released =>
      obtain ⟨emptied, idle, -⟩ := orderly.releaseHandle lawful address released
      rw [idle, delete_none]
      exact emptied.erase idle

theorem orderly_of_reachable (lawful : messages.Lawful) {bucketLimit : Nat}
    (reachable : Reachable messages bucketLimit state) : Orderly messages state := by
  induction reachable with
  | initial => exact orderly_initial messages bucketLimit
  | step operation before moved ih => exact ih.step lawful moved

/-! ## The guarantee -/

/-- The object was deleted, and nothing refers to it. -/
def Destroyed (state : PooledMessages Message) (object : Nat) : Prop :=
  state.objects object = none ∧ (∀ address, state.holder address ≠ some object) ∧
    ∀ key, object ∉ state.buckets key

/-- Exactly one handle holds the object. -/
def Held (state : PooledMessages Message) (object : Nat) : Prop :=
  state.objects object ≠ none ∧ (∃! address, state.holder address = some object) ∧
    ∀ key, object ∉ state.buckets key

/-- The object is stored once in exactly one bucket. -/
def Stored (state : PooledMessages Message) (object : Nat) : Prop :=
  state.objects object ≠ none ∧ (∀ address, state.holder address ≠ some object) ∧
    ∃ key, (state.buckets key).count object = 1 ∧
      ∀ other, object ∈ state.buckets other → other = key

/-- What the pool guarantees in a state. -/
structure Intact (messages : MessageRuntime Message) (bucketLimit : Nat)
    (state : PooledMessages Message) : Prop where
  placed : ∀ object, object < state.created →
    state.Destroyed object ∨ state.Held object ∨ state.Stored object
  stored : ∀ key, ∀ object ∈ state.buckets key, ∃ message,
    state.objects object = some message ∧ messages.fullName message = key ∧
      messages.new message = message
  bounded : ∀ key, (state.buckets key).length ≤ bucketLimit
  acquires : ∀ address prototype next,
    state.step messages (.acquire address prototype) = some next →
    ∃ object message, next.holder address = some object ∧
      next.objects object = some message ∧
      messages.fullName message = messages.fullName prototype ∧
      messages.new message = message ∧
      ∀ other, other ≠ address → next.holder other ≠ some object

theorem bucketLimit_delete (state : PooledMessages Message) (message : Option Nat) :
    (state.delete message).bucketLimit = state.bucketLimit := by
  cases message with
  | none => rfl
  | some object => rfl

theorem bucketLimit_releaseHandle (state : PooledMessages Message) (address : Nat)
    (residue : Bytes) :
    (state.releaseHandle messages address residue).bucketLimit = state.bucketLimit := by
  simp only [releaseHandle]
  split
  · simp only [PooledMessages.setHandle, release]
    split_ifs <;> rfl
  · rfl

theorem bucketLimit_step {operation : Operation Message} {next : PooledMessages Message}
    (moved : state.step messages operation = some next) :
    next.bucketLimit = state.bucketLimit := by
  cases stepped_of_step moved with
  | construct new => rfl
  | acquire new prototype =>
      simp only [acquire]
      split <;> rfl
  | mutate holds same_type => rfl
  | moveConstruct new found residue => rfl
  | moveSelf address released residue => rfl
  | moveAssign ne found released residue =>
      exact (bucketLimit_delete _ _).trans (bucketLimit_releaseHandle state _ released)
  | destroy address released =>
      exact (bucketLimit_delete _ _).trans (bucketLimit_releaseHandle state address released)

theorem bucketLimit_of_reachable {bucketLimit : Nat}
    (reachable : Reachable messages bucketLimit state) : state.bucketLimit = bucketLimit := by
  induction reachable with
  | initial => rfl
  | step operation before moved ih => exact (bucketLimit_step moved).trans ih

theorem Orderly.placed (orderly : Orderly messages state) (object : Nat) :
    state.Destroyed object ∨ state.Held object ∨ state.Stored object := by
  cases contents : state.objects object with
  | none =>
      have unlabelled : state.label messages object = none := by simp [label, contents]
      refine Or.inl ⟨contents, fun address holds => ?_, fun key member => ?_⟩
      · obtain ⟨_, -, labelled⟩ := orderly.custody.held holds
        simp [unlabelled] at labelled
      · obtain ⟨_, labelled, -⟩ := orderly.custody.shelved member
        simp [unlabelled] at labelled
  | some message =>
      have existing : state.label messages object ≠ none := by simp [label, contents]
      have present : state.objects object ≠ none := by simp [contents]
      rcases orderly.custody.exactly_one existing with held | stored
      · exact Or.inr (Or.inl ⟨present, held⟩)
      · exact Or.inr (Or.inr ⟨present, stored⟩)

/-- For every bucket limit and every sequence of operations on handles: each message object is held
by exactly one handle, or stored once in exactly one bucket, or destroyed; stored objects are in the
bucket of their type and have default contents; no bucket exceeds the limit; and each `Acquire`
yields a default instance of the prototype's type that no other handle holds. -/
theorem intact_of_reachable (lawful : messages.Lawful) {bucketLimit : Nat}
    (reachable : Reachable messages bucketLimit state) : Intact messages bucketLimit state := by
  have orderly := orderly_of_reachable lawful reachable
  refine ⟨fun object _ => orderly.placed object, ?_, ?_, ?_⟩
  · intro key object member
    obtain ⟨kind, labelled, rfl⟩ := orderly.custody.shelved member
    obtain ⟨message, contents, rfl⟩ := Option.map_eq_some_iff.mp labelled
    exact ⟨message, contents, rfl, orderly.clean member contents⟩
  · rw [← bucketLimit_of_reachable reachable]
    exact orderly.custody.bounded
  · intro address prototype next moved
    have after := orderly.step lawful moved
    cases stepped_of_step moved
    obtain ⟨object, handles_eq, contents⟩ := orderly.acquired lawful address prototype
    have holds : (state.acquire messages address prototype).holder address = some object := by
      simp [holder, handles_eq]
    exact ⟨object, _, holds, contents, lawful.fullName_new prototype, new_new lawful prototype,
      fun other ne other_holds => ne (after.custody.alone other_holds holds)⟩

/-- A message is written through one handle, overwritten by an empty handle, and acquired again
through another. -/
def reuse : List (Operation Proto3.BytesMessage) :=
  [.acquire 0 ⟨text "T", [], []⟩, .mutate 0 ⟨text "T", [97], [49]⟩, .construct 1,
    .moveAssign 0 1 [] [], .destroy 1 [], .acquire 2 ⟨text "T", [], []⟩, .moveAssign 2 2 [] []]

/-- The state behind them. -/
def reused : PooledMessages Proto3.BytesMessage :=
  (perform Proto3.messages { bucketLimit := 2 } reuse).getD { bucketLimit := 2 }

theorem perform_reuse : perform Proto3.messages { bucketLimit := 2 } reuse = some reused := by
  have performed : (perform Proto3.messages { bucketLimit := 2 } reuse).isSome = true := by
    decide +kernel
  obtain ⟨state, state_eq⟩ := Option.isSome_iff_exists.mp performed
  rw [reused, state_eq, Option.getD_some]

theorem intact_reused : Intact Proto3.messages 2 reused :=
  intact_of_reachable Proto3.messages_lawful (Reachable.initial.perform perform_reuse)

example : reused.holder 2 = some 0 ∧ reused.objects 0 = some ⟨text "T", [], []⟩ ∧
    reused.created = 1 := by
  decide +kernel

/-! ## The pool without identities -/

/-- The contents of the stored objects, with the back of each vector first. -/
def contents (state : PooledMessages Message) : MessagePool Message where
  bucketLimit := state.bucketLimit
  buckets key := (state.buckets key).reverse.filterMap state.objects

theorem filterMap_update_of_notMem {objects : Nat → Option Message} {stored : List Nat}
    {object : Nat} (absent : object ∉ stored) (contents : Option Message) :
    stored.filterMap (Function.update objects object contents) = stored.filterMap objects := by
  apply List.filterMap_congr
  intro other member
  apply Function.update_of_ne
  rintro rfl
  exact absent member

/-- `Acquire` hands out what the pool of contents hands out. -/
theorem Orderly.contents_acquire (lawful : messages.Lawful) (orderly : Orderly messages state)
    (address : Nat) (prototype : Message) :
    state.contents.acquire messages prototype =
      (messages.new prototype, (state.acquire messages address prototype).contents) := by
  simp only [MessagePool.acquire, contents, PooledMessages.acquire]
  cases last : (state.buckets (messages.fullName prototype)).getLast? with
  | none =>
      have empty := List.getLast?_eq_none_iff.mp last
      simp only [empty, List.reverse_nil, List.filterMap_nil, PooledMessages.setHandle,
        Prod.mk.injEq, true_and, MessagePool.mk.injEq]
      funext key
      refine (filterMap_update_of_notMem ?_ _).symm
      intro member
      obtain ⟨kind, labelled, -⟩ := orderly.custody.shelved (List.mem_reverse.mp member)
      simp [label, orderly.fresh state.created le_rfl] at labelled
  | some object =>
      have bucket_eq := List.dropLast_append_getLast? object last
      have stored : object ∈ state.buckets (messages.fullName prototype) :=
        List.mem_of_getLast? last
      obtain ⟨kind, labelled, type_eq⟩ := orderly.custody.shelved stored
      obtain ⟨message, found, rfl⟩ := Option.map_eq_some_iff.mp labelled
      have bucket_contents : (state.buckets (messages.fullName prototype)).reverse.filterMap
          state.objects = message ::
            ((state.buckets (messages.fullName prototype)).dropLast.reverse.filterMap
              state.objects) := by
        conv_lhs => rw [← bucket_eq]
        simp [found]
      simp only [bucket_contents, PooledMessages.setHandle, PooledMessages.clear, Prod.mk.injEq,
        lawful.clear_eq_new type_eq, true_and, MessagePool.mk.injEq]
      funext key
      by_cases same : key = messages.fullName prototype
      · subst same
        simp only [Function.update_self]
        refine (filterMap_update_of_notMem ?_ _).symm
        have nodup := orderly.custody.nodup (messages.fullName prototype)
        rw [← bucket_eq, List.nodup_append_comm, List.singleton_append, List.nodup_cons] at nodup
        simpa using nodup.1
      · simp only [Function.update_of_ne same]
        refine (filterMap_update_of_notMem ?_ _).symm
        intro member
        obtain ⟨other, other_labelled, rfl⟩ :=
          orderly.custody.shelved (List.mem_reverse.mp member)
        rw [labelled] at other_labelled
        exact same ((Option.some.inj other_labelled).symm.trans type_eq)

theorem Orderly.length_contents (orderly : Orderly messages state) (key : Bytes) :
    (state.contents.buckets key).length = (state.buckets key).length := by
  have length_eq : (state.buckets key).reverse.length = (state.buckets key).length :=
    List.length_reverse
  rw [contents, ← length_eq, List.filterMap_length_eq_length]
  intro object member
  obtain ⟨kind, labelled, -⟩ := orderly.custody.shelved (List.mem_reverse.mp member)
  obtain ⟨message, found, -⟩ := Option.map_eq_some_iff.mp labelled
  simp [found]

/-- `PooledMessage::Release` does what the pool of contents does with the message. -/
theorem Orderly.contents_releaseHandle (orderly : Orderly messages state) {address object : Nat}
    {key : Bytes} {message : Message}
    (found : state.handles address = some ⟨true, key, some object⟩)
    (holds : state.objects object = some message) (residue : Bytes) :
    (state.releaseHandle messages address residue).contents =
      state.contents.releaseHandle messages key message := by
  have held : state.holder address = some object := by simp [holder, found]
  have absent : ∀ other, object ∉ (state.buckets other).reverse := fun other member =>
    orderly.custody.apart held (List.mem_reverse.mp member)
  have length := orderly.length_contents key
  have released : state.releaseHandle messages address residue =
      ((state.clear messages object).release key object).setHandle address
        { pool := false, key := residue, message := none } := by
    simp only [PooledMessages.releaseHandle, found]
  rw [released, MessagePool.releaseHandle, MessagePool.release, length, PooledMessages.release]
  by_cases full : state.bucketLimit ≤ (state.buckets key).length
  · have clear_full : (state.clear messages object).bucketLimit ≤
        ((state.clear messages object).buckets key).length := full
    have contents_full : state.contents.bucketLimit ≤ (state.buckets key).length := full
    rw [if_pos clear_full, if_pos contents_full]
    simp only [contents, PooledMessages.setHandle, delete, PooledMessages.clear,
      MessagePool.mk.injEq, true_and]
    funext other
    rw [Function.update_idem, filterMap_update_of_notMem (absent other)]
  · have clear_room : ¬ (state.clear messages object).bucketLimit ≤
        ((state.clear messages object).buckets key).length := full
    have contents_room : ¬ state.contents.bucketLimit ≤ (state.buckets key).length := full
    rw [if_neg clear_room, if_neg contents_room]
    simp only [contents, PooledMessages.setHandle, PooledMessages.clear, MessagePool.mk.injEq,
      true_and]
    funext other
    by_cases same : other = key
    · subst same
      rw [Function.update_self, Function.update_self, List.reverse_append,
        List.reverse_singleton, List.singleton_append, List.filterMap_cons,
        filterMap_update_of_notMem (absent other), Function.update_self, holds]
      rfl
    · rw [Function.update_of_ne same, Function.update_of_ne same,
        filterMap_update_of_notMem (absent other)]

end PooledMessages

end Hxrpc
