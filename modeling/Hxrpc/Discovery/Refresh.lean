import Hxrpc.Discovery.Resolver

/-!
# Bad instances in a refresh

`RefreshMethod` against a server that may answer each request for a child's data in its own way:
with an error, with data that is longer than the buffer of the client, or with no data at all.  The
tree of `Hxrpc.Discovery.Resolver` is the case in which all answers come from one tree.
-/

namespace Hxrpc

open ZooKeeper

namespace ZkClient

/-- What the server has to say about the data of a node; a node may have none at all. -/
abbrev DataReply := Except ErrorCode (Option Bytes)

/-- What `zoo_get` leaves in a buffer of this size. -/
def fillBuffer (size : Nat) (reply : DataReply) : DataReply :=
  reply.map fun data => data.map (·.take size)

/-- `GetData` on such a reply.  No string has the size -1 that a node without data reports. -/
def receiveData (reply : DataReply) : Option (Except RpcError Bytes) :=
  match fillBuffer 512 reply with
  | .error _ => some (.error (zkError "zoo_get failed"))
  | .ok none => none
  | .ok (some data) => some (.ok data)

/-- What a tree has to say about the data of a node. -/
def dataReply (tree : Tree) (path : Bytes) : DataReply :=
  match tree.lookup (cStr path) with
  | none => .error .noNode
  | some node => .ok node.data

theorem zooGet_eq_fillBuffer (tree : Tree) (path : Bytes) (size : Nat) :
    zooGet tree path size = fillBuffer size (dataReply tree path) := by
  simp only [zooGet, dataReply]
  cases tree.lookup (cStr path) with
  | none => rfl
  | some node => rfl

theorem getData_eq_receiveData (tree : Tree) (path : Bytes) :
    getData tree path = receiveData (dataReply tree path) := by
  have same := zooGet_eq_fillBuffer tree path 512
  cases filled : fillBuffer 512 (dataReply tree path) with
  | error code => simp only [getData, receiveData, same, filled]
  | ok found =>
      cases found with
      | none => simp only [getData, receiveData, same, filled]
      | some data => simp only [getData, receiveData, same, filled]

end ZkClient

namespace ZkResolver

open ZkClient

/-- One round of the loop of `RefreshMethod`. -/
def receiveInstance (child : Bytes) (reply : DataReply) : Option (Option ServiceInstance) :=
  (receiveData reply).map fun
    | .error _ => none
    | .ok data =>
        match parseEndpoint data with
        | .error _ => none
        | .ok endpoint => some ⟨child, endpoint⟩

/-- The loop of `RefreshMethod` over the children, each with the reply about its data. -/
def receiveInstances : List (Bytes × DataReply) → Option (List ServiceInstance)
  | [] => some []
  | (child, reply) :: rest => do
      let first ← receiveInstance child reply
      let others ← receiveInstances rest
      some (first.toList ++ others)

/-- `RefreshMethod` with the replies to its requests: first the children, then their data. -/
def refreshWith (children : Except ErrorCode (List (Bytes × DataReply))) (cache : Cache)
    (serviceName methodName : Bytes) : Option (Except RpcError (List ServiceInstance) × Cache) :=
  match children with
  | .error _ => some (.error (zkError "zoo_wget_children failed"), cache)
  | .ok children =>
      (receiveInstances children).map fun instances =>
        (.ok instances,
          Function.update cache (buildMethodPath serviceName methodName) (some instances))

/-! ## One tree that gives all the replies -/

/-- The replies of a tree for the children of a path. -/
def repliesOf (tree : Tree) (methodPath : Bytes) (children : List Bytes) :
    List (Bytes × DataReply) :=
  children.map fun child => (child, dataReply tree (methodPath ++ text "/" ++ child))

theorem readInstance_eq_receiveInstance (tree : Tree) (methodPath child : Bytes) :
    readInstance tree methodPath child =
      receiveInstance child (dataReply tree (methodPath ++ text "/" ++ child)) := by
  change Option.map _ (getData _ _) = Option.map _ (receiveData _)
  refine congr (congrArg Option.map (funext fun result => ?_)) (getData_eq_receiveData _ _)
  cases result with
  | error _ => rfl
  | ok data => cases parseEndpoint data <;> rfl

theorem readInstances_eq_receiveInstances (tree : Tree) (methodPath : Bytes)
    (children : List Bytes) :
    readInstances tree methodPath children =
      receiveInstances (repliesOf tree methodPath children) := by
  induction children with
  | nil => rfl
  | cons child rest ih =>
      rw [readInstances, ih, readInstance_eq_receiveInstance]
      rfl

/-- On a tree that does not change, `RefreshMethod` is what it is with the replies of that tree. -/
theorem refreshMethod_eq_refreshWith (arrange : List Bytes → List Bytes) (tree : Tree)
    (cache : Cache) (serviceName methodName : Bytes) :
    refreshMethod arrange tree cache serviceName methodName =
      refreshWith
        ((zooGetChildren tree (buildMethodPath serviceName methodName)).map fun children =>
          repliesOf tree (buildMethodPath serviceName methodName) (arrange children))
        cache serviceName methodName := by
  cases found : zooGetChildren tree (buildMethodPath serviceName methodName) with
  | error code => simp only [refreshMethod, refreshWith, found, Except.map]
  | ok children =>
      simp only [refreshMethod, refreshWith, found, Except.map, readInstances_eq_receiveInstances]

/-! ## The instances that are meant -/

/-- The instance that the complete data of a child names. -/
def namedInstance (child : Bytes × DataReply) : Option ServiceInstance :=
  match child.2 with
  | .ok (some data) => (parseEndpoint data).toOption.map fun endpoint => ⟨child.1, endpoint⟩
  | _ => none

/-- The refresh comes back, and its result and the cache hold exactly the instances that the
complete data of the children name, in the order of the children. -/
def Unspoiled (cache : Cache) (serviceName methodName : Bytes)
    (children : List (Bytes × DataReply)) : Prop :=
  refreshWith (.ok children) cache serviceName methodName =
    some (.ok (children.filterMap namedInstance),
      Function.update cache (buildMethodPath serviceName methodName)
        (some (children.filterMap namedInstance)))

/-- A reply that survives the buffer: there is data, or an error, and cutting the data to 512 bytes
changes nothing about the endpoint in it. -/
def FitsBuffer : DataReply → Prop
  | .error _ => True
  | .ok none => False
  | .ok (some data) =>
      (parseEndpoint (data.take 512)).toOption = (parseEndpoint data).toOption

theorem fitsBuffer_of_length_le {data : Bytes} (short : data.length ≤ 512) :
    FitsBuffer (.ok (some data)) := by
  simp only [FitsBuffer, List.take_of_length_le short]

/-- One round gives the instance that is meant just when the reply survives the buffer. -/
theorem receiveInstance_eq_iff (child : Bytes) (reply : DataReply) :
    receiveInstance child reply = some (namedInstance (child, reply)) ↔ FitsBuffer reply := by
  cases reply with
  | error code =>
      simp [receiveInstance, receiveData, fillBuffer, Except.map, namedInstance, FitsBuffer]
  | ok found =>
      cases found with
      | none => simp [receiveInstance, receiveData, fillBuffer, Except.map, FitsBuffer]
      | some data =>
          simp only [receiveInstance, receiveData, fillBuffer, Except.map, namedInstance,
            FitsBuffer, Option.map_some]
          cases parseEndpoint (data.take 512) with
          | error _ =>
              cases parseEndpoint data with
              | error _ => simp [Except.toOption]
              | ok whole => simp [Except.toOption]
          | ok cut =>
              cases parseEndpoint data with
              | error _ => simp [Except.toOption]
              | ok whole => simp [Except.toOption]

/-- Two ways of reading a list that leave the same values agree on every element, when each value
tells which of the elements it was read from. -/
theorem eq_of_filterMap_eq {α β γ : Type} {key : α → γ} {tag : β → γ} {read meant : α → Option β}
    {elements : List α} (distinct : (elements.map key).Nodup)
    (read_tag : ∀ element value, read element = some value → tag value = key element)
    (meant_tag : ∀ element value, meant element = some value → tag value = key element)
    (same : elements.filterMap read = elements.filterMap meant) {element : α}
    (member : element ∈ elements) : read element = meant element := by
  have transfer : ∀ {one other : α → Option β},
      (∀ element value, one element = some value → tag value = key element) →
      (∀ element value, other element = some value → tag value = key element) →
      elements.filterMap one = elements.filterMap other → ∀ value,
      one element = some value → other element = some value := by
    intro one other one_tag other_tag same value value_eq
    have listed : value ∈ elements.filterMap other :=
      same ▸ List.mem_filterMap.mpr ⟨element, member, value_eq⟩
    obtain ⟨source, source_member, source_eq⟩ := List.mem_filterMap.mp listed
    have keys : key source = key element :=
      (other_tag source value source_eq).symm.trans (one_tag element value value_eq)
    rw [List.inj_on_of_nodup_map distinct source_member member keys] at source_eq
    exact source_eq
  apply Option.ext
  intro value
  constructor
  · exact transfer read_tag meant_tag same value
  · exact transfer meant_tag read_tag same.symm value

theorem receiveInstances_cons_eq_some_iff {child : Bytes × DataReply}
    {rest : List (Bytes × DataReply)} {instances : List ServiceInstance} :
    receiveInstances (child :: rest) = some instances ↔
      ∃ first others, receiveInstance child.1 child.2 = some first ∧
        receiveInstances rest = some others ∧ instances = first.toList ++ others := by
  simp [receiveInstances, Option.bind_eq_some_iff, @eq_comm _ instances]

/-- The loop stops only for a child without data; otherwise it keeps what its rounds give. -/
theorem receiveInstances_eq_some_iff {children : List (Bytes × DataReply)}
    {instances : List ServiceInstance} :
    receiveInstances children = some instances ↔
      (∀ child ∈ children, (receiveInstance child.1 child.2).isSome) ∧
        instances = children.filterMap fun child => (receiveInstance child.1 child.2).join := by
  induction children generalizing instances with
  | nil =>
      constructor
      · rintro ⟨⟩
        simp
      · rintro ⟨-, rfl⟩
        rfl
  | cons child rest ih =>
      rw [receiveInstances_cons_eq_some_iff, List.forall_mem_cons]
      constructor
      · rintro ⟨first, others, first_eq, others_eq, rfl⟩
        obtain ⟨received, rfl⟩ := ih.mp others_eq
        refine ⟨⟨by rw [first_eq]; rfl, received⟩, ?_⟩
        cases first <;> simp [first_eq]
      · rintro ⟨⟨first_received, received⟩, rfl⟩
        obtain ⟨first, first_eq⟩ := Option.isSome_iff_exists.mp first_received
        refine ⟨first, _, first_eq, ih.mpr ⟨received, rfl⟩, ?_⟩
        cases first <;> simp [first_eq]

theorem receiveInstance_id {child : Bytes} {reply : DataReply} {known : ServiceInstance}
    (received : receiveInstance child reply = some (some known)) : known.id = child := by
  simp only [receiveInstance, Option.map_eq_some_iff] at received
  obtain ⟨result, -, known_eq⟩ := received
  cases result with
  | error _ => cases known_eq
  | ok data =>
      cases parsed : parseEndpoint data with
      | error _ => simp [parsed] at known_eq
      | ok endpoint =>
          simp only [parsed, Option.some.injEq] at known_eq
          exact known_eq ▸ rfl

theorem namedInstance_id {child : Bytes × DataReply} {known : ServiceInstance}
    (named : namedInstance child = some known) : known.id = child.1 := by
  obtain ⟨name, reply⟩ := child
  cases reply with
  | error _ => cases named
  | ok found =>
      cases found with
      | none => cases named
      | some data =>
          simp only [namedInstance, Option.map_eq_some_iff] at named
          obtain ⟨endpoint, -, known_eq⟩ := named
          exact known_eq ▸ rfl

/-- When every reply survives the buffer, the loop gives the instances that are meant. -/
theorem receiveInstances_of_fitsBuffer {children : List (Bytes × DataReply)}
    (fits : ∀ child ∈ children, FitsBuffer child.2) :
    receiveInstances children = some (children.filterMap namedInstance) := by
  have received : ∀ child ∈ children,
      receiveInstance child.1 child.2 = some (namedInstance child) :=
    fun child member => (receiveInstance_eq_iff child.1 child.2).mpr (fits child member)
  rw [receiveInstances_eq_some_iff]
  refine ⟨fun child member => by rw [received child member]; rfl, ?_⟩
  apply List.filterMap_congr
  intro child member
  rw [received child member]
  rfl

/-- When the loop gives the instances that are meant, every reply survives the buffer: an instance
carries the name of its child. -/
theorem fitsBuffer_of_receiveInstances {children : List (Bytes × DataReply)}
    (distinct : (children.map Prod.fst).Nodup)
    (received : receiveInstances children = some (children.filterMap namedInstance)) :
    ∀ child ∈ children, FitsBuffer child.2 := by
  obtain ⟨present, same⟩ := receiveInstances_eq_some_iff.mp received
  intro child member
  rw [← receiveInstance_eq_iff child.1]
  have agree : namedInstance child = (receiveInstance child.1 child.2).join :=
    eq_of_filterMap_eq distinct (fun _ _ => namedInstance_id)
      (fun _ _ joined => receiveInstance_id (Option.join_eq_some_iff.mp joined)) same member
  obtain ⟨found, found_eq⟩ := Option.isSome_iff_exists.mp (present child member)
  rw [agree, found_eq]
  rfl

theorem unspoiled_iff_receiveInstances {cache : Cache} {serviceName methodName : Bytes}
    {children : List (Bytes × DataReply)} :
    Unspoiled cache serviceName methodName children ↔
      receiveInstances children = some (children.filterMap namedInstance) := by
  simp only [Unspoiled, refreshWith, Option.map_eq_some_iff, Prod.mk.injEq, Except.ok.injEq]
  constructor
  · rintro ⟨instances, received, rfl, -⟩
    exact received
  · intro received
    exact ⟨_, received, rfl, rfl⟩

/-- A refresh is spoiled by a child without data, and by one whose data names another endpoint, or
stops or starts to name one, once it is cut to the buffer; by nothing else.  That these do spoil it
needs that no two children have one name. -/
theorem unspoiled_iff (cache : Cache) (serviceName methodName : Bytes)
    (children : List (Bytes × DataReply)) :
    ((∀ child ∈ children, FitsBuffer child.2) → Unspoiled cache serviceName methodName children) ∧
      ((children.map Prod.fst).Nodup →
        (Unspoiled cache serviceName methodName children ↔
          ∀ child ∈ children, FitsBuffer child.2)) := by
  rw [unspoiled_iff_receiveInstances]
  exact ⟨receiveInstances_of_fitsBuffer, fun distinct =>
    ⟨fitsBuffer_of_receiveInstances distinct, receiveInstances_of_fitsBuffer⟩⟩

/-- Three children of `/UserService/Login`: one that is gone, one with other bytes, one server. -/
def mixedChildren : List (Bytes × DataReply) :=
  [(text "gone", .error .noNode), (text "note", .ok (some (text "down for repair"))),
    (text "10.0.0.7:8000", .ok (some (text "10.0.0.7:8000")))]

theorem unspoiled_mixedChildren :
    Unspoiled (fun _ => none) (text "UserService") (text "Login") mixedChildren := by
  have distinct : (mixedChildren.map Prod.fst).Nodup := by decide
  rw [(unspoiled_iff _ _ _ _).2 distinct]
  simp only [mixedChildren, List.forall_mem_cons]
  exact ⟨trivial, fitsBuffer_of_length_le (by decide), fitsBuffer_of_length_le (by decide),
    by simp⟩

/-- A node without data next to a server: nothing comes back. -/
theorem not_unspoiled_nullNode :
    ¬ ∀ (cache : Cache) (serviceName methodName : Bytes) (children : List (Bytes × DataReply)),
      (children.map Prod.fst).Nodup → Unspoiled cache serviceName methodName children := by
  intro unspoiled
  have refreshed := unspoiled (fun _ => none) (text "UserService") (text "Login")
    [(text "empty", .ok none), (text "10.0.0.7:8000", .ok (some (text "10.0.0.7:8000")))]
    (by decide)
  simp [Unspoiled, refreshWith, receiveInstances, receiveInstance, receiveData, fillBuffer,
    Except.map] at refreshed

/-- A port that the buffer cuts short is another port. -/
example : receiveInstance [] (.ok (some (List.replicate 509 104 ++ text ":8000"))) =
    some (some ⟨[], ⟨List.replicate 509 104, 80⟩⟩) := by decide +kernel

end ZkResolver

end Hxrpc
