import Hxrpc.Types
import Hxrpc.Lib.SlashPath
import Mathlib.Data.List.AList
import Mathlib.Data.List.TakeWhile

/-!
# The ZooKeeper tree and its client

The nodes of the server with the requests of its C library, one atomic step each, and `ZkClient`
over them.  A node belongs to no session or to the session that created it as an ephemeral node; it
lasts as long as that session.
-/

namespace Hxrpc

open RpcStatusCode

namespace ZooKeeper

/-- The separator of paths. -/
def slash : UInt8 := 47

/-- What the C library sees of a string: the bytes in front of the first NUL. -/
def cStr (bytes : Bytes) : Bytes := bytes.takeWhile (· ≠ 0)

/-- A node. -/
structure Node where
  /-- Its data; a node may have none at all. -/
  data : Option Bytes
  /-- The session that an ephemeral node belongs to. -/
  owner : Option Nat := none
  deriving DecidableEq

/-- The nodes by their paths. -/
abbrev Tree := AList fun _ : Bytes => Node

/-- The results of a request that is not `ZOK`. -/
inductive ErrorCode where
  /-- `ZNONODE`. -/
  | noNode
  /-- `ZNODEEXISTS`. -/
  | nodeExists
  deriving DecidableEq

/-- The path of the root. -/
def root : Bytes := [slash]

/-- The tree that holds only the root. -/
def newTree : Tree := AList.singleton root ⟨some [], none⟩

/-- The path in front of the last separator. -/
def parentPath (path : Bytes) : Bytes :=
  match SlashPath.lastIndex slash path with
  | none => []
  | some 0 => root
  | some index => path.take index

/-- The name behind the last separator. -/
def nodeName (path : Bytes) : Bytes :=
  match SlashPath.lastIndex slash path with
  | none => path
  | some index => path.drop (index + 1)

/-- `zoo_exists`. -/
def zooExists (tree : Tree) (path : Bytes) : Except ErrorCode Unit :=
  if cStr path ∈ tree then .ok () else .error .noNode

/-- The size of the data of a node as an `int`. -/
def datalen (data : Bytes) : Int := (data.length : Int).bmod (2 ^ 32)

/-- The data of a new node; a negative size means no data. -/
def createdData (data : Bytes) : Option Bytes :=
  if datalen data < 0 then none else some (data.take (datalen data).toNat)

/-- `zoo_create`. -/
def zooCreate (tree : Tree) (path : Bytes) (node : Node) : Except ErrorCode Tree :=
  if parentPath (cStr path) ∉ tree then .error .noNode
  else if cStr path ∈ tree then .error .nodeExists
  else .ok (tree.insert (cStr path) node)

/-- `zoo_get` into a buffer of this size. -/
def zooGet (tree : Tree) (path : Bytes) (size : Nat) : Except ErrorCode (Option Bytes) :=
  match tree.lookup (cStr path) with
  | none => .error .noNode
  | some node => .ok (node.data.map (·.take size))

/-- The names of the nodes below a path, in the order in which the tree holds them. -/
def childNames (tree : Tree) (path : Bytes) : List Bytes :=
  (tree.keys.filter fun key => key ≠ root ∧ parentPath key = path).map nodeName

/-- `zoo_wget_children`, apart from the watch. -/
def zooGetChildren (tree : Tree) (path : Bytes) : Except ErrorCode (List Bytes) :=
  if cStr path ∈ tree then .ok (childNames tree (cStr path)) else .error .noNode

/-- The end of a session. -/
def endSession (tree : Tree) (session : Nat) : Tree :=
  ⟨tree.entries.filter fun entry => entry.2.owner ≠ some session,
    tree.nodupKeys.sublist List.filter_sublist⟩

/-- Every node but the root has its parent. -/
def PrefixClosed (tree : Tree) : Prop :=
  root ∈ tree ∧ ∀ path ∈ tree, path = root ∨ parentPath path ∈ tree

/-! ## Paths -/

theorem cStr_eq_self {bytes : Bytes} (absent : (0 : UInt8) ∉ bytes) : cStr bytes = bytes := by
  rw [cStr, List.takeWhile_eq_self_iff]
  intro byte member
  have ne : byte ≠ 0 := by
    rintro rfl
    exact absent member
  simpa using ne

theorem notMem_cStr (bytes : Bytes) : (0 : UInt8) ∉ cStr bytes := by
  intro member
  simpa using List.mem_takeWhile_imp member

theorem parentPath_append {front name : Bytes} (front_ne : front ≠ []) (absent : slash ∉ name) :
    parentPath (front ++ slash :: name) = front := by
  rw [parentPath, SlashPath.lastIndex_append front absent]
  cases front with
  | nil => exact absurd rfl front_ne
  | cons byte front => simp

theorem parentPath_cons {name : Bytes} (absent : slash ∉ name) :
    parentPath (slash :: name) = root := by
  rw [parentPath]
  have found := SlashPath.lastIndex_append [] absent
  rw [List.nil_append] at found
  rw [found]
  rfl

theorem nodeName_append (front : Bytes) {name : Bytes} (absent : slash ∉ name) :
    nodeName (front ++ slash :: name) = name := by
  rw [nodeName, SlashPath.lastIndex_append front absent]
  simp

/-- A path below another one is that path with a name behind it. -/
theorem eq_append_nodeName {path front : Bytes} (below : parentPath path = front)
    (front_ne : front ≠ []) (not_root : front ≠ root) :
    path = front ++ slash :: nodeName path ∧ slash ∉ nodeName path := by
  rw [parentPath] at below
  rw [nodeName]
  split at below
  · exact absurd below.symm front_ne
  · exact absurd below.symm not_root
  · rename_i index _ found
    rw [found]
    obtain ⟨path_eq, absent⟩ := SlashPath.eq_append_of_lastIndex found
    exact ⟨below ▸ path_eq, absent⟩

/-! ## The requests -/

theorem datalen_of_lt {data : Bytes} (small : data.length < 2 ^ 31) :
    datalen data = data.length := by
  have modulus : ((2 ^ 32 : Nat) : Int) = 4294967296 := rfl
  apply Int.bmod_eq_of_le_mul_two
  · omega
  · omega

theorem createdData_of_lt {data : Bytes} (small : data.length < 2 ^ 31) :
    createdData data = some data := by
  rw [createdData, datalen_of_lt small, if_neg (Int.not_lt.mpr (Int.natCast_nonneg _)),
    Int.toNat_natCast, List.take_length]

theorem zooExists_eq_ok_iff {tree : Tree} {path : Bytes} :
    zooExists tree path = .ok () ↔ cStr path ∈ tree := by
  simp [zooExists]

/-- `zoo_create` adds a node that is not there below a node that is there, and changes
nothing else. -/
theorem zooCreate_eq_ok_iff {tree next : Tree} {path : Bytes} {node : Node} :
    zooCreate tree path node = .ok next ↔ parentPath (cStr path) ∈ tree ∧ cStr path ∉ tree ∧
      next = tree.insert (cStr path) node := by
  simp only [zooCreate]
  split
  · simp_all
  · split
    · simp_all
    · simp_all [eq_comm]

theorem zooGet_eq_ok {tree : Tree} {path key : Bytes} {node : Node} (same : cStr path = key)
    (found : tree.lookup key = some node) (size : Nat) :
    zooGet tree path size = .ok (node.data.map (·.take size)) := by
  subst same
  simp only [zooGet, found]

theorem lookup_endSession (tree : Tree) (session : Nat) (path : Bytes) :
    (endSession tree session).lookup path =
      (tree.lookup path).filter fun node => node.owner ≠ some session := by
  ext node
  rw [← Option.mem_def, ← Option.mem_def, AList.mem_lookup_iff, Option.mem_filter_iff,
    AList.mem_lookup_iff]
  simp [endSession]

/-- The names below a path are the last components of the nodes there. -/
theorem mem_childNames {tree : Tree} {path child : Bytes} (path_ne : path ≠ [])
    (not_root : path ≠ root) :
    child ∈ childNames tree path ↔ path ++ slash :: child ∈ tree ∧ slash ∉ child := by
  simp only [childNames, List.mem_map, List.mem_filter, decide_eq_true_eq, ← AList.mem_keys]
  constructor
  · rintro ⟨key, ⟨member, -, parent⟩, rfl⟩
    obtain ⟨key_eq, absent⟩ := eq_append_nodeName parent path_ne not_root
    exact ⟨key_eq ▸ member, absent⟩
  · rintro ⟨member, absent⟩
    refine ⟨path ++ slash :: child, ⟨member, ?_, parentPath_append path_ne absent⟩,
      nodeName_append path absent⟩
    intro same
    cases path with
    | nil => exact path_ne rfl
    | cons first rest => simp [root] at same

/-- Each name is listed once. -/
theorem nodup_childNames {tree : Tree} {path : Bytes} (path_ne : path ≠ [])
    (not_root : path ≠ root) : (childNames tree path).Nodup := by
  refine List.Nodup.map_on ?_ (tree.keys_nodup.filter _)
  intro left left_member right right_member same
  simp only [List.mem_filter, decide_eq_true_eq] at left_member right_member
  rw [(eq_append_nodeName left_member.2.2 path_ne not_root).1,
    (eq_append_nodeName right_member.2.2 path_ne not_root).1, same]

/-- New nodes below existing ones keep the tree prefix-closed. -/
theorem PrefixClosed.insert {tree : Tree} (closed : PrefixClosed tree) {path : Bytes}
    (below : parentPath path ∈ tree) (node : Node) : PrefixClosed (tree.insert path node) := by
  refine ⟨by simp [closed.1], ?_⟩
  intro other member
  rcases (AList.mem_insert tree).mp member with rfl | member
  · exact Or.inr ((AList.mem_insert tree).mpr (Or.inr below))
  · rcases closed.2 other member with same | parent
    · exact Or.inl same
    · exact Or.inr ((AList.mem_insert tree).mpr (Or.inr parent))

theorem prefixClosed_newTree : PrefixClosed newTree := by
  refine ⟨by simp [newTree, AList.mem_keys], ?_⟩
  intro path member
  left
  simpa [newTree, AList.mem_keys] using member

end ZooKeeper

end Hxrpc
