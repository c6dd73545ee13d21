import Hxrpc.EndpointText

/-!
# Static discovery

`StaticResolver` on the settings of a loaded configuration.  The services are collected from the
entries in the order of an iteration, and a key is stripped of its prefix before it is looked up.
Distinct keys stay distinct, so every entry ends up where `Resolve` looks for it.
-/

namespace Hxrpc

open Config RpcStatusCode Settings

/-- What `uniform_int_distribution` over `0, ..., last` returns. -/
abbrev Draw := (last : Nat) → Fin (last + 1)

/-- `ChooseItem`; its callers have checked that there is an item. -/
def chooseItem {Item : Type} (items : List Item) (nonempty : items ≠ [])
    (policy : ResolverSelectionPolicy) (draw : Draw) : Item :=
  match policy with
  | .kRandom =>
      items.get ((draw (items.length - 1)).cast
        (Nat.sub_add_cancel (List.length_pos_iff.mpr nonempty)))

namespace StaticResolver

/-- `MakeServiceKey`. -/
def makeServiceKey (serviceName methodName : Bytes) : Bytes :=
  serviceName ++ text "." ++ methodName

/-- `ChooseInstance`. -/
def chooseInstance (config : DiscoveryConfig) (endpoints : List Endpoint) (draw : Draw) :
    Except RpcError ServiceInstance :=
  if nonempty : endpoints ≠ [] then
    let endpoint := chooseItem endpoints nonempty config.selectionPolicy draw
    .ok ⟨endpoint.toString, endpoint⟩
  else .error ⟨kDiscoveryError, text "no static instance available"⟩

/-- `Resolve`. -/
def resolve (config : DiscoveryConfig) (serviceName methodName : Bytes) (draw : Draw) :
    Except RpcError ServiceInstance :=
  let key := makeServiceKey serviceName methodName
  match config.staticServices.lookup key with
  | none => .error ⟨kDiscoveryError, text "missing static service: " ++ key⟩
  | some endpoints => chooseInstance config endpoints draw

end StaticResolver

namespace Settings

/-! ## The collected services -/

theorem lookup_emplace (services : AList fun _ : Bytes => List Endpoint) (key other : Bytes)
    (value : List Endpoint) :
    (emplace services key value).lookup other =
      if other = key then some ((services.lookup key).getD value) else services.lookup other := by
  by_cases present : key ∈ services
  · obtain ⟨kept, found⟩ := Option.isSome_iff_exists.mp (AList.lookup_isSome.mpr present)
    rw [emplace, if_pos present]
    split_ifs with same
    · rw [same, found, Option.getD_some]
    · rfl
  · rw [emplace, if_neg present, AList.lookup_eq_none.mpr present]
    split_ifs with same
    · rw [same, AList.lookup_insert, Option.getD_none]
    · exact AList.lookup_insert_ne same

/-- What an entry sets for a service key. -/
def serviceOf (serviceKey : Bytes) (value : Bytes) : Option (List Endpoint) :=
  (parseEndpointList value (servicesPrefix ++ serviceKey)).toOption

/-- An entry is only seen under its own key without the prefix. -/
theorem lookup_addService (services : AList fun _ : Bytes => List Endpoint) (key value : Bytes)
    (serviceKey : Bytes) :
    (addService services ⟨key, value⟩).lookup serviceKey =
      if key = servicesPrefix ++ serviceKey then
        (services.lookup serviceKey).or (serviceOf serviceKey value)
      else services.lookup serviceKey := by
  by_cases prefixed : servicesPrefix <+: key
  · obtain ⟨own, rfl⟩ := prefixed
    have starts : servicesPrefix.isPrefixOf (servicesPrefix ++ own) = true :=
      List.isPrefixOf_iff_prefix.mpr (List.prefix_append _ _)
    have stripped : (servicesPrefix ++ own).drop servicesPrefix.length = own := List.drop_left
    simp only [addService, starts, if_true, stripped, List.append_cancel_left_eq]
    cases parsed : parseEndpointList value (servicesPrefix ++ own) with
    | error error =>
        split_ifs with same
        · subst same
          rw [serviceOf, parsed]
          exact (Option.or_none).symm
        · rfl
    | ok endpoints =>
        simp only [lookup_emplace, eq_comm]
        split_ifs with same
        · subst same
          rw [serviceOf, parsed]
          cases services.lookup serviceKey with
          | none => rfl
          | some kept => rfl
        · rfl
  · have starts : servicesPrefix.isPrefixOf key = false :=
      Bool.eq_false_iff.mpr fun starts => prefixed (List.isPrefixOf_iff_prefix.mp starts)
    have other : key ≠ servicesPrefix ++ serviceKey := by
      rintro rfl
      exact prefixed (List.prefix_append _ _)
    simp only [addService, starts, other, if_false, Bool.false_eq_true]

/-- Behind the loop a service has what the entry of its key says.  The induction is on the entries;
no later entry has the key of the first. -/
theorem lookup_foldl_addService {entries : List (Sigma fun _ : Bytes => Bytes)}
    (nodup : entries.NodupKeys) (services : AList fun _ : Bytes => List Endpoint)
    (serviceKey : Bytes) :
    (entries.foldl addService services).lookup serviceKey =
      (services.lookup serviceKey).or
        ((entries.dlookup (servicesPrefix ++ serviceKey)).bind (serviceOf serviceKey)) := by
  induction entries generalizing services with
  | nil => simp
  | cons entry entries ih =>
      obtain ⟨key, value⟩ := entry
      obtain ⟨fresh, nodup⟩ := List.nodupKeys_cons.mp nodup
      rw [List.foldl_cons, ih nodup, lookup_addService]
      split_ifs with same
      · subst same
        have later : entries.dlookup (servicesPrefix ++ serviceKey) = none :=
          List.dlookup_eq_none.mpr fresh
        rw [later, List.dlookup_cons_eq, Option.bind_none, Option.or_none, Option.bind_some]
      · rw [List.dlookup_cons_ne _ _ (Ne.symm same)]

/-- The services do not depend on the order of the entries. -/
theorem lookup_staticServices (config : HxrpcConfig) (serviceKey : Bytes) :
    (loadDiscoveryConfig config).staticServices.lookup serviceKey =
      (config.configMap.lookup (servicesPrefix ++ serviceKey)).bind (serviceOf serviceKey) := by
  have nodup : config.entries.NodupKeys :=
    (List.perm_nodupKeys config.walks).mpr config.configMap.nodupKeys
  have same : config.entries.dlookup (servicesPrefix ++ serviceKey) =
      config.configMap.lookup (servicesPrefix ++ serviceKey) :=
    List.perm_dlookup _ nodup config.walks
  rw [loadDiscoveryConfig, lookup_foldl_addService nodup, AList.lookup_empty, Option.none_or, same]

/-! ## What a key lists -/

theorem parseItems_eq_ok_iff {fieldName : Bytes} {items : List Bytes}
    {endpoints : List Endpoint} :
    parseItems fieldName items = .ok endpoints ↔
      List.Forall₂ (fun item endpoint => parseEndpoint (trimCopy item) fieldName = .ok endpoint)
        items endpoints := by
  induction items generalizing endpoints with
  | nil => simp [parseItems, eq_comm]
  | cons item items ih =>
      rw [parseItems, List.forall₂_cons_left_iff]
      cases first : parseEndpoint (trimCopy item) fieldName with
      | error error => simp
      | ok endpoint =>
          cases others : parseItems fieldName items with
          | error error => simp [← ih, others]
          | ok rest =>
              simp only [Except.ok.injEq]
              constructor
              · rintro rfl
                exact ⟨endpoint, rest, rfl, ih.mp others, rfl⟩
              · rintro ⟨_, tail, rfl, tail_parsed, rfl⟩
                rw [Except.ok.inj (others.symm.trans (ih.mpr tail_parsed))]

/-- The configuration has the key, and the endpoints are those of the items of its value. -/
def Lists (config : HxrpcConfig) (key : Bytes) (endpoints : List Endpoint) : Prop :=
  ∃ value, config.configMap.lookup key = some value ∧
    List.Forall₂ (fun item endpoint => parseEndpoint (trimCopy item) key = .ok endpoint)
      (value.splitOn comma) endpoints

theorem lookup_staticServices_eq_some_iff {config : HxrpcConfig} {serviceKey : Bytes}
    {endpoints : List Endpoint} :
    (loadDiscoveryConfig config).staticServices.lookup serviceKey = some endpoints ↔
      Lists config (servicesPrefix ++ serviceKey) endpoints := by
  have listed : ∀ value, serviceOf serviceKey value = some endpoints ↔
      List.Forall₂ (fun item endpoint =>
          parseEndpoint (trimCopy item) (servicesPrefix ++ serviceKey) = .ok endpoint)
        (value.splitOn comma) endpoints := by
    intro value
    rw [← split_eq, ← parseItems_eq_ok_iff, ← parseEndpointList, serviceOf]
    cases parseEndpointList value (servicesPrefix ++ serviceKey) with
    | error error => simp [Except.toOption]
    | ok endpoints => simp [Except.toOption]
  simp only [lookup_staticServices, Option.bind_eq_some_iff, listed, Lists]

/-- A value has at least one item. -/
theorem Lists.ne_nil {config : HxrpcConfig} {key : Bytes} {endpoints : List Endpoint}
    (lists : Lists config key endpoints) : endpoints ≠ [] := by
  obtain ⟨value, -, items⟩ := lists
  rintro rfl
  exact List.splitOn_ne_nil comma value (List.forall₂_nil_right_iff.mp items)

/-- Listed endpoints are valid. -/
theorem Lists.isValid {config : HxrpcConfig} {key : Bytes} {endpoints : List Endpoint}
    (lists : Lists config key endpoints) {endpoint : Endpoint} (member : endpoint ∈ endpoints) :
    ZkResolver.isValid endpoint = true := by
  obtain ⟨value, -, items⟩ := lists
  generalize value.splitOn comma = parts at items
  induction items with
  | nil => cases member
  | cons parsed _ ih =>
      rcases List.mem_cons.mp member with rfl | member
      · obtain ⟨_, _, _, _, _, _, valid⟩ := parseEndpoint_eq_ok_iff.mp parsed
        exact valid
      · exact ih member

end Settings

namespace StaticResolver

/-! ## Choosing -/

theorem chooseInstance_of_ne_nil (config : DiscoveryConfig) {endpoints : List Endpoint}
    (nonempty : endpoints ≠ []) (draw : Draw) :
    ∃ endpoint ∈ endpoints,
      chooseInstance config endpoints draw = .ok ⟨endpoint.toString, endpoint⟩ := by
  refine ⟨chooseItem endpoints nonempty config.selectionPolicy draw, ?_, ?_⟩
  · cases config.selectionPolicy with
    | kRandom => exact List.get_mem _ _
  · rw [chooseInstance, dif_pos nonempty]

/-- Every endpoint has a draw that chooses it. -/
theorem exists_draw (config : DiscoveryConfig) {endpoints : List Endpoint} {endpoint : Endpoint}
    (member : endpoint ∈ endpoints) :
    ∃ draw, chooseInstance config endpoints draw = .ok ⟨endpoint.toString, endpoint⟩ := by
  obtain ⟨index, rfl⟩ := List.get_of_mem member
  have nonempty : endpoints ≠ [] := List.ne_nil_of_mem member
  have bound := index.isLt
  refine ⟨fun last => ⟨min index.val last, by omega⟩, ?_⟩
  have chosen : chooseItem endpoints nonempty config.selectionPolicy
      (fun last => ⟨min index.val last, by omega⟩) = endpoints.get index := by
    cases config.selectionPolicy with
    | kRandom =>
        rw [chooseItem]
        congr 1
        apply Fin.ext
        simp only [Fin.val_cast]
        omega
  rw [chooseInstance, dif_pos nonempty, chosen]

/-- The key under which a configuration lists the endpoints of a method. -/
def configKey (serviceName methodName : Bytes) : Bytes :=
  text "discovery.services." ++ serviceName ++ text "." ++ methodName

theorem configKey_eq (serviceName methodName : Bytes) :
    configKey serviceName methodName = servicesPrefix ++ makeServiceKey serviceName methodName := by
  simp only [configKey, servicesPrefix, makeServiceKey, List.append_assoc]

variable {config : HxrpcConfig} {serviceName methodName : Bytes}

theorem resolve_of_lists {endpoints : List Endpoint}
    (lists : Lists config (configKey serviceName methodName) endpoints) (draw : Draw) :
    resolve (loadDiscoveryConfig config) serviceName methodName draw =
      chooseInstance (loadDiscoveryConfig config) endpoints draw := by
  rw [configKey_eq] at lists
  simp only [resolve, lookup_staticServices_eq_some_iff.mpr lists]

theorem exists_lists_of_resolve {draw : Draw} {found : ServiceInstance}
    (resolved : resolve (loadDiscoveryConfig config) serviceName methodName draw = .ok found) :
    ∃ endpoints, Lists config (configKey serviceName methodName) endpoints := by
  rw [configKey_eq]
  cases services : (loadDiscoveryConfig config).staticServices.lookup
      (makeServiceKey serviceName methodName) with
  | none =>
      simp only [resolve, services] at resolved
      cases resolved
  | some endpoints => exact ⟨endpoints, lookup_staticServices_eq_some_iff.mp services⟩

/-- `Resolve` fails with no other code. -/
theorem code_of_resolve_error {settings : DiscoveryConfig} {draw : Draw} {error : RpcError}
    (failed : resolve settings serviceName methodName draw = .error error) :
    error.code = kDiscoveryError := by
  simp only [resolve, chooseInstance] at failed
  cases services : settings.staticServices.lookup (makeServiceKey serviceName methodName) with
  | none =>
      rw [services] at failed
      obtain rfl := Except.error.inj failed
      rfl
  | some endpoints =>
      simp only [services] at failed
      split_ifs at failed
      obtain rfl := Except.error.inj failed
      rfl

/-- Only the entry of the method matters. -/
theorem resolve_congr {other : HxrpcConfig}
    (same : other.configMap.lookup (configKey serviceName methodName) =
      config.configMap.lookup (configKey serviceName methodName)) (draw : Draw) :
    resolve (loadDiscoveryConfig other) serviceName methodName draw =
      resolve (loadDiscoveryConfig config) serviceName methodName draw := by
  have services : (loadDiscoveryConfig other).staticServices.lookup
        (makeServiceKey serviceName methodName) =
      (loadDiscoveryConfig config).staticServices.lookup
        (makeServiceKey serviceName methodName) := by
    rw [lookup_staticServices, lookup_staticServices, ← configKey_eq, same]
  have policy : ∀ endpoints, chooseInstance (loadDiscoveryConfig other) endpoints draw =
      chooseInstance (loadDiscoveryConfig config) endpoints draw := fun _ => rfl
  simp only [resolve, services, policy]

/-- `Resolve` returns an instance exactly if the key of the method is there and every item of its
value is an endpoint; then it is one of the listed endpoints, each of which some draw returns.
Otherwise discovery fails.  Neither the order of the entries nor any other key matters. -/
theorem resolve_spec (config : HxrpcConfig) (serviceName methodName : Bytes) :
    (∀ draw, (∃ found, resolve (loadDiscoveryConfig config) serviceName methodName draw =
        .ok found) ↔
      ∃ endpoints, Lists config (configKey serviceName methodName) endpoints) ∧
    (∀ endpoints, Lists config (configKey serviceName methodName) endpoints →
      (∀ draw, ∃ endpoint ∈ endpoints, ZkResolver.isValid endpoint = true ∧
        resolve (loadDiscoveryConfig config) serviceName methodName draw =
          .ok ⟨endpoint.toString, endpoint⟩) ∧
      ∀ endpoint ∈ endpoints, ∃ draw,
        resolve (loadDiscoveryConfig config) serviceName methodName draw =
          .ok ⟨endpoint.toString, endpoint⟩) ∧
    (∀ draw error, resolve (loadDiscoveryConfig config) serviceName methodName draw =
      .error error → error.code = kDiscoveryError) ∧
    ∀ other : HxrpcConfig,
      other.configMap.lookup (configKey serviceName methodName) =
        config.configMap.lookup (configKey serviceName methodName) →
      ∀ draw, resolve (loadDiscoveryConfig other) serviceName methodName draw =
        resolve (loadDiscoveryConfig config) serviceName methodName draw := by
  refine ⟨?_, ?_, fun _ _ => code_of_resolve_error, fun _ => resolve_congr⟩
  · intro draw
    constructor
    · rintro ⟨found, resolved⟩
      exact exists_lists_of_resolve resolved
    · rintro ⟨endpoints, lists⟩
      obtain ⟨endpoint, -, chosen⟩ :=
        chooseInstance_of_ne_nil (loadDiscoveryConfig config) lists.ne_nil draw
      exact ⟨_, (resolve_of_lists lists draw).trans chosen⟩
  · intro endpoints lists
    constructor
    · intro draw
      obtain ⟨endpoint, member, chosen⟩ :=
        chooseInstance_of_ne_nil (loadDiscoveryConfig config) lists.ne_nil draw
      exact ⟨endpoint, member, lists.isValid member, (resolve_of_lists lists draw).trans chosen⟩
    · intro endpoint member
      obtain ⟨draw, chosen⟩ := exists_draw (loadDiscoveryConfig config) member
      exact ⟨draw, (resolve_of_lists lists draw).trans chosen⟩

/-- A configuration that lists two endpoints for one method. -/
def twoEndpoints : HxrpcConfig where
  configMap := AList.singleton (text "discovery.services.User.Login") (text "a:1, b:2")
  entries := [⟨text "discovery.services.User.Login", text "a:1, b:2"⟩]
  walks := List.Perm.refl _

theorem resolve_twoEndpoints :
    ∃ draw, resolve (loadDiscoveryConfig twoEndpoints) (text "User") (text "Login") draw =
      .ok ⟨text "b:2", ⟨text "b", 2⟩⟩ := by
  have parts : (text "a:1, b:2").splitOn comma = [text "a:1", text " b:2"] := by decide +kernel
  have lists : Lists twoEndpoints (configKey (text "User") (text "Login"))
      [⟨text "a", 1⟩, ⟨text "b", 2⟩] := by
    refine ⟨text "a:1, b:2", by decide +kernel, ?_⟩
    rw [parts]
    exact .cons (by decide +kernel) (.cons (by decide +kernel) .nil)
  exact ((resolve_spec twoEndpoints (text "User") (text "Login")).2.1 _ lists).2
    ⟨text "b", 2⟩ (by simp)

end StaticResolver

end Hxrpc
