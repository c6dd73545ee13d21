import Hxrpc.Dispatcher
import Hxrpc.Lib.Decimal

/-!
# Lookup in the registry

A method is filed under the concatenation of its service name, a dot and its own name, and a request
brings the two names as arbitrary bytes.  Registered names have no dot, so the key of a registered
method has exactly one and can be cut in one way only.  Lookup therefore finds the last registration
of exactly the requested pair.
-/

namespace Hxrpc

open RpcStatusCode

/-- The separator of a key. -/
def dot : UInt8 := 46

/-- No name of the service contains the separator. -/
def Service.Plain {Message : Type} {messages : MessageRuntime Message}
    (service : Service messages) : Prop :=
  dot ∉ service.name ∧ ∀ method ∈ service.methods, dot ∉ method

/-- The service has the requested name and a method with the requested name. -/
def Service.Offers {Message : Type} {messages : MessageRuntime Message}
    (service : Service messages) (serviceName methodName : Bytes) : Prop :=
  service.name = serviceName ∧ methodName ∈ service.methods

instance {Message : Type} {messages : MessageRuntime Message} (service : Service messages)
    (serviceName methodName : Bytes) : Decidable (service.Offers serviceName methodName) :=
  inferInstanceAs (Decidable (_ ∧ _))

/-- What `RegisterService` stores for a method of a service. -/
def Service.binding {Message : Type} {messages : MessageRuntime Message}
    (service : Service messages) (methodName : Bytes) : RegisteredMethod messages where
  serviceName := service.name
  methodName := methodName
  service := service
  method := ⟨service.name, methodName⟩

namespace ServiceRegistry

variable {Message : Type} {messages : MessageRuntime Message}

/-! ## Keys -/

theorem key_eq (serviceName methodName : Bytes) :
    key serviceName methodName = serviceName ++ dot :: methodName := by
  simp [key, dot, text]

theorem count_key (serviceName methodName : Bytes) :
    (key serviceName methodName).count dot =
      serviceName.count dot + methodName.count dot + 1 := by
  rw [key_eq, List.count_append, List.count_cons_self]
  omega

/-- No pair of names shares its key with a pair without dots. -/
theorem key_eq_key_iff {registeredService registeredMethod : Bytes}
    (service_free : dot ∉ registeredService) (method_free : dot ∉ registeredMethod)
    (serviceName methodName : Bytes) :
    key registeredService registeredMethod = key serviceName methodName ↔
      registeredService = serviceName ∧ registeredMethod = methodName := by
  constructor
  · intro same
    have counts := congrArg (List.count dot) same
    rw [count_key, count_key, List.count_eq_zero.mpr service_free,
      List.count_eq_zero.mpr method_free] at counts
    have requested_free : dot ∉ methodName := List.count_eq_zero.mp (by omega)
    rw [key_eq, key_eq] at same
    exact Decimal.append_cons_inj_of_notMem method_free requested_free same
  · rintro ⟨rfl, rfl⟩
    rfl

/-! ## Registration -/

/-- The registry after registering the services one by one. -/
def registerAll (services : List (Service messages)) : ServiceRegistry messages :=
  services.foldl registerService ∅

theorem registerAll_concat (services : List (Service messages)) (service : Service messages) :
    registerAll (services ++ [service]) = registerService (registerAll services) service := by
  simp [registerAll]

/-- Registering a service binds the pairs that it offers and leaves every other pair alone. -/
theorem lookup_registerService {service : Service messages} (plain : service.Plain)
    (registry : ServiceRegistry messages) (serviceName methodName : Bytes) :
    (registry.registerService service).lookup (key serviceName methodName) =
      if service.Offers serviceName methodName then some (service.binding methodName)
      else registry.lookup (key serviceName methodName) := by
  obtain ⟨name_free, methods_free⟩ := plain
  have fold : ∀ (methods : List Bytes) (before : ServiceRegistry messages),
      (∀ method ∈ methods, dot ∉ method) →
      (methods.foldl (fun registry method =>
          registry.insert (key service.name method) (service.binding method)) before).lookup
        (key serviceName methodName) =
          if service.name = serviceName ∧ methodName ∈ methods then
            some (service.binding methodName)
          else before.lookup (key serviceName methodName) := by
    intro methods
    induction methods with
    | nil => simp
    | cons method methods ih =>
        intro before free
        rw [List.foldl_cons, ih _ fun other member => free other (List.mem_cons_of_mem _ member)]
        have same_key := key_eq_key_iff name_free (free method List.mem_cons_self) serviceName
          methodName
        by_cases bound : service.name = serviceName ∧ method = methodName
        · obtain ⟨rfl, rfl⟩ := bound
          simp [AList.lookup_insert]
        · rw [AList.lookup_insert_ne fun same => bound (same_key.mp same.symm)]
          have offered_iff : (service.name = serviceName ∧ methodName ∈ method :: methods) ↔
              service.name = serviceName ∧ methodName ∈ methods := by
            rw [List.mem_cons]
            constructor
            · rintro ⟨named, rfl | member⟩
              · exact absurd ⟨named, rfl⟩ bound
              · exact ⟨named, member⟩
            · rintro ⟨named, member⟩
              exact ⟨named, .inr member⟩
          simp only [offered_iff]
  exact fold service.methods registry methods_free

/-- The last of the services that offers the pair. -/
def lastOffering (services : List (Service messages)) (serviceName methodName : Bytes) :
    Option (Service messages) :=
  services.reverse.find? fun service => service.Offers serviceName methodName

/-- Whatever was registered before, a pair is bound by the last service that offers it. -/
theorem lookup_registerAll {services : List (Service messages)}
    (plain : ∀ service ∈ services, service.Plain) (serviceName methodName : Bytes) :
    (registerAll services).lookup (key serviceName methodName) =
      (lastOffering services serviceName methodName).map fun service =>
        service.binding methodName := by
  induction services using List.reverseRecOn with
  | nil => rfl
  | append_singleton services service ih =>
      have earlier := ih fun other member => plain other (List.mem_append_left _ member)
      rw [registerAll_concat, lookup_registerService (plain service (by simp)), earlier]
      simp only [lastOffering, List.reverse_append, List.reverse_singleton, List.singleton_append,
        List.find?_cons]
      by_cases offers : service.Offers serviceName methodName
      · simp [offers]
      · simp [offers]

theorem exists_lastOffering_iff {services : List (Service messages)}
    {serviceName methodName : Bytes} :
    (lastOffering services serviceName methodName).isSome ↔
      ∃ service ∈ services, service.Offers serviceName methodName := by
  simp [lastOffering]

theorem lastOffering_of_split {front behind : List (Service messages)}
    {service : Service messages} {serviceName methodName : Bytes}
    (offers : service.Offers serviceName methodName)
    (last : ∀ later ∈ behind, ¬ later.Offers serviceName methodName) :
    lastOffering (front ++ service :: behind) serviceName methodName = some service := by
  have skipped : behind.reverse.find? (fun later => later.Offers serviceName methodName) =
      none := by
    rw [List.find?_eq_none]
    intro later member
    simpa using last later (List.mem_reverse.mp member)
  simp only [lastOffering, List.reverse_append, List.reverse_cons, List.append_assoc]
  rw [List.find?_append, skipped]
  simp [offers]

/-- What is stored under a key carries the names that make up the key. -/
theorem key_of_lookup {services : List (Service messages)} {stored : Bytes}
    {registered : RegisteredMethod messages}
    (found : (registerAll services).lookup stored = some registered) :
    stored = key registered.serviceName registered.methodName := by
  have step : ∀ (service : Service messages) (methods : List Bytes)
      (before : ServiceRegistry messages),
      (∀ stored registered, before.lookup stored = some registered →
        stored = key registered.serviceName registered.methodName) →
      ∀ stored registered, (methods.foldl (fun registry method =>
          registry.insert (key service.name method) (service.binding method)) before).lookup
        stored = some registered →
          stored = key registered.serviceName registered.methodName := by
    intro service methods
    induction methods with
    | nil => exact fun before keyed => keyed
    | cons method methods ih =>
        intro before keyed
        apply ih
        intro stored registered found
        by_cases same : stored = key service.name method
        · subst same
          rw [AList.lookup_insert] at found
          obtain rfl := Option.some.inj found
          rfl
        · rw [AList.lookup_insert_ne same] at found
          exact keyed stored registered found
  induction services using List.reverseRecOn generalizing stored registered with
  | nil => cases found
  | append_singleton services service ih =>
      rw [registerAll_concat] at found
      exact step service service.methods (registerAll services) (fun _ _ earlier => ih earlier)
        stored registered found

/-- Some stored method has the service name exactly when a registered service of that name has a
method. -/
theorem any_serviceName_iff {services : List (Service messages)}
    (plain : ∀ service ∈ services, service.Plain) (serviceName : Bytes) :
    ((registerAll services).entries.any fun entry => entry.2.serviceName = serviceName) = true ↔
      ∃ service ∈ services, service.name = serviceName ∧ service.methods ≠ [] := by
  rw [List.any_eq_true]
  constructor
  · rintro ⟨⟨stored, registered⟩, member, named⟩
    have named : registered.serviceName = serviceName := of_decide_eq_true named
    have found : (registerAll services).lookup stored = some registered :=
      AList.mem_lookup_iff.mpr member
    rw [key_of_lookup found, lookup_registerAll plain, Option.map_eq_some_iff] at found
    obtain ⟨service, last, -⟩ := found
    obtain ⟨service, member, offers⟩ := exists_lastOffering_iff.mp (Option.isSome_of_eq_some last)
    exact ⟨service, member, offers.1.trans named, List.ne_nil_of_mem offers.2⟩
  · rintro ⟨service, member, rfl, methods⟩
    obtain ⟨method, offered⟩ := List.exists_mem_of_ne_nil _ methods
    obtain ⟨last, last_eq⟩ := Option.isSome_iff_exists.mp
      (exists_lastOffering_iff.mpr ⟨service, member, rfl, offered⟩)
    have found := lookup_registerAll plain service.name method
    rw [last_eq, Option.map_some] at found
    have offers : last.Offers service.name method := by
      simpa using List.find?_some last_eq
    exact ⟨⟨_, last.binding method⟩, AList.mem_lookup_iff.mp found, decide_eq_true offers.1⟩

/-! ## `Find` -/

/-- The result of `Find` in terms of the registered services. -/
theorem find_eq {services : List (Service messages)}
    (plain : ∀ service ∈ services, service.Plain) (serviceName methodName : Bytes) :
    (registerAll services).find serviceName methodName =
      match lastOffering services serviceName methodName with
      | some service => .ok (service.binding methodName)
      | none =>
          if (registerAll services).entries.any fun entry => entry.2.serviceName = serviceName then
            .error ⟨kUnknownMethod, text "unknown method"⟩
          else
            .error ⟨kUnknownService, text "unknown service"⟩ := by
  rw [find, lookup_registerAll plain]
  cases lastOffering services serviceName methodName <;> rfl

/-- For services without dots in their names and any two requested byte strings, `Find` returns a
method exactly when some registered service offers it, and then the binding of the last one that
does.  Otherwise the code tells whether a service of the requested name has methods. -/
theorem find_registerAll {services : List (Service messages)}
    (plain : ∀ service ∈ services, service.Plain) (serviceName methodName : Bytes) :
    ((∃ registered, (registerAll services).find serviceName methodName = .ok registered) ↔
      ∃ service ∈ services, service.Offers serviceName methodName) ∧
    (∀ front service behind, services = front ++ service :: behind →
      service.Offers serviceName methodName →
      (∀ later ∈ behind, ¬ later.Offers serviceName methodName) →
      (registerAll services).find serviceName methodName =
        .ok ⟨serviceName, methodName, service, ⟨serviceName, methodName⟩⟩) ∧
    ((registerAll services).find serviceName methodName =
        .error ⟨kUnknownMethod, text "unknown method"⟩ ↔
      (¬ ∃ service ∈ services, service.Offers serviceName methodName) ∧
        ∃ service ∈ services, service.name = serviceName ∧ service.methods ≠ []) ∧
    ((registerAll services).find serviceName methodName =
        .error ⟨kUnknownService, text "unknown service"⟩ ↔
      (¬ ∃ service ∈ services, service.Offers serviceName methodName) ∧
        ¬ ∃ service ∈ services, service.name = serviceName ∧ service.methods ≠ []) := by
  have found := find_eq plain serviceName methodName
  have offered : (lastOffering services serviceName methodName).isSome ↔
      ∃ service ∈ services, service.Offers serviceName methodName := exists_lastOffering_iff
  have exists_service := any_serviceName_iff plain serviceName
  refine ⟨?_, ?_, ?_⟩
  · rw [← offered, found]
    cases lastOffering services serviceName methodName with
    | some service => simp
    | none =>
        simp only [Option.isSome_none, Bool.false_eq_true, iff_false]
        split <;> simp
  · rintro front service behind rfl offers last
    rw [found, lastOffering_of_split offers last]
    obtain ⟨rfl, -⟩ := offers
    rfl
  · rw [found, ← offered, ← exists_service]
    cases lastOffering services serviceName methodName with
    | some service => simp
    | none =>
        have codes : kUnknownMethod ≠ kUnknownService := by decide
        cases (registerAll services).entries.any fun entry =>
            entry.2.serviceName = serviceName with
        | true => simp [codes]
        | false => simp [codes.symm]

/-- A service whose methods return the response object as it is. -/
def silentService (name : Bytes) (methods : List Bytes) : Service Proto3.messages where
  name := name
  methods := methods
  requestPrototype _ := ⟨text "T", [], []⟩
  responsePrototype _ := ⟨text "T", [], []⟩
  callMethod _ controller _ response := ⟨response, true, controller⟩
  callMethod_fullName _ _ _ _ := rfl

/-- Two services `S`, of which the second takes the method `M` over. -/
def twoServices : List (Service Proto3.messages) :=
  [silentService (text "S") [text "M", text "N"], silentService (text "S") [text "M"]]

theorem plain_twoServices : ∀ service ∈ twoServices, service.Plain := by
  simp only [twoServices, List.mem_cons, List.not_mem_nil, or_false]
  rintro service (rfl | rfl)
  · exact ⟨by decide, by decide⟩
  · exact ⟨by decide, by decide⟩

theorem find_twoServices :
    (registerAll twoServices).find (text "S") (text "M") =
      .ok ⟨text "S", text "M", silentService (text "S") [text "M"], ⟨text "S", text "M"⟩⟩ :=
  (find_registerAll plain_twoServices (text "S") (text "M")).2.1
    [silentService (text "S") [text "M", text "N"]] _ [] rfl ⟨rfl, by decide⟩ (by simp)

end ServiceRegistry

end Hxrpc
