import AccessControl.Client.Directory
import AccessControl.Proofs.Client.Interleaving

/-!
# What connecting a directory does to the cache

A connector with a record notes every call and its outcome, and is otherwise the same connector. A
service with settings gets what the cache holds under their fingerprint; only on a miss is there a
call, and what it gives is stored. So when some services have been connected, the connections that
were made are exactly one for every fingerprint among their settings that was not in the cache
before: `Gained` says so, and it is kept when further services are connected. A failure at a service
leaves the pool as the services before it have made it, and one more call in the record.
-/

namespace AccessControl.Client

variable {σ κ : Type}

/-! ## A record of the calls -/

/-- What a connector was asked for and what came back, the first call first. -/
abbrev Calls (κ : Type) := List (Config × Except ConfigError κ)

def recorded (connector : Connector σ κ) : Connector (σ × Calls κ) κ := fun config state =>
  let (outcome, next) := connector config state.1
  (outcome, (next, state.2 ++ [(config, outcome)]))

namespace Pool

def unrecorded (pool : Pool (σ × Calls κ) κ) : Pool σ κ := ⟨pool.cache, pool.state.1⟩

theorem get_recorded (connector : Connector σ κ) (pool : Pool (σ × Calls κ) κ) (config : Config) :
    pool.unrecorded.get connector config =
      Prod.map id unrecorded (pool.get (recorded connector) config) := by
  cases hfind : pool.cache.find? config.fingerprint with
  | some connection => simp [get, hfind, unrecorded]
  | none =>
      rcases hcall : connector config pool.state.1 with ⟨error | own, state⟩
      · simp [get, hfind, unrecorded, recorded, hcall]
      · simp [get, hfind, unrecorded, recorded, hcall]

end Pool

theorem Cache.mem_entries_of_find? {cache : Cache κ} {key : UInt64} {connection : κ}
    (h : cache.find? key = some connection) : (key, connection) ∈ cache.entries := by
  obtain ⟨entry, hentry, rfl⟩ := Option.map_eq_some_iff.mp h
  have hkey : entry.1 = key := by simpa using List.find?_some hentry
  rw [← hkey]
  exact List.mem_of_find?_eq_some hentry

namespace DirectoryConfig

theorem connectAll_recorded (connector : Connector σ κ) (config : DirectoryConfig)
    (services : List Service) (pool : Pool (σ × Calls κ) κ) :
    connectAll connector config services pool.unrecorded =
      Prod.map id Pool.unrecorded (connectAll (recorded connector) config services pool) := by
  induction services generalizing pool with
  | nil => rfl
  | cons service rest ih =>
      cases hsection : config.section? service with
      | none => simp only [connectAll, hsection, ih]
      | some settings =>
          simp only [connectAll, hsection, Pool.get_recorded]
          rcases pool.get (recorded connector) settings with ⟨error | connection, mid⟩
          · rfl
          · simp only [Prod.map, id, ih]
            rcases connectAll (recorded connector) config rest mid with ⟨error | connections, next⟩
            · rfl
            · rfl

/-- The record takes no part in what is connected. -/
theorem connect_recorded (connector : Connector σ κ) (config : DirectoryConfig)
    (pool : Pool (σ × Calls κ) κ) :
    config.connect connector pool.unrecorded =
      Prod.map id Pool.unrecorded (config.connect (recorded connector) pool) := by
  unfold connect
  cases config.validate with
  | error error => rfl
  | ok _ =>
      simp only [connectAll_recorded]
      rcases connectAll (recorded connector) config Service.all pool with ⟨error | connections, next⟩
      · rfl
      · rfl

/-! ## What is gained by connecting services -/

/-- The fingerprints of the settings that some services use. -/
def keys (config : DirectoryConfig) (services : List Service) : List UInt64 :=
  (services.filterMap config.section?).map Config.fingerprint

/-- Some services have been connected, and for that the connections `made`, with the settings for
which they were asked. Those are settings of the services, in the order of the services, one for
each fingerprint that was not in the cache; each took one call, and all are stored. -/
structure Gained (config : DirectoryConfig) (services : List Service)
    (pool next : Pool (σ × Calls κ) κ) (made : List (Config × κ)) : Prop where
  entries : next.cache.entries =
    pool.cache.entries ++ made.map fun entry => (entry.1.fingerprint, entry.2)
  calls : next.state.2 =
    pool.state.2 ++ made.map fun entry => (entry.1, .ok entry.2)
  used : (made.map Prod.fst).Sublist (services.filterMap config.section?)
  nodup : (made.map fun entry => entry.1.fingerprint).Nodup
  mem_iff : ∀ key, key ∈ made.map (fun entry => entry.1.fingerprint) ↔
    key ∉ pool.cache.keys ∧ key ∈ config.keys services

namespace Gained

variable {config : DirectoryConfig} {first second services : List Service}
  {pool mid next : Pool (σ × Calls κ) κ} {made more : List (Config × κ)}

theorem keys_eq (h : Gained config services pool next made) :
    next.cache.keys = pool.cache.keys ++ made.map fun entry => entry.1.fingerprint := by
  rw [Cache.keys, h.entries, List.map_append, List.map_map, Cache.keys, Function.comp_def]

theorem nil (config : DirectoryConfig) (pool : Pool (σ × Calls κ) κ) :
    Gained config [] pool pool [] := by
  constructor <;> simp [DirectoryConfig.keys]

theorem append (h : Gained config first pool mid made) (h' : Gained config second mid next more) :
    Gained config (first ++ second) pool next (made ++ more) := by
  have hmid : ∀ key, key ∈ mid.cache.keys ↔
      key ∈ pool.cache.keys ∨ key ∈ made.map fun entry => entry.1.fingerprint := by
    intro key
    rw [h.keys_eq, List.mem_append]
  constructor
  · rw [h'.entries, h.entries, List.map_append, List.append_assoc]
  · rw [h'.calls, h.calls, List.map_append, List.append_assoc]
  · rw [List.map_append, List.filterMap_append]
    exact h.used.append h'.used
  · rw [List.map_append]
    refine h.nodup.append h'.nodup fun key hmade hmore => ?_
    exact ((h'.mem_iff key).mp hmore).1 ((hmid key).mpr (.inr hmade))
  · intro key
    have hfirst := h.mem_iff key
    have hsecond := h'.mem_iff key
    rw [hmid] at hsecond
    rw [List.map_append, List.mem_append, DirectoryConfig.keys, List.filterMap_append,
      List.map_append, List.mem_append]
    rw [DirectoryConfig.keys] at hfirst hsecond
    tauto

/-- What the cache holds it keeps. -/
theorem find?_of_find? (h : Gained config services pool next made) {key : UInt64} {connection : κ}
    (hfind : pool.cache.find? key = some connection) : next.cache.find? key = some connection := by
  rw [Cache.find?, Option.map_eq_some_iff] at hfind ⊢
  obtain ⟨entry, hentry, rfl⟩ := hfind
  refine ⟨entry, ?_, rfl⟩
  rw [h.entries, List.find?_append, hentry, Option.some_or]

/-- All that the services use is in the cache. -/
theorem mem_keys (h : Gained config services pool next made) {key : UInt64}
    (hkey : key ∈ config.keys services) : key ∈ next.cache.keys := by
  rw [h.keys_eq, List.mem_append]
  by_cases hpool : key ∈ pool.cache.keys
  · exact .inl hpool
  · exact .inr ((h.mem_iff key).mpr ⟨hpool, hkey⟩)

theorem of_section?_none {service : Service} (h : config.section? service = none)
    (pool : Pool (σ × Calls κ) κ) : Gained config [service] pool pool [] := by
  constructor <;> simp [DirectoryConfig.keys, h]

theorem of_mem_keys {service : Service} {settings : Config}
    (hsection : config.section? service = some settings)
    (hmem : settings.fingerprint ∈ pool.cache.keys) : Gained config [service] pool pool [] := by
  constructor <;> simp [DirectoryConfig.keys, hsection]
  rintro key hkey rfl
  exact hkey hmem

theorem of_notMem_keys {service : Service} {settings : Config}
    (hsection : config.section? service = some settings)
    (hnotMem : settings.fingerprint ∉ pool.cache.keys) (own : κ) (state : σ) :
    Gained config [service] pool
      ⟨pool.cache.store settings.fingerprint own, (state, pool.state.2 ++ [(settings, .ok own)])⟩
      [(settings, own)] := by
  have hfind : pool.cache.find? settings.fingerprint = none := by
    rwa [← Option.not_isSome_iff_eq_none, Cache.isSome_find?_iff]
  constructor <;> simp [DirectoryConfig.keys, hsection, Cache.store, hfind]
  exact hnotMem

end Gained

variable {connector : Connector σ κ} {config : DirectoryConfig}

theorem gained_of_get {service : Service} {settings : Config}
    (hsection : config.section? service = some settings) {pool mid : Pool (σ × Calls κ) κ}
    {connection : κ} (h : pool.get (recorded connector) settings = (.ok connection, mid)) :
    (∃ made, Gained config [service] pool mid made) ∧
      mid.cache.find? settings.fingerprint = some connection := by
  cases hfind : pool.cache.find? settings.fingerprint with
  | some found =>
      rw [Pool.get_of_find? _ hfind] at h
      cases h
      have hmem := (pool.cache.isSome_find?_iff settings.fingerprint).mp (by rw [hfind]; rfl)
      exact ⟨⟨[], .of_mem_keys hsection hmem⟩, hfind⟩
  | none =>
      have hnotMem : settings.fingerprint ∉ pool.cache.keys := by
        simp [← Cache.isSome_find?_iff, hfind]
      rcases hcall : connector settings pool.state.1 with ⟨error | own, state⟩
      · simp [Pool.get, hfind, recorded, hcall] at h
      · simp only [Pool.get, hfind, recorded, hcall, Prod.mk.injEq, Except.ok.injEq] at h
        obtain ⟨rfl, rfl⟩ := h
        exact ⟨⟨_, .of_notMem_keys hsection hnotMem own state⟩, by simp [Cache.find?_store, hfind]⟩

theorem pool_of_get_error {settings : Config} {pool mid : Pool (σ × Calls κ) κ}
    {error : ConfigError} (h : pool.get (recorded connector) settings = (.error error, mid)) :
    settings.fingerprint ∉ pool.cache.keys ∧
      ∃ state, mid = ⟨pool.cache, (state, pool.state.2 ++ [(settings, .error error)])⟩ := by
  cases hfind : pool.cache.find? settings.fingerprint with
  | some found =>
      rw [Pool.get_of_find? _ hfind] at h
      cases h
  | none =>
      refine ⟨by simp [← Cache.isSome_find?_iff, hfind], ?_⟩
      rcases hcall : connector settings pool.state.1 with ⟨failure | own, state⟩
      · simp only [Pool.get, hfind, recorded, hcall, Prod.mk.injEq, Except.error.injEq] at h
        obtain ⟨rfl, rfl⟩ := h
        exact ⟨state, rfl⟩
      · simp [Pool.get, hfind, recorded, hcall] at h

/-! ## All services in turn -/

def cached? (config : DirectoryConfig) (cache : Cache κ) (service : Service) : Option κ :=
  (config.section? service).bind fun settings => cache.find? settings.fingerprint

def connectionsIn (config : DirectoryConfig) (cache : Cache κ) (services : List Service) :
    List (Service × κ) :=
  services.filterMap fun service => (config.cached? cache service).map (Prod.mk service)

/-- Connecting stopped at a service. The ones before it have been connected, which left the pool
`mid`; then its settings, which were not in the cache, were asked for in vain, and that was all. -/
structure FailedAt (config : DirectoryConfig) (pool next : Pool (σ × Calls κ) κ)
    (error : ConfigError) (before : List Service) (service : Service) (settings : Config)
    (mid : Pool (σ × Calls κ) κ) (made : List (Config × κ)) : Prop where
  settings_eq : config.section? service = some settings
  gained : Gained config before pool mid made
  vacant : settings.fingerprint ∉ mid.cache.keys
  cache : next.cache = mid.cache
  calls : next.state.2 = mid.state.2 ++ [(settings, .error error)]

/-- A failure behind services that have been connected is one behind all of them. -/
theorem FailedAt.cons {config : DirectoryConfig} {pool first next mid : Pool (σ × Calls κ) κ}
    {error : ConfigError} {before done : List Service} {service : Service} {settings : Config}
    {made more : List (Config × κ)} (hdone : Gained config done pool first made)
    (h : FailedAt config first next error before service settings mid more) :
    FailedAt config pool next error (done ++ before) service settings mid (made ++ more) :=
  { h with gained := hdone.append h.gained }

theorem gained_of_connectAll {services : List Service} {pool next : Pool (σ × Calls κ) κ}
    {connections : List (Service × κ)}
    (h : connectAll (recorded connector) config services pool = (.ok connections, next)) :
    (∃ made, Gained config services pool next made) ∧
      connections = config.connectionsIn next.cache services := by
  induction services generalizing pool connections with
  | nil =>
      cases h
      exact ⟨⟨[], .nil config _⟩, rfl⟩
  | cons service rest ih =>
      cases hsection : config.section? service with
      | none =>
          simp only [connectAll, hsection] at h
          obtain ⟨⟨made, hgained⟩, hconnections⟩ := ih h
          refine ⟨⟨_, (Gained.of_section?_none hsection pool).append hgained⟩, ?_⟩
          simp [hconnections, connectionsIn, cached?, hsection]
      | some settings =>
          simp only [connectAll, hsection] at h
          rcases hget : pool.get (recorded connector) settings with ⟨error | connection, mid⟩
          · simp [hget] at h
          · obtain ⟨⟨made, hfirst⟩, hfind⟩ := gained_of_get hsection hget
            rcases hrest : connectAll (recorded connector) config rest mid with
              ⟨error | others, last⟩
            · simp [hget, hrest] at h
            · simp only [hget, hrest, Prod.mk.injEq, Except.ok.injEq] at h
              obtain ⟨rfl, rfl⟩ := h
              obtain ⟨⟨more, hgained⟩, hconnections⟩ := ih hrest
              refine ⟨⟨_, hfirst.append hgained⟩, ?_⟩
              simp [hconnections, connectionsIn, cached?, hsection, hgained.find?_of_find? hfind]

theorem failedAt_of_connectAll {services : List Service} {pool next : Pool (σ × Calls κ) κ}
    {error : ConfigError}
    (h : connectAll (recorded connector) config services pool = (.error error, next)) :
    ∃ before service after settings mid made, services = before ++ service :: after ∧
      FailedAt config pool next error before service settings mid made := by
  induction services generalizing pool with
  | nil => cases h
  | cons service rest ih =>
      cases hsection : config.section? service with
      | none =>
          simp only [connectAll, hsection] at h
          obtain ⟨before, failing, after, settings, mid, made, rfl, hfailed⟩ := ih h
          exact ⟨service :: before, failing, after, settings, mid, _, rfl,
            hfailed.cons (.of_section?_none hsection pool)⟩
      | some settings =>
          simp only [connectAll, hsection] at h
          rcases hget : pool.get (recorded connector) settings with ⟨failure | connection, mid⟩
          · simp only [hget, Prod.mk.injEq, Except.error.injEq] at h
            obtain ⟨rfl, rfl⟩ := h
            obtain ⟨hvacant, state, rfl⟩ := pool_of_get_error hget
            exact ⟨[], service, rest, settings, pool, [], rfl,
              ⟨hsection, .nil config pool, hvacant, rfl, rfl⟩⟩
          · obtain ⟨⟨made, hfirst⟩, -⟩ := gained_of_get hsection hget
            rcases hrest : connectAll (recorded connector) config rest mid with
              ⟨failure | others, last⟩
            · simp only [hget, hrest, Prod.mk.injEq, Except.error.injEq] at h
              obtain ⟨rfl, rfl⟩ := h
              obtain ⟨before, failing, after, others, later, more, rfl, hfailed⟩ := ih hrest
              exact ⟨service :: before, failing, after, others, later, _, rfl,
                hfailed.cons hfirst⟩
            · simp [hget, hrest] at h

/-! ## Connecting a directory -/

theorem mem_all (service : Service) : service ∈ Service.all := by
  cases service <;> decide

theorem mem_sections_iff (config : DirectoryConfig) (settings : Config) :
    settings ∈ config.sections ↔
      config.base = some settings ∨ ∃ service, config.own service = some settings := by
  simp [sections, mem_all, eq_comm]

theorem forM_eq_ok_iff {ε α : Type} {f : α → Except ε Unit} {items : List α} :
    forM items f = .ok () ↔ ∀ item ∈ items, f item = .ok () := by
  induction items with
  | nil => simp [pure, Except.pure]
  | cons item rest ih =>
      rw [List.forM_cons, List.forall_mem_cons, ← ih]
      cases h : f item <;> simp [bind, Except.bind]

/-- The settings of a directory are refused if there are none and if any of them are refused. -/
theorem validate_eq_ok_iff (config : DirectoryConfig) :
    config.validate = .ok () ↔
      config.sections ≠ [] ∧ ∀ settings ∈ config.sections, settings.validate = .ok () := by
  unfold validate
  by_cases hempty : config.sections = []
  · simp [hempty]
  · rw [if_neg (by simpa using hempty)]
    exact forM_eq_ok_iff.trans (and_iff_right hempty).symm

theorem get?_connectionsIn (config : DirectoryConfig) (cache : Cache κ) {services : List Service}
    {service : Service} (h : service ∈ services) :
    DirectoryClient.get? ⟨config.connectionsIn cache services⟩ service =
      config.cached? cache service := by
  have hentry : ∀ other, ((config.cached? cache other).map (Prod.mk other)).any
      (fun entry => entry.1 == service) =
        (other == service && (config.cached? cache service).isSome) := by
    intro other
    by_cases hother : other = service
    · subst hother
      cases config.cached? cache other <;> simp
    · cases config.cached? cache other <;> simp [hother]
  simp only [DirectoryClient.get?, connectionsIn, List.find?_filterMap, hentry]
  cases hcached : config.cached? cache service with
  | none => simp [List.find?_eq_none.mpr]
  | some connection =>
      obtain ⟨found, hfound⟩ := Option.isSome_iff_exists.mp (List.find?_isSome
        (p := (· == service)) |>.mpr ⟨service, h, beq_self_eq_true service⟩)
      have hservice : found = service := by simpa using List.find?_some hfound
      simp [hfound, hservice, hcached]

theorem section?_isSome_iff (config : DirectoryConfig) (service : Service) :
    (config.section? service).isSome ↔ (config.own service).isSome ∨ config.base.isSome := by
  rw [section?, Option.isSome_or, Bool.or_eq_true]

namespace Gained

variable {services : List Service} {pool next : Pool (σ × Calls κ) κ} {made : List (Config × κ)}

/-- Every service with settings has been given a connection. -/
theorem isSome_cached?_iff (h : Gained config services pool next made) {service : Service}
    (hservice : service ∈ services) :
    (config.cached? next.cache service).isSome ↔
      (config.own service).isSome ∨ config.base.isSome := by
  rw [← section?_isSome_iff, cached?]
  cases hsection : config.section? service with
  | none => simp
  | some settings =>
      have hkey : settings.fingerprint ∈ config.keys services :=
        List.mem_map_of_mem (List.mem_filterMap.mpr ⟨service, hservice, hsection⟩)
      simpa using (next.cache.isSome_find?_iff _).mpr (h.mem_keys hkey)

/-- If no connection was made twice, services share one exactly if their settings have the same
fingerprint. -/
theorem cached?_eq_iff (h : Gained config services pool next made)
    (hdistinct : (pool.cache.entries.map Prod.snd ++ made.map Prod.snd).Nodup)
    {service other : Service} (hservice : service ∈ services) {settings others : Config}
    (hsettings : config.section? service = some settings)
    (hothers : config.section? other = some others) :
    config.cached? next.cache service = config.cached? next.cache other ↔
      settings.fingerprint = others.fingerprint := by
  simp only [cached?, hsettings, hothers, Option.bind_some]
  constructor
  · intro hsame
    have hkey : settings.fingerprint ∈ config.keys services :=
      List.mem_map_of_mem (List.mem_filterMap.mpr ⟨service, hservice, hsettings⟩)
    obtain ⟨connection, hfind⟩ := Option.isSome_iff_exists.mp
      ((next.cache.isSome_find?_iff _).mpr (h.mem_keys hkey))
    have hnodup : (next.cache.entries.map Prod.snd).Nodup := by
      rwa [h.entries, List.map_append, List.map_map]
    have hentry : (settings.fingerprint, connection) = (others.fingerprint, connection) :=
      List.inj_on_of_nodup_map hnodup (Cache.mem_entries_of_find? hfind)
        (Cache.mem_entries_of_find? (hsame ▸ hfind)) rfl
    exact (Prod.mk.inj hentry).1
  · intro hkeys
    rw [hkeys]

end Gained

theorem connectAll_of_connect {pool next : Pool (σ × Calls κ) κ}
    {outcome : Except ConfigError (DirectoryClient κ)} (hvalid : config.validate = .ok ())
    (h : config.connect (recorded connector) pool = (outcome, next)) :
    connectAll (recorded connector) config Service.all pool =
      (outcome.map DirectoryClient.connections, next) := by
  simp only [connect, hvalid] at h
  rcases hall : connectAll (recorded connector) config Service.all pool with
    ⟨error | connections, last⟩
  · rw [hall] at h
    cases h
    rfl
  · rw [hall] at h
    cases h
    rfl

theorem validate_of_connect {pool next : Pool (σ × Calls κ) κ} {directory : DirectoryClient κ}
    (h : config.connect (recorded connector) pool = (.ok directory, next)) :
    config.validate = .ok () := by
  cases hvalid : config.validate with
  | ok _ => rfl
  | error error =>
      rw [connect_of_invalid _ hvalid] at h
      cases h

theorem exists_validate_error_iff (config : DirectoryConfig) :
    (∃ error, config.validate = .error error) ↔
      (config.base = none ∧ ∀ service, config.own service = none) ∨
        ∃ settings, (config.base = some settings ∨ ∃ service, config.own service = some settings) ∧
          ∃ error, settings.validate = .error error := by
  have herror : ∀ result : Except ConfigError Unit,
      (∃ error, result = .error error) ↔ result ≠ .ok () := by
    rintro (error | _) <;> simp
  have hempty : config.sections = [] ↔
      config.base = none ∧ ∀ service, config.own service = none := by
    simp [List.eq_nil_iff_forall_not_mem, mem_sections_iff, not_or, forall_and,
      Option.eq_none_iff_forall_ne_some, forall_comm (α := Config)]
  rw [herror, Ne, validate_eq_ok_iff, not_and_or, not_not, hempty]
  simp only [herror, ← mem_sections_iff, not_forall, exists_prop, Ne]

/-- Settings for two services, and a base section for the others. -/
def twoSections (one two : Config) : DirectoryConfig where
  base := some one
  own
    | .writer => some two
    | .exporter => some one
    | _ => none

/-- A connector that numbers its connections and makes no more than a few of them. -/
def numbering (most : Nat) : Connector Nat Nat := fun _ made =>
  if made < most then (.ok made, made + 1) else (.error .tls, made)

theorem connect_twoSections {one two : Config} (h : one.fingerprint ≠ two.fingerprint)
    (hvalid : (twoSections one two).validate = .ok ()) :
    (∃ directory next, (twoSections one two).connect (recorded (numbering 2)) ⟨.empty, (0, [])⟩ =
      (.ok directory, next) ∧ next.cache.entries.map Prod.snd = [0, 1]) ∧
    ∃ next, (twoSections one two).connect (recorded (numbering 1)) ⟨.empty, (0, [])⟩ =
      (.error .tls, next) := by
  simp only [connect, hvalid]
  constructor <;>
    simp [connectAll, Service.all, section?, twoSections, Pool.get, recorded, numbering,
      Cache.store, Cache.find?, Cache.empty, h]

end DirectoryConfig

end AccessControl.Client
