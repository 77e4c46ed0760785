import AccessControl.Client.Fingerprint

/-!
# Connection cache

Connections are kept under the fingerprints of their configurations. A connection is first looked
up; on a miss the connector makes one, and it is stored if its place is still vacant. What is
stored stays: `store` gives back the connection that is there already rather than replace it. A
failure of the connector stores nothing.

A connector may carry a state of its own from one call to the next.
-/

namespace AccessControl.Client

/-- Connections under fingerprints, in the order in which they were stored. -/
structure Cache (κ : Type) where
  entries : List (UInt64 × κ)
deriving Inhabited

/-- Makes connections of type `κ`, with a state of type `σ`. -/
abbrev Connector (σ κ : Type) := Config → σ → Except ConfigError κ × σ

structure Pool (σ κ : Type) where
  cache : Cache κ
  state : σ

variable {σ κ : Type}

namespace Cache

def empty : Cache κ := ⟨[]⟩

def size (cache : Cache κ) : Nat := cache.entries.length

def find? (cache : Cache κ) (key : UInt64) : Option κ :=
  (cache.entries.find? fun entry => entry.1 == key).map (·.2)

def store (cache : Cache κ) (key : UInt64) (connection : κ) : Cache κ :=
  match cache.find? key with
  | some _ => cache
  | none => ⟨cache.entries ++ [(key, connection)]⟩

theorem store_of_find? {cache : Cache κ} {key : UInt64} {connection : κ}
    (h : cache.find? key = some connection) (other : κ) : cache.store key other = cache := by
  simp [store, h]

theorem find?_store (cache : Cache κ) (key other : UInt64) (connection : κ) :
    (cache.store key connection).find? other =
      if key = other then some ((cache.find? key).getD connection) else cache.find? other := by
  unfold store
  split
  · rename_i found h
    by_cases hk : key = other
    · subst hk; simp [h]
    · simp [hk]
  · rename_i h
    by_cases hk : key = other
    · subst hk
      simp only [find?, Option.map_eq_none_iff] at h
      simp [find?, List.find?_append, h]
    · simp [find?, List.find?_append, hk]

end Cache

namespace Pool

def start (state : σ) : Pool σ κ := ⟨.empty, state⟩

def get (connector : Connector σ κ) (pool : Pool σ κ) (config : Config) :
    Except ConfigError κ × Pool σ κ :=
  let key := config.fingerprint
  match pool.cache.find? key with
  | some connection => (.ok connection, pool)
  | none =>
    match connector config pool.state with
    | (.error error, state) => (.error error, { pool with state })
    | (.ok connection, state) =>
      let cache := pool.cache.store key connection
      (.ok ((cache.find? key).getD connection), ⟨cache, state⟩)

theorem get_of_find? (connector : Connector σ κ) {pool : Pool σ κ} {config : Config}
    {connection : κ} (h : pool.cache.find? config.fingerprint = some connection) :
    pool.get connector config = (.ok connection, pool) := by
  simp [get, h]

end Pool

end AccessControl.Client
