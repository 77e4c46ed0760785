import AccessControl.Client.Connections
import Mathlib.Data.List.Dedup
import Mathlib.Data.List.Induction

/-!
# Gets that overlap

Nothing keeps the callers of a cache apart: between two steps of one get there may be any steps of
others. A get looks for its key; on a miss it runs the connector; and what that gives it is stored
if the place is still vacant, so that the get takes what is kept there. A session is a pool with the
gets that were started on it, and a schedule is a list of moves, each of which starts a get or lets
one take its next step. The connector answers from the state in the pool, so every sequence of
outcomes is the one of some connector. A get whose steps follow on each other is `Pool.get`.

What a get has done can be read off its progress. Only a store changes the cache, and it never
touches a place that is taken. So a get that ended well has returned what stands under its key, and
whoever asks for the same key gets the same.
-/

namespace AccessControl.Client

variable {σ κ : Type}

/-- How far a get has come: asked for, sent to the connector by a miss, or given a connection of its
own; and in the end served from the cache, failed, or served after its store with what is kept. -/
inductive Progress (κ : Type) where
  | asked
  | missed
  | connected (own : κ)
  | found (connection : κ)
  | failed (error : ConfigError)
  | stored (own kept : κ)

namespace Progress

def result? : Progress κ → Option (Except ConfigError κ)
  | found connection => some (.ok connection)
  | failed error => some (.error error)
  | stored _ kept => some (.ok kept)
  | _ => none

def needsConnector : Progress κ → Bool
  | asked | found _ => false
  | _ => true

def hasConnected : Progress κ → Bool
  | connected _ | stored _ _ => true
  | _ => false

def advance (connector : Connector σ κ) (config : Config) (pool : Pool σ κ) :
    Progress κ → Progress κ × Pool σ κ
  | asked =>
    match pool.cache.find? config.fingerprint with
    | some connection => (found connection, pool)
    | none => (missed, pool)
  | missed =>
    match connector config pool.state with
    | (.error error, state) => (failed error, { pool with state })
    | (.ok own, state) => (connected own, { pool with state })
  | connected own =>
    let cache := pool.cache.store config.fingerprint own
    (stored own ((cache.find? config.fingerprint).getD own), { pool with cache })
  | ended => (ended, pool)

end Progress

structure Get (κ : Type) where
  config : Config
  progress : Progress κ

namespace Get

def key (get : Get κ) : UInt64 := get.config.fingerprint

def storedKey? (get : Get κ) : Option UInt64 :=
  match get.progress with
  | .stored _ _ => some get.key
  | _ => none

end Get

/-- A pool and the gets that were started on it, the first one first. -/
structure Session (σ κ : Type) where
  pool : Pool σ κ
  gets : List (Get κ)

/-- What may happen next: another get is started, or one takes a step. -/
inductive Move where
  | start (config : Config)
  | advance (index : Nat)

namespace Session

def start (state : σ) : Session σ κ := ⟨.start state, []⟩

/-- Makes a move; a get that has ended or was never started takes no step. -/
def step (connector : Connector σ κ) (session : Session σ κ) : Move → Session σ κ
  | .start config => { session with gets := session.gets ++ [⟨config, .asked⟩] }
  | .advance index =>
    match session.gets[index]? with
    | none => session
    | some get =>
      let (progress, pool) := get.progress.advance connector get.config session.pool
      ⟨pool, session.gets.set index { get with progress }⟩

def run (connector : Connector σ κ) (session : Session σ κ) (moves : List Move) : Session σ κ :=
  moves.foldl (step connector) session

def result? (session : Session σ κ) (index : Nat) : Option (Except ConfigError κ) :=
  session.gets[index]?.bind fun get => get.progress.result?

def storedKeys (session : Session σ κ) : List UInt64 := session.gets.filterMap Get.storedKey?

def IsIdle (session : Session σ κ) : Prop := ∀ get ∈ session.gets, get.progress.result?.isSome

end Session

/-- Whether a schedule starts a get only when all before it have ended. -/
def IsSeparate (connector : Connector σ κ) (state : σ) (moves : List Move) : Prop :=
  ∀ before config after, moves = before ++ Move.start config :: after →
    (Session.run connector (.start state) before).IsIdle

/-! ## The cache -/

namespace Cache

def keys (cache : Cache κ) : List UInt64 := cache.entries.map Prod.fst

theorem isSome_find?_iff (cache : Cache κ) (key : UInt64) :
    (cache.find? key).isSome ↔ key ∈ cache.keys := by
  simp [find?, keys]

theorem keys_store_of_mem {cache : Cache κ} {key : UInt64} (h : key ∈ cache.keys)
    (connection : κ) : (cache.store key connection).keys = cache.keys := by
  obtain ⟨kept, hkept⟩ := Option.isSome_iff_exists.mp ((cache.isSome_find?_iff key).mpr h)
  rw [store_of_find? hkept]

theorem keys_store_of_notMem {cache : Cache κ} {key : UInt64} (h : key ∉ cache.keys)
    (connection : κ) : (cache.store key connection).keys = cache.keys ++ [key] := by
  rw [← isSome_find?_iff, Option.not_isSome_iff_eq_none] at h
  simp [store, h, keys]

theorem mem_keys_store_iff (cache : Cache κ) (key other : UInt64) (connection : κ) :
    other ∈ (cache.store key connection).keys ↔ other = key ∨ other ∈ cache.keys := by
  by_cases h : key ∈ cache.keys
  · rw [keys_store_of_mem h]
    exact ⟨.inr, fun hor => hor.elim (fun heq => heq ▸ h) id⟩
  · rw [keys_store_of_notMem h, List.mem_append, List.mem_singleton, or_comm]

theorem nodup_keys_store {cache : Cache κ} (h : cache.keys.Nodup) (key : UInt64)
    (connection : κ) : (cache.store key connection).keys.Nodup := by
  by_cases hmem : key ∈ cache.keys
  · rwa [keys_store_of_mem hmem]
  · rw [keys_store_of_notMem hmem, ← List.concat_eq_append]
    exact h.concat hmem

theorem find?_store_of_find? {cache : Cache κ} {other : UInt64} {kept : κ}
    (h : cache.find? other = some kept) (key : UInt64) (connection : κ) :
    (cache.store key connection).find? other = some kept := by
  rw [find?_store]
  split
  · rename_i heq
    rw [heq, h]
    rfl
  · exact h

end Cache

/-! ## One step of one get -/

namespace Progress

/-- All that a step of a get under way can do, with the pool before and after it. -/
inductive Step (connector : Connector σ κ) (config : Config) (pool : Pool σ κ) :
    Progress κ → Progress κ → Pool σ κ → Prop
  | hit {connection : κ} (h : pool.cache.find? config.fingerprint = some connection) :
      Step connector config pool asked (found connection) pool
  | miss (h : pool.cache.find? config.fingerprint = none) :
      Step connector config pool asked missed pool
  | fail {error : ConfigError} {state : σ}
      (h : connector config pool.state = (.error error, state)) :
      Step connector config pool missed (failed error) { pool with state }
  | connect {own : κ} {state : σ}
      (h : connector config pool.state = (.ok own, state)) :
      Step connector config pool missed (connected own) { pool with state }
  | store (own : κ) :
      Step connector config pool (connected own)
        (stored own ((pool.cache.find? config.fingerprint).getD own))
        { pool with cache := pool.cache.store config.fingerprint own }

theorem step_advance {progress : Progress κ} (h : progress.result? = none)
    (connector : Connector σ κ) (config : Config) (pool : Pool σ κ) :
    Step connector config pool progress (progress.advance connector config pool).1
      (progress.advance connector config pool).2 := by
  cases progress with
  | asked =>
      cases hfind : pool.cache.find? config.fingerprint with
      | none => simpa [advance, hfind] using Step.miss hfind
      | some connection => simpa [advance, hfind] using Step.hit hfind
  | missed =>
      rcases hconnector : connector config pool.state with ⟨error | own, state⟩
      · simpa [advance, hconnector] using Step.fail hconnector
      · simpa [advance, hconnector] using Step.connect hconnector
  | connected own => simpa [advance, Cache.find?_store] using Step.store own
  | _ => cases h

theorem exists_result_of_hasConnected {progress : Progress κ} (h : progress.hasConnected = true)
    (hended : progress.result?.isSome) : ∃ kept, progress.result? = some (.ok kept) := by
  cases progress with
  | stored own kept => exact ⟨kept, rfl⟩
  | connected own => cases hended
  | _ => cases h

theorem advance_of_ended {progress : Progress κ} (h : progress.result?.isSome)
    (connector : Connector σ κ) (config : Config) (pool : Pool σ κ) :
    progress.advance connector config pool = (progress, pool) := by
  cases progress with
  | found connection => rfl
  | failed error => rfl
  | stored own kept => rfl
  | _ => cases h

variable {connector : Connector σ κ} {config : Config} {pool next : Pool σ κ}
  {progress after : Progress κ}

/-- Only a get with a connection of its own changes the cache. -/
theorem Step.cache_eq (h : Step connector config pool progress after next)
    (hown : ∀ own, progress ≠ connected own) : next.cache = pool.cache := by
  cases h with
  | store own => exact absurd rfl (hown own)
  | _ => rfl

theorem Step.find?_of_find? (h : Step connector config pool progress after next) {key : UInt64}
    {kept : κ} (hkept : pool.cache.find? key = some kept) : next.cache.find? key = some kept := by
  cases h with
  | store own => exact Cache.find?_store_of_find? hkept config.fingerprint own
  | _ => exact hkept

/-- A step that ends a get well leaves what it returns under its key. -/
theorem Step.find?_of_result (h : Step connector config pool progress after next) {connection : κ}
    (hresult : after.result? = some (.ok connection)) :
    next.cache.find? config.fingerprint = some connection := by
  cases h with
  | hit hfind =>
      cases hresult
      exact hfind
  | store own =>
      cases hresult
      rw [Cache.find?_store, if_pos rfl]
  | _ => cases hresult

theorem Step.mem_keys_iff (h : Step connector config pool progress after next) (key : UInt64) :
    key ∈ next.cache.keys ↔
      key ∈ pool.cache.keys ∨ (Get.mk config after).storedKey? = some key := by
  cases h with
  | store own =>
      rw [Cache.mem_keys_store_iff, or_comm, eq_comm]
      exact or_congr_right (Option.some_inj).symm
  | _ => simp [Get.storedKey?]

theorem Step.result?_eq_none (h : Step connector config pool progress after next) :
    progress.result? = none := by
  cases h <;> rfl

theorem Step.storedKey?_eq_none (h : Step connector config pool progress after next) :
    (Get.mk config progress).storedKey? = none := by
  cases h <;> rfl

end Progress

/-! ## One move -/

namespace Session

variable {connector : Connector σ κ} {session : Session σ κ}

theorem step_advance_of_getElem? {index : Nat} {get : Get κ}
    (h : session.gets[index]? = some get) :
    session.step connector (.advance index) =
      ⟨(get.progress.advance connector get.config session.pool).2,
        session.gets.set index
          ⟨get.config, (get.progress.advance connector get.config session.pool).1⟩⟩ := by
  rw [step, h]

/-- A move starts a get, or changes nothing, or is a step of one get that leaves the others as they
are. -/
theorem step_cases (connector : Connector σ κ) (session : Session σ κ) (move : Move) :
    (∃ config, move = .start config) ∨
    session.step connector move = session ∨
    ∃ before get rest progress pool,
      move = .advance before.length ∧ session.gets = before ++ get :: rest ∧
      get.progress.Step connector get.config session.pool progress pool ∧
      session.step connector move = ⟨pool, before ++ ⟨get.config, progress⟩ :: rest⟩ := by
  cases move with
  | start config => exact .inl ⟨config, rfl⟩
  | advance index =>
      refine .inr ?_
      cases hget : session.gets[index]? with
      | none => exact .inl (by rw [step, hget])
      | some get =>
          obtain ⟨hindex, rfl⟩ := List.getElem?_eq_some_iff.mp hget
          rw [step_advance_of_getElem? hget]
          cases hresult : session.gets[index].progress.result? with
          | some result =>
              refine .inl ?_
              rw [Progress.advance_of_ended (by simp [hresult]), List.set_getElem_self]
          | none =>
              refine .inr ⟨session.gets.take index, _, session.gets.drop (index + 1), _, _, ?_, ?_,
                Progress.step_advance hresult connector _ session.pool, ?_⟩
              · rw [List.length_take_of_le (Nat.le_of_lt hindex)]
              · rw [List.getElem_cons_drop, List.take_append_drop]
              · rw [List.set_eq_take_append_cons_drop, if_pos hindex]

theorem find?_step {key : UInt64} {kept : κ} (h : session.pool.cache.find? key = some kept)
    (move : Move) : (session.step connector move).pool.cache.find? key = some kept := by
  rcases step_cases connector session move with
    ⟨config, rfl⟩ | hsame | ⟨before, get, rest, progress, pool, -, -, hstep, hnext⟩
  · exact h
  · rwa [hsame]
  · rw [hnext]
    exact hstep.find?_of_find? h

/-- What is stored stays, whatever happens next. -/
theorem find?_run {key : UInt64} {kept : κ} (h : session.pool.cache.find? key = some kept)
    (moves : List Move) : (session.run connector moves).pool.cache.find? key = some kept := by
  induction moves generalizing session with
  | nil => exact h
  | cons move moves ih => exact ih (find?_step h move)

theorem getElem?_step_of_ended {index : Nat} {get : Get κ}
    (h : session.gets[index]? = some get) (hended : get.progress.result?.isSome) (move : Move) :
    (session.step connector move).gets[index]? = some get := by
  cases move with
  | start config =>
      obtain ⟨hindex, -⟩ := List.getElem?_eq_some_iff.mp h
      exact (List.getElem?_append_left hindex).trans h
  | advance other =>
      cases hother : session.gets[other]? with
      | none => rwa [step, hother]
      | some moved =>
          rw [step_advance_of_getElem? hother]
          by_cases heq : other = index
          · subst heq
            cases h.symm.trans hother
            rw [Progress.advance_of_ended hended]
            exact (List.getElem?_set_self' ..).trans (by rw [h]; rfl)
          · rwa [List.getElem?_set_ne heq]

theorem getElem?_run_of_ended {index : Nat} {get : Get κ}
    (h : session.gets[index]? = some get) (hended : get.progress.result?.isSome)
    (moves : List Move) : (session.run connector moves).gets[index]? = some get := by
  induction moves generalizing session with
  | nil => exact h
  | cons move moves ih => exact ih (getElem?_step_of_ended h hended move)

theorem step_advance_of_connector_error {index : Nat} {config : Config} {error : ConfigError}
    (hget : session.gets[index]? = some ⟨config, .missed⟩)
    (herror : (connector config session.pool.state).1 = .error error) :
    (session.step connector (.advance index)).gets[index]? = some ⟨config, .failed error⟩ := by
  obtain ⟨hindex, -⟩ := List.getElem?_eq_some_iff.mp hget
  rw [step_advance_of_getElem? hget]
  rcases hconnector : connector config session.pool.state with ⟨outcome, state⟩
  rw [hconnector] at herror
  subst herror
  simp [Progress.advance, hconnector, hindex]

/-- No step of a get that fails in the end changes the cache. -/
theorem cache_step_of_fails {index : Nat} {later : List Move} {error : ConfigError}
    (h : ((session.step connector (.advance index)).run connector later).result? index =
      some (.error error)) :
    (session.step connector (.advance index)).pool.cache = session.pool.cache := by
  rcases step_cases connector session (.advance index) with
    ⟨config, hmove⟩ | hsame |
      ⟨before, ⟨config, progress⟩, rest, after, pool, hmove, -, hstep, hnext⟩
  · cases hmove
  · rw [hsame]
  · cases hmove
    have hget : (session.step connector (.advance before.length)).gets[before.length]? =
        some ⟨config, after⟩ := by simp [hnext]
    rw [hnext]
    refine hstep.cache_eq ?_
    rintro own rfl
    -- A store ends the get well, and that is what it has returned ever after.
    cases hstep with
    | store own =>
        rw [result?, getElem?_run_of_ended hget rfl later] at h
        cases h

/-! ## What holds in every session -/

/-- The entries are those of the keys under which gets have stored, one for each, and every get that
ended well has returned the entry under its key. -/
structure Consistent (session : Session σ κ) : Prop where
  nodup : session.pool.cache.keys.Nodup
  mem_keys_iff : ∀ key, key ∈ session.pool.cache.keys ↔ key ∈ session.storedKeys
  find?_of_result : ∀ get ∈ session.gets, ∀ connection,
    get.progress.result? = some (.ok connection) →
      session.pool.cache.find? get.key = some connection

theorem consistent_start (state : σ) : (start state : Session σ κ).Consistent where
  nodup := List.nodup_nil
  mem_keys_iff := fun _ => Iff.rfl
  find?_of_result := fun _ hget => absurd hget List.not_mem_nil

theorem Consistent.step (h : session.Consistent) (move : Move) :
    (session.step connector move).Consistent := by
  rcases step_cases connector session move with
    ⟨config, rfl⟩ | hsame | ⟨before, ⟨config, progress⟩, rest, after, pool, -, hgets, hstep, hnext⟩
  · refine ⟨h.nodup, ?_, ?_⟩
    · intro key
      refine (h.mem_keys_iff key).trans ?_
      simp [Session.step, storedKeys, Get.storedKey?]
    · intro get hget connection hresult
      rcases List.mem_append.mp hget with hget | hget
      · exact h.find?_of_result get hget connection hresult
      · rw [List.mem_singleton.mp hget] at hresult
        cases hresult
  · rwa [hsame]
  · rw [hnext]
    refine ⟨?_, ?_, ?_⟩
    · cases hstep with
      | store own => exact Cache.nodup_keys_store h.nodup _ own
      | _ => exact h.nodup
    · intro key
      have hmem := h.mem_keys_iff key
      rw [storedKeys, hgets, List.filterMap_append,
        List.filterMap_cons_none hstep.storedKey?_eq_none] at hmem
      rw [hstep.mem_keys_iff key, hmem, storedKeys, List.filterMap_append]
      cases hkey : (Get.mk config after).storedKey? with
      | none => simp [List.filterMap_cons_none hkey]
      | some stored =>
          rw [List.filterMap_cons_some hkey, Option.some_inj, List.mem_append, List.mem_append,
            List.mem_cons, eq_comm]
          tauto
    · intro get hget connection hresult
      have hothers : get ∈ before ++ rest →
          session.pool.cache.find? get.key = some connection := by
        intro hmem
        refine h.find?_of_result get ?_ connection hresult
        rw [hgets]
        exact List.mem_append.mpr ((List.mem_append.mp hmem).imp_right (List.mem_cons_of_mem _))
      rcases List.mem_append.mp hget with hget | hget
      · exact hstep.find?_of_find? (hothers (List.mem_append_left _ hget))
      · rcases List.mem_cons.mp hget with rfl | hget
        · exact hstep.find?_of_result hresult
        · exact hstep.find?_of_find? (hothers (List.mem_append_right _ hget))

theorem consistent_run (connector : Connector σ κ) (state : σ) (moves : List Move) :
    (run connector (start state) moves).Consistent := by
  induction moves using List.reverseRecOn with
  | nil => exact consistent_start state
  | append_singleton moves move ih =>
      rw [run, List.foldl_append]
      exact ih.step move

theorem Consistent.size_eq (h : session.Consistent) :
    session.pool.cache.size = session.storedKeys.dedup.length := by
  have hperm : session.pool.cache.keys.Perm session.storedKeys.dedup := by
    refine (List.perm_ext_iff_of_nodup h.nodup (List.nodup_dedup _)).mpr ?_
    intro key
    rw [h.mem_keys_iff key, List.mem_dedup]
  rw [← hperm.length_eq, Cache.keys, List.length_map, Cache.size]

/-! ## Gets one after the other -/

/-- No get turns to the connector for a key after one for which it gave a connection, and all gets
but the last one have ended. -/
structure InOrder (session : Session σ κ) : Prop where
  pairwise : session.gets.Pairwise fun first second =>
    first.key = second.key → first.progress.hasConnected = true →
      second.progress.needsConnector = false
  ended : ∀ get ∈ session.gets.dropLast, get.progress.result?.isSome

theorem InOrder.step (h : session.InOrder) (hconsistent : session.Consistent) {move : Move}
    (hidle : ∀ config, move = .start config → session.IsIdle) :
    (session.step connector move).InOrder := by
  rcases step_cases connector session move with
    ⟨config, rfl⟩ | hsame | ⟨before, ⟨config, progress⟩, rest, after, pool, -, hgets, hstep, hnext⟩
  · refine ⟨List.pairwise_append.mpr ⟨h.pairwise, List.pairwise_singleton _ _, ?_⟩, ?_⟩
    · intro first _ second hsecond _ _
      rw [List.mem_singleton.mp hsecond]
      rfl
    · intro get hget
      rw [Session.step, List.dropLast_concat] at hget
      exact hidle config rfl get hget
  · rwa [hsame]
  · -- The get that moves is under way, so it is the last one.
    obtain rfl : rest = [] := by
      cases rest with
      | nil => rfl
      | cons other rest =>
          have hended := h.ended ⟨config, progress⟩ (by simp [hgets])
          rw [hstep.result?_eq_none] at hended
          cases hended
    have hpairwise := h.pairwise
    rw [hgets, List.pairwise_append] at hpairwise
    obtain ⟨hbefore, -, hlast⟩ := hpairwise
    have hended : ∀ get ∈ before, get.progress.result?.isSome := by
      intro get hget
      exact h.ended get (by rwa [hgets, List.dropLast_concat])
    rw [hnext]
    refine ⟨List.pairwise_append.mpr ⟨hbefore, List.pairwise_singleton _ _, ?_⟩, ?_⟩
    · intro first hfirst second hsecond hkey hconnected
      rw [List.mem_singleton.mp hsecond] at hkey ⊢
      have hneeds := hlast first hfirst ⟨config, progress⟩ List.mem_cons_self hkey hconnected
      cases hstep with
      | hit hfind => rfl
      | miss hfind =>
          -- What the first get left under the key would have been found.
          obtain ⟨kept, hkept⟩ :=
            Progress.exists_result_of_hasConnected hconnected (hended first hfirst)
          have hfound := hconsistent.find?_of_result first
            (hgets ▸ List.mem_append_left _ hfirst) kept hkept
          rw [hkey] at hfound
          cases hfind.symm.trans hfound
      | _ => cases hneeds
    · rwa [List.dropLast_concat]

/-- In a separate schedule the connector gives at most one connection for a key. -/
theorem inOrder_run {state : σ} {moves : List Move} (h : IsSeparate connector state moves) :
    (run connector (start state) moves).InOrder := by
  induction moves using List.reverseRecOn with
  | nil => exact ⟨List.Pairwise.nil, fun _ hget => absurd hget List.not_mem_nil⟩
  | append_singleton moves move ih =>
      have hmoves : IsSeparate connector state moves := by
        rintro before config rest rfl
        exact h before config (rest ++ [move]) (by simp)
      have hidle : ∀ config, move = .start config →
          (run connector (start state) moves).IsIdle := by
        rintro config rfl
        exact h moves config [] rfl
      rw [run, List.foldl_append]
      exact (ih hmoves).step (consistent_run connector state moves) hidle

/-! ## A get without others -/

theorem step_advance_last (connector : Connector σ κ) (pool : Pool σ κ) (gets : List (Get κ))
    (config : Config) (progress : Progress κ) :
    (⟨pool, gets ++ [⟨config, progress⟩]⟩ : Session σ κ).step connector (.advance gets.length) =
      ⟨(progress.advance connector config pool).2,
        gets ++ [⟨config, (progress.advance connector config pool).1⟩]⟩ := by
  simp [step]

/-- A get whose three steps follow on each other does what `Pool.get` does. -/
theorem run_alone (connector : Connector σ κ) (session : Session σ κ) (config : Config) :
    let step := Move.advance session.gets.length
    let alone := session.run connector [.start config, step, step, step]
    alone.pool = (session.pool.get connector config).2 ∧
      alone.result? session.gets.length = some (session.pool.get connector config).1 := by
  rcases session with ⟨pool, gets⟩
  intro step alone
  have hstart : (⟨pool, gets⟩ : Session σ κ).step connector (.start config) =
      ⟨pool, gets ++ [⟨config, .asked⟩]⟩ := rfl
  simp only [alone, step, run, List.foldl_cons, List.foldl_nil, hstart, step_advance_last]
  cases hfind : pool.cache.find? config.fingerprint with
  | some connection => simp [Progress.advance, result?, Progress.result?, Pool.get, hfind]
  | none =>
      rcases hconnector : connector config pool.state with ⟨error | own, state⟩
      · simp [Progress.advance, result?, Progress.result?, Pool.get, hfind, hconnector]
      · simp [Progress.advance, result?, Progress.result?, Pool.get, hfind, hconnector]

end Session

/-- Whatever the schedule and whatever the connector answers: what is stored stays; every get that
ended well has returned what stands under its key, so all those of one key have returned the same
connection; a get whose connector call fails returns the failure, and no step of a get that fails
changes the cache; there are as many entries as keys under which a get has stored. In a separate
schedule no get turns to the connector after one for which it gave a connection for the same key.
The steps of a get, taken without others in between, are `Pool.get`. -/
theorem interleaved_gets_agree (connector : Connector σ κ) (state : σ) (moves : List Move) :
    let session := Session.run connector (.start state) moves
    (∀ later key kept, session.pool.cache.find? key = some kept →
      (session.run connector later).pool.cache.find? key = some kept) ∧
    (∀ get ∈ session.gets, ∀ connection, get.progress.result? = some (.ok connection) →
      session.pool.cache.find? get.key = some connection) ∧
    (∀ first ∈ session.gets, ∀ second ∈ session.gets, first.key = second.key → ∀ one other,
      first.progress.result? = some (.ok one) → second.progress.result? = some (.ok other) →
        one = other) ∧
    (∀ index config error, session.gets[index]? = some ⟨config, .missed⟩ →
      (connector config session.pool.state).1 = .error error → ∀ later,
        ((session.step connector (.advance index)).run connector later).result? index =
          some (.error error)) ∧
    (∀ index later error,
      ((session.step connector (.advance index)).run connector later).result? index =
        some (.error error) →
          (session.step connector (.advance index)).pool.cache = session.pool.cache) ∧
    session.pool.cache.size = session.storedKeys.dedup.length ∧
    (IsSeparate connector state moves → session.gets.Pairwise fun first second =>
      first.key = second.key → first.progress.hasConnected = true →
        second.progress.needsConnector = false) ∧
    ∀ config,
      let step := Move.advance session.gets.length
      let alone := session.run connector [.start config, step, step, step]
      alone.pool = (session.pool.get connector config).2 ∧
        alone.result? session.gets.length = some (session.pool.get connector config).1 := by
  intro session
  have hconsistent : session.Consistent := Session.consistent_run connector state moves
  refine ⟨?_, hconsistent.find?_of_result, ?_, ?_, ?_, hconsistent.size_eq, ?_, ?_⟩
  · intro later key kept hkept
    exact Session.find?_run hkept later
  · intro first hfirst second hsecond hkey one other hone hother
    have hfound := hconsistent.find?_of_result first hfirst one hone
    rw [hkey, hconsistent.find?_of_result second hsecond other hother] at hfound
    exact (Option.some_inj.mp hfound).symm
  · intro index config error hget herror later
    have hfailed := Session.step_advance_of_connector_error hget herror
    rw [Session.result?, Session.getElem?_run_of_ended hfailed rfl later]
    rfl
  · intro index later error hfails
    exact Session.cache_step_of_fails hfails
  · intro hseparate
    exact (Session.inOrder_run hseparate).pairwise
  · exact Session.run_alone connector session

/-- Two gets that both miss share the connection of the one that stores first. -/
example :
    let config := Config.new "authorizer:8282"
    let session := Session.run (fun _ made => (.ok made, made + 1)) (.start 0)
      ([.start config, .start config] ++ [0, 1, 0, 1, 1, 0].map .advance)
    ([0, 1].map fun index => (session.result? index).bind Except.toOption) = [some 1, some 1] ∧
      session.pool.state = 2 ∧ session.pool.cache.size = 1 := by
  decide +kernel

end AccessControl.Client
