import AccessControl.Client.Connections
import AccessControl.Proofs.Text.Utf8
import Mathlib.Algebra.Group.Nat.Defs

/-!
# What a fingerprint tells apart

The bytes that are hashed say which fields they came from. A field begins with its length in eight
bytes, so the first field can be taken off again, and after it the next one; the number of headers
is what is left at the end. From the fields the settings are read off, but for one thing: an absent
text and an empty one give the same field.

Two configurations with different settings can thus have one place in a cache only if the hash
takes different bytes to the same value.
-/

namespace AccessControl

namespace Bytes

theorem ofLittleEndian_littleEndian {size n : Nat} (h : n < 256 ^ size) :
    ofLittleEndian (littleEndian size n) = n := by
  induction size generalizing n with
  | zero =>
      rw [Nat.pow_zero, Nat.lt_one_iff] at h
      rw [h]
      rfl
  | succ size ih =>
      have hrest : n / 256 < 256 ^ size := by
        rw [Nat.pow_succ] at h
        exact Nat.div_lt_of_lt_mul (Nat.mul_comm _ _ ▸ h)
      rw [littleEndian, ofLittleEndian, ih hrest,
        Text.toNat_ofNat_of_lt (Nat.mod_lt n (by decide)), Nat.mod_add_div]

theorem littleEndian_inj {size n m : Nat} (hn : n < 256 ^ size) (hm : m < 256 ^ size) :
    littleEndian size n = littleEndian size m ↔ n = m := by
  refine ⟨fun h => ?_, congrArg _⟩
  rw [← ofLittleEndian_littleEndian hn, h, ofLittleEndian_littleEndian hm]

theorem littleEndian_toNat_inj {a b : UInt64} :
    littleEndian 8 a.toNat = littleEndian 8 b.toNat ↔ a = b := by
  rw [littleEndian_inj a.toNat_lt b.toNat_lt, UInt64.toNat_inj]

end Bytes

namespace Client

/-! ## Framing -/

theorem framed_ne_nil (field : List UInt8) : framed field ≠ [] := by
  rw [← List.length_pos_iff, framed_length]
  omega

/-- The length of a first field tells where it ends. -/
theorem framed_append_inj {field other rest tail : List UInt8} (h : field.length < 2 ^ 64)
    (hother : other.length < 2 ^ 64) :
    framed field ++ rest = framed other ++ tail ↔ field = other ∧ rest = tail := by
  refine ⟨fun heq => ?_, fun ⟨hfield, hrest⟩ => by rw [hfield, hrest]⟩
  simp only [framed, List.append_assoc] at heq
  obtain ⟨hlength, heq⟩ := List.append_inj heq (by simp)
  exact List.append_inj heq ((Bytes.littleEndian_inj h hother).mp hlength)

theorem flatMap_framed_inj {fields others : List (List UInt8)}
    (h : ∀ field ∈ fields, field.length < 2 ^ 64)
    (hothers : ∀ other ∈ others, other.length < 2 ^ 64) :
    fields.flatMap framed = others.flatMap framed ↔ fields = others := by
  refine ⟨fun heq => ?_, congrArg _⟩
  induction fields generalizing others with
  | nil =>
      cases others with
      | nil => rfl
      | cons other others =>
          exact absurd (List.append_eq_nil_iff.mp heq.symm).1 (framed_ne_nil other)
  | cons field fields ih =>
      cases others with
      | nil => exact absurd (List.append_eq_nil_iff.mp heq).1 (framed_ne_nil field)
      | cons other others =>
          rw [List.forall_mem_cons] at h hothers
          rw [List.flatMap_cons, List.flatMap_cons, framed_append_inj h.1 hothers.1] at heq
          rw [heq.1, ih h.2 hothers.2 heq.2]

theorem flagByte_inj {a b : Bool} : flagByte a = flagByte b ↔ a = b := by
  revert a b
  decide

/-- Names and values take turns, so the fields of two lists of headers come in the same pairs. -/
theorem headerFields_inj {headers others : Entries String} :
    (headers.flatMap fun (name, value) => [Text.utf8 name, Text.utf8 value]) =
      (others.flatMap fun (name, value) => [Text.utf8 name, Text.utf8 value]) ↔
    headers = others := by
  refine ⟨fun h => ?_, congrArg _⟩
  induction headers generalizing others with
  | nil =>
      cases others with
      | nil => rfl
      | cons other others => simp at h
  | cons header headers ih =>
      cases others with
      | nil => simp at h
      | cons other others =>
          simp only [List.flatMap_cons, List.cons_append, List.nil_append, List.cons.injEq] at h
          obtain ⟨hname, hvalue, hrest⟩ := h
          rw [ih hrest, Prod.ext (Text.utf8_injective hname) (Text.utf8_injective hvalue)]

/-! ## Settings -/

namespace Config

def texts (config : Config) : List String :=
  (config.address :: [config.url, config.token, config.apiKey, config.tenantId, config.accountId,
    config.sessionId, config.caCertPath, config.clientCertPath, config.clientKeyPath].map
      (·.getD "")) ++
  config.headers.flatMap fun (name, value) => [name, value]

/-- Whether the length of every text can be written in eight bytes. -/
def TextsFit (config : Config) : Prop :=
  ∀ text ∈ config.texts, (Text.utf8 text).length < 2 ^ 64

instance (config : Config) : Decidable config.TextsFit :=
  inferInstanceAs (Decidable (∀ text ∈ config.texts, (Text.utf8 text).length < 2 ^ 64))

/-- Two configurations that differ at most in that a text is absent in one and empty in the
other. -/
structure SameSettings (config other : Config) : Prop where
  address : config.address = other.address
  url : config.url.getD "" = other.url.getD ""
  token : config.token.getD "" = other.token.getD ""
  apiKey : config.apiKey.getD "" = other.apiKey.getD ""
  tenantId : config.tenantId.getD "" = other.tenantId.getD ""
  accountId : config.accountId.getD "" = other.accountId.getD ""
  sessionId : config.sessionId.getD "" = other.sessionId.getD ""
  caCertPath : config.caCertPath.getD "" = other.caCertPath.getD ""
  clientCertPath : config.clientCertPath.getD "" = other.clientCertPath.getD ""
  clientKeyPath : config.clientKeyPath.getD "" = other.clientKeyPath.getD ""
  timeoutInSeconds : config.timeoutInSeconds = other.timeoutInSeconds
  insecure : config.insecure = other.insecure
  noTls : config.noTls = other.noTls
  headers : config.headers = other.headers

variable {config other : Config}

theorem length_lt_of_mem_hashedFields (h : config.TextsFit) {field : List UInt8}
    (hfield : field ∈ config.hashedFields) : field.length < 2 ^ 64 := by
  rcases List.mem_append.mp hfield with hfield | hheader
  · rcases List.mem_append.mp hfield with htext | hflags
    · obtain ⟨text, hmem, rfl⟩ := List.mem_map.mp htext
      exact h text (List.mem_append_left _ hmem)
    · simp only [List.mem_cons, List.not_mem_nil, or_false] at hflags
      rcases hflags with rfl | rfl
      · rw [Bytes.littleEndian_length]
        decide
      · show 2 < 2 ^ 64
        decide
  · obtain ⟨header, hmem, hfield⟩ := List.mem_flatMap.mp hheader
    simp only [List.mem_cons, List.not_mem_nil, or_false] at hfield
    have hfits : ∀ text ∈ [header.1, header.2], (Text.utf8 text).length < 2 ^ 64 := by
      intro text htext
      exact h text (List.mem_append_right _ (List.mem_flatMap.mpr ⟨header, hmem, htext⟩))
    rcases hfield with rfl | rfl
    · exact hfits _ (by simp)
    · exact hfits _ (by simp)

theorem hashedFields_eq_iff : config.hashedFields = other.hashedFields ↔
    config.SameSettings other := by
  constructor
  · intro h
    simp only [hashedFields, List.map_cons, List.map_nil, List.cons_append, List.nil_append,
      List.cons.injEq, Text.utf8_injective.eq_iff, Bytes.littleEndian_toNat_inj, flagByte_inj,
      headerFields_inj, and_true] at h
    obtain ⟨haddress, hurl, htoken, hapiKey, htenantId, haccountId, hsessionId, hcaCertPath,
      hclientCertPath, hclientKeyPath, htimeout, ⟨hinsecure, hnoTls⟩, hheaders⟩ := h
    exact ⟨haddress, hurl, htoken, hapiKey, htenantId, haccountId, hsessionId, hcaCertPath,
      hclientCertPath, hclientKeyPath, htimeout, hinsecure, hnoTls, hheaders⟩
  · rintro ⟨haddress, hurl, htoken, hapiKey, htenantId, haccountId, hsessionId, hcaCertPath,
      hclientCertPath, hclientKeyPath, htimeout, hinsecure, hnoTls, hheaders⟩
    simp only [hashedFields, List.map_cons, List.map_nil, haddress, hurl, htoken, hapiKey,
      htenantId, haccountId, hsessionId, hcaCertPath, hclientCertPath, hclientKeyPath, htimeout,
      hinsecure, hnoTls, hheaders]

theorem hashedBytes_eq_iff (h : config.TextsFit) (hother : other.TextsFit) :
    config.hashedBytes = other.hashedBytes ↔ config.SameSettings other := by
  rw [hashedBytes, hashedBytes, flatMap_framed_inj (fun _ => length_lt_of_mem_hashedFields h)
    (fun _ => length_lt_of_mem_hashedFields hother), hashedFields_eq_iff]

end Config

/-! ## Places in a cache -/

variable {σ κ : Type}

/-- A get touches no place but that of its configuration. -/
theorem Pool.find?_get_of_ne (connector : Connector σ κ) (pool : Pool σ κ) {config : Config}
    {key : UInt64} (h : config.fingerprint ≠ key) :
    (pool.get connector config).2.cache.find? key = pool.cache.find? key := by
  cases hfind : pool.cache.find? config.fingerprint with
  | some connection => rw [get_of_find? connector hfind]
  | none =>
      rcases hconnector : connector config pool.state with ⟨error | connection, state⟩
      · simp [get, hfind, hconnector]
      · simp [get, hfind, hconnector, Cache.find?_store, h]

/-- Two configurations have the same bytes hashed just if they have the same settings, an absent
text being an empty one. With other settings a get fills the place of another configuration only if
the hash takes different bytes to one value. -/
theorem fingerprint_tells_apart {config other : Config} (h : config.TextsFit)
    (hother : other.TextsFit) :
    (config.hashedBytes = other.hashedBytes ↔ config.SameSettings other) ∧
    ∀ (σ κ : Type) (connector : Connector σ κ) (pool : Pool σ κ),
      (pool.get connector config).2.cache.find? other.fingerprint ≠
          pool.cache.find? other.fingerprint →
        ¬ config.SameSettings other →
          config.hashedBytes ≠ other.hashedBytes ∧
            Bytes.Xxh3.hash config.hashedBytes = Bytes.Xxh3.hash other.hashedBytes := by
  refine ⟨Config.hashedBytes_eq_iff h hother, ?_⟩
  intro σ κ connector pool hfilled hsettings
  refine ⟨fun hbytes => hsettings ((Config.hashedBytes_eq_iff h hother).mp hbytes), ?_⟩
  exact Decidable.not_not.mp fun hhash => hfilled (Pool.find?_get_of_ne connector pool hhash)

/-- A letter that moves from one field to the next is noticed. -/
theorem hashedBytes_ne_of_moved_letter :
    let config := Config.new "authorizer:8282"
    ({ config with tenantId := some "ab", accountId := some "c" }).hashedBytes ≠
      ({ config with tenantId := some "a", accountId := some "bc" }).hashedBytes := by
  intro config hbytes
  have hsame := (fingerprint_tells_apart (by decide +kernel) (by decide +kernel)).1.mp hbytes
  exact absurd hsame.tenantId (by decide)

end Client

end AccessControl
