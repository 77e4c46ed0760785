import AccessControl.Client.Connection
import AccessControl.Proofs.Client.Fingerprint
import AccessControl.Proofs.Client.Headers

/-!
# When a cached connection is the one that would be made

To a fingerprint an absent text is an empty one, and so it is to everything that a connection is
made of, but for the paths of its files: an empty path is a path, of a file that cannot be read. As
long as no path is empty, configurations with the same bytes hashed have the same connection or the
same failure. A configuration with an empty path is never accepted; but a cache gives it the
connection of an earlier one that lacks the path.
-/

namespace AccessControl.Client

/-- Two attempts to connect that end in the same connection or in the same kind of failure. -/
inductive Alike : Except ConfigError Connection → Except ConfigError Connection → Prop
  | ok (connection : Connection) : Alike (.ok connection) (.ok connection)
  | error {error other : ConfigError} (kind : error.ctorIdx = other.ctorIdx) :
      Alike (.error error) (.error other)

/-- None of the paths of files that are read is empty; the trusted certificates of an insecure
client are not read. -/
structure Config.NamesFiles (config : Config) : Prop where
  caCertPath : config.insecure = true ∨ config.caCertPath ≠ some ""
  clientCertPath : config.clientCertPath ≠ some ""
  clientKeyPath : config.clientKeyPath ≠ some ""

/-! ## What the same settings have in common -/

theorem eq_of_getD_eq {text other : Option String} (h : text.getD "" = other.getD "")
    (htext : text ≠ some "") (hother : other ≠ some "") : text = other := by
  cases text with
  | none =>
      cases other with
      | none => rfl
      | some other => exact absurd (congrArg some h).symm hother
  | some text =>
      cases other with
      | none => exact absurd (congrArg some h) htext
      | some other => exact congrArg some h

namespace Config

theorem filter_congr {secret other : Option String} (h : secret.getD "" = other.getD "") :
    secret.filter (!·.isEmpty) = other.filter (!·.isEmpty) := by
  have hfilter : ∀ secret : Option String, secret.filter (!·.isEmpty) =
      if secret.getD "" = "" then none else some (secret.getD "") := by
    rintro (_ | text)
    · rfl
    · by_cases hempty : text = "" <;> simp [Option.filter, hempty]
  rw [hfilter, hfilter, h]

theorem nonBlank?_congr {setting other : Option String}
    (h : setting.getD "" = other.getD "") : nonBlank? setting = nonBlank? other := by
  have hnonBlank : ∀ setting : Option String, nonBlank? setting =
      if Text.trim (setting.getD "") = "" then none else some (Text.trim (setting.getD "")) := by
    rintro (_ | text)
    · rfl
    · rfl
  rw [hnonBlank, hnonBlank, h]

variable {config other : Config}

theorem validate_eq_ok_iff : config.validate = .ok () ↔
    ¬(isSet config.token && isSet config.apiKey) = true ∧
      ¬(config.insecure && config.noTls) = true ∧
        config.clientCertPath.isSome = config.clientKeyPath.isSome := by
  have hguard : ∀ (b : Bool) (error : ConfigError) (rest : Except ConfigError Unit),
      (if b then .error error else rest) = .ok () ↔ ¬b ∧ rest = .ok () := by
    rintro (_ | _) error rest <;> simp
  rw [validate, hguard, hguard, hguard, bne_iff_ne, not_not, and_iff_left rfl]

namespace SameSettings

variable (h : config.SameSettings other)

include h

theorem isSet_token : isSet config.token = isSet other.token := by
  rw [isSet_eq_isSome_filter, isSet_eq_isSome_filter, filter_congr h.token]

theorem isSet_apiKey : isSet config.apiKey = isSet other.apiKey := by
  rw [isSet_eq_isSome_filter, isSet_eq_isSome_filter, filter_congr h.apiKey]

theorem target_eq : config.target = other.target := by
  rw [target, target, scheme, scheme, h.noTls, h.address]

theorem timeout?_eq : config.timeout? = other.timeout? := by
  rw [timeout?, timeout?, h.timeoutInSeconds]

theorem requestHeaders_eq : config.requestHeaders = other.requestHeaders := by
  have hauthorization : config.authorization? = other.authorization? := by
    rw [authorization?, authorization?, filter_congr h.apiKey, filter_congr h.token]
  have hidentifiers : config.identifiers = other.identifiers := by
    rw [identifiers_eq, identifiers_eq]
    simp only [List.filterMap_cons, nonBlank?_congr h.tenantId, nonBlank?_congr h.accountId,
      nonBlank?_congr h.sessionId]
  rw [requestHeaders, requestHeaders, hauthorization, hidentifiers, h.headers]

theorem validate_congr (hcert : config.clientCertPath.isSome = other.clientCertPath.isSome)
    (hkey : config.clientKeyPath.isSome = other.clientKeyPath.isSome) :
    config.validate = other.validate := by
  rw [validate, validate, h.isSet_token, h.isSet_apiKey, h.insecure, h.noTls, hcert, hkey]

/-- Where one is valid, the other can only lack one of the paths of its certificate. -/
theorem validate_of_valid (hvalid : other.validate = .ok ()) :
    config.validate = .ok () ∨ config.validate = .error .incompleteClientCert := by
  obtain ⟨hcredentials, htls, -⟩ := validate_eq_ok_iff.mp hvalid
  rw [validate, h.isSet_token, h.isSet_apiKey, h.insecure, h.noTls, if_neg hcredentials, if_neg htls]
  split
  · exact .inr rfl
  · exact .inl rfl

theorem caCertPath_eq (hca : config.insecure = true ∨ config.caCertPath ≠ some "")
    (hother : other.insecure = true ∨ other.caCertPath ≠ some "") :
    config.insecure = true ∨ config.caCertPath = other.caCertPath := by
  rcases hca with hinsecure | hca
  · exact .inl hinsecure
  rcases hother with hinsecure | hother
  · exact .inl (h.insecure.trans hinsecure)
  · exact .inr (eq_of_getD_eq h.caCertPath hca hother)

/-- Where both are valid and the other has names, the paths of a certificate are empty together. -/
theorem clientCertPath_of_empty_key (hvalid : config.validate = .ok ())
    (hother : other.validate = .ok ()) (hnames : other.NamesFiles)
    (hkey : config.clientKeyPath = some "") : config.clientCertPath = some "" := by
  by_contra hcert
  obtain ⟨-, -, hpair⟩ := validate_eq_ok_iff.mp hvalid
  obtain ⟨-, -, hpair'⟩ := validate_eq_ok_iff.mp hother
  rw [← eq_of_getD_eq h.clientCertPath hcert hnames.clientCertPath, hpair, hkey] at hpair'
  obtain ⟨key, hkey'⟩ := Option.isSome_iff_exists.mp hpair'.symm
  have hempty := h.clientKeyPath
  rw [hkey, hkey'] at hempty
  exact hnames.clientKeyPath (hkey'.trans (congrArg some hempty.symm))

end SameSettings

end Config

/-! ## Files that cannot be read -/

namespace Tls

variable [TlsLibrary] {files : Files} {config other : Config}

theorem load_eq_ok_iff {tls : Tls} : load files config = .ok tls ↔
    trustOf files config = .ok tls.trust ∧ ownOf files config = .ok tls.own := by
  simp only [load, bind_eq_ok_iff]
  constructor
  · rintro ⟨trust, htrust, own, hown, ⟨⟩⟩
    exact ⟨htrust, hown⟩
  · rintro ⟨htrust, hown⟩
    exact ⟨_, htrust, _, hown, rfl⟩

theorem load_of_trust_error {error : ConfigError} (h : trustOf files config = .error error) :
    load files config = .error error := by
  rw [load, h]
  rfl

theorem load_of_own_error {trust : Trust} {error : ConfigError}
    (htrust : trustOf files config = .ok trust) (h : ownOf files config = .error error) :
    load files config = .error error := by
  rw [load, htrust, h]
  rfl

theorem trustOf_congr (hinsecure : config.insecure = other.insecure)
    (hca : config.insecure = true ∨ config.caCertPath = other.caCertPath) :
    trustOf files config = trustOf files other := by
  rcases hca with hca | hca
  · rw [trustOf_of_insecure files hca, trustOf_of_insecure files (hinsecure ▸ hca)]
  · rw [trustOf, trustOf, hinsecure, hca]

section

variable (hfiles : files "" = none)

include hfiles

theorem trustOf_of_empty (hinsecure : config.insecure = false)
    (hca : config.caCertPath = some "") :
    trustOf files config = .error (.unreadable "") := by
  simp only [trustOf, hinsecure, hca, readFile_of_none _ hfiles, Bool.false_eq_true, if_false]

theorem ownOf_of_empty_cert {key : String} (hcert : config.clientCertPath = some "")
    (hkey : config.clientKeyPath = some key) : ownOf files config = .error (.unreadable "") := by
  simp only [ownOf, hcert, hkey, readFile_of_none _ hfiles]
  rfl

/-- Material is loaded only from files that have names. -/
theorem namesFiles_of_load {tls : Tls} (h : load files config = .ok tls) : config.NamesFiles := by
  obtain ⟨htrust, hown⟩ := load_eq_ok_iff.mp h
  have hcert : config.clientCertPath ≠ some "" := by
    intro hcert
    cases hkey : config.clientKeyPath with
    | none => simp [ownOf, hcert, hkey] at hown
    | some key => cases (ownOf_of_empty_cert hfiles hcert hkey).symm.trans hown
  refine ⟨?_, hcert, ?_⟩
  · by_contra! hca
    cases (trustOf_of_empty hfiles (Bool.eq_false_iff.mpr hca.1) hca.2).symm.trans htrust
  · intro hkey
    cases hcert : config.clientCertPath with
    | none => simp [ownOf, hcert, hkey] at hown
    | some cert =>
        simp only [ownOf, hcert, hkey, bind_eq_ok_iff, readFile_of_none _ hfiles] at hown
        obtain ⟨chain, -, key, hkey, -⟩ := hown
        cases hkey

end

end Tls

namespace Connection

section

variable [TlsLibrary] {files : Files} {config other : Config}

theorem connect_of_valid (hvalid : config.validate = .ok ())
    (haddress : Http.Uri.parse? config.target ≠ none) :
    connect files config = (do
      let tls ← Tls.load files config
      let headers ← config.requestHeaders
      .ok ⟨config.target, headers, config.timeout?, tls⟩) := by
  rw [connect, hvalid, if_neg (mt Option.isNone_iff_eq_none.mp haddress)]
  rfl

theorem connect_eq_ok_iff {connection : Connection} : connect files config = .ok connection ↔
    config.validate = .ok () ∧ Http.Uri.parse? config.target ≠ none ∧
      connection.target = config.target ∧ config.requestHeaders = .ok connection.headers ∧
        connection.timeout = config.timeout? ∧ Tls.load files config = .ok connection.tls := by
  constructor
  · intro h
    have hvalid : config.validate = .ok () := by
      cases hvalid : config.validate with
      | error error => cases (connect_of_invalid files hvalid).symm.trans h
      | ok _ => rfl
    have haddress : Http.Uri.parse? config.target ≠ none := by
      intro hnone
      rw [connect, hvalid] at h
      simp only [hnone] at h
      cases h
    rw [connect_of_valid hvalid haddress, bind_eq_ok_iff] at h
    obtain ⟨tls, htls, h⟩ := h
    obtain ⟨headers, hheaders, ⟨⟩⟩ := bind_eq_ok_iff.mp h
    exact ⟨hvalid, haddress, rfl, hheaders, rfl, htls⟩
  · rintro ⟨hvalid, haddress, htarget, hheaders, htimeout, htls⟩
    rw [connect_of_valid hvalid haddress, htls, hheaders, ← htarget, ← htimeout]
    rfl

theorem connect_of_load_error (hvalid : config.validate = .ok ())
    (haddress : Http.Uri.parse? config.target ≠ none) {error : ConfigError}
    (hload : Tls.load files config = .error error) : connect files config = .error error := by
  rw [connect_of_valid hvalid haddress, hload]
  rfl

theorem namesFiles_of_connect (hfiles : files "" = none) {connection : Connection}
    (h : connect files config = .ok connection) : config.NamesFiles := by
  obtain ⟨-, -, -, -, -, htls⟩ := connect_eq_ok_iff.mp h
  exact Tls.namesFiles_of_load hfiles htls

/-- Where all paths have names, an absent text is an empty one throughout. -/
theorem connect_congr (h : config.SameSettings other) (hnames : config.NamesFiles)
    (hother : other.NamesFiles) : connect files config = connect files other := by
  have hcert : config.clientCertPath = other.clientCertPath :=
    eq_of_getD_eq h.clientCertPath hnames.clientCertPath hother.clientCertPath
  have hkey : config.clientKeyPath = other.clientKeyPath :=
    eq_of_getD_eq h.clientKeyPath hnames.clientKeyPath hother.clientKeyPath
  have hca := h.caCertPath_eq hnames.caCertPath hother.caCertPath
  have hvalid : config.validate = other.validate := h.validate_congr (by rw [hcert]) (by rw [hkey])
  have hload : Tls.load files config = Tls.load files other := by
    rw [Tls.load, Tls.load, Tls.trustOf_congr h.insecure hca, Tls.ownOf, Tls.ownOf, hcert, hkey]
  rw [connect, connect, hvalid, h.target_eq, h.address, hload, h.requestHeaders_eq, h.timeout?_eq]

/-- What is wrong with a configuration that has an empty path where an accepted one has none. -/
theorem connect_of_accepted (hfiles : files "" = none) (h : config.SameSettings other)
    (hnames : ¬config.NamesFiles) {connection : Connection}
    (hother : connect files other = .ok connection) :
    connect files config = .error .incompleteClientCert ∨
      connect files config = .error (.unreadable "") := by
  obtain ⟨hvalid, haddress, -, -, -, htls⟩ := connect_eq_ok_iff.mp hother
  have hothers := Tls.namesFiles_of_load hfiles htls
  rcases h.validate_of_valid hvalid with hvalid' | hvalid'
  swap
  · exact .inl (connect_of_invalid files hvalid')
  refine .inr (connect_of_load_error hvalid' (h.target_eq ▸ haddress) ?_)
  by_cases hca : config.insecure = true ∨ config.caCertPath ≠ some ""
  swap
  · push Not at hca
    exact Tls.load_of_trust_error
      (Tls.trustOf_of_empty hfiles (Bool.eq_false_iff.mpr hca.1) hca.2)
  -- The trust is the same, so one of the paths of the certificate is empty, and then both are.
  have hcert : config.clientCertPath = some "" := by
    by_contra hcert
    refine hnames ⟨hca, hcert, fun hkey => hcert ?_⟩
    exact h.clientCertPath_of_empty_key hvalid' hvalid hothers hkey
  obtain ⟨-, -, hpair⟩ := Config.validate_eq_ok_iff.mp hvalid'
  rw [hcert] at hpair
  obtain ⟨key, hkey⟩ := Option.isSome_iff_exists.mp hpair.symm
  obtain ⟨htrust, -⟩ := Tls.load_eq_ok_iff.mp htls
  rw [← Tls.trustOf_congr h.insecure (h.caCertPath_eq hca hothers.caCertPath)] at htrust
  exact Tls.load_of_own_error htrust (Tls.ownOf_of_empty_cert hfiles hcert hkey)

/-! ## Behind other gets -/

/-- The cache of the default connector after some gets. -/
def warm (files : Files) (configs : List Config) : Pool Unit Connection :=
  configs.foldl (fun pool config => (pool.get (connector files) config).2) (.start ())

def made? (files : Files) (key : UInt64) (config : Config) : Option Connection :=
  if config.fingerprint = key then (connect files config).toOption else none

theorem get_eq (files : Files) (pool : Pool Unit Connection) (config : Config) :
    (pool.get (connector files) config).1 =
      match pool.cache.find? config.fingerprint with
      | some connection => .ok connection
      | none => connect files config := by
  cases hfind : pool.cache.find? config.fingerprint with
  | some connection => rw [Pool.get_of_find? _ hfind]
  | none => cases hconnect : connect files config <;>
      simp [Pool.get, hfind, connector, hconnect, Cache.find?_store]

theorem find?_get (files : Files) (pool : Pool Unit Connection) (config : Config) (key : UInt64) :
    (pool.get (connector files) config).2.cache.find? key =
      (pool.cache.find? key).or (made? files key config) := by
  by_cases hkey : config.fingerprint = key
  · subst hkey
    cases hfind : pool.cache.find? config.fingerprint with
    | some connection => rw [Pool.get_of_find? _ hfind, hfind, Option.some_or]
    | none => cases hconnect : connect files config <;>
        simp [Pool.get, hfind, connector, hconnect, Cache.find?_store, made?, Except.toOption]
  · rw [Pool.find?_get_of_ne _ _ hkey, made?, if_neg hkey, Option.or_none]

/-- Under a key stands the first connection that was made for it. -/
theorem find?_warm (files : Files) (configs : List Config) (key : UInt64) :
    (warm files configs).cache.find? key = configs.findSome? (made? files key) := by
  induction configs using List.reverseRecOn with
  | nil => rfl
  | append_singleton configs last ih =>
      have hlast : warm files (configs ++ [last]) =
          ((warm files configs).get (connector files) last).2 := by
        rw [warm, List.foldl_append]
        rfl
      rw [hlast, find?_get, ih, List.findSome?_append, List.findSome?_singleton]

theorem made?_eq_some_iff {key : UInt64} {connection : Connection} :
    made? files key config = some connection ↔
      config.fingerprint = key ∧ connect files config = .ok connection := by
  rw [made?, Option.ite_none_right_eq_some]
  refine and_congr_right fun _ => ?_
  cases connect files config <;> simp [Except.toOption]

section

variable {others : List Config} (hconfig : config.TextsFit)
  (hothers : ∀ other ∈ others, other.TextsFit)
  (hhash : ∀ other ∈ others, other.fingerprint = config.fingerprint →
    other.hashedBytes = config.hashedBytes)

include hconfig hothers hhash

/-- A get is answered with the connection of an earlier configuration with the same settings, or by
the connector if all of those have failed. -/
theorem get_warm_cases (files : Files) :
    (∃ other ∈ others, ∃ connection, other.SameSettings config ∧
      connect files other = .ok connection ∧
        ((warm files others).get (connector files) config).1 = .ok connection) ∨
    (∀ other ∈ others, other.hashedBytes = config.hashedBytes →
      ∃ error, connect files other = .error error) ∧
        ((warm files others).get (connector files) config).1 = connect files config := by
  rw [get_eq, find?_warm]
  cases hfound : others.findSome? (made? files config.fingerprint) with
  | some connection =>
      left
      obtain ⟨other, hmem, hmade⟩ := List.exists_of_findSome?_eq_some hfound
      obtain ⟨hkey, hconnect⟩ := made?_eq_some_iff.mp hmade
      have hsame := (Config.hashedBytes_eq_iff (hothers other hmem) hconfig).mp
        (hhash other hmem hkey)
      exact ⟨other, hmem, connection, hsame, hconnect, rfl⟩
  | none =>
      refine .inr ⟨fun other hmem hbytes => ?_, rfl⟩
      have hmade := List.findSome?_eq_none_iff.mp hfound other hmem
      cases hconnect : connect files other with
      | error error => exact ⟨error, rfl⟩
      | ok connection =>
          have hkey : other.fingerprint = config.fingerprint :=
            congrArg Bytes.Xxh3.hash hbytes
          cases hmade.symm.trans (made?_eq_some_iff.mpr ⟨hkey, hconnect⟩)

theorem get_warm_eq_connect_iff (hfiles : files "" = none) :
    ((warm files others).get (connector files) config).1 = connect files config ↔
      config.NamesFiles ∨ ∀ other ∈ others, other.hashedBytes = config.hashedBytes →
        ∃ error, connect files other = .error error := by
  rcases get_warm_cases hconfig hothers hhash files with
    ⟨other, hmem, connection, hsame, hconnect, hget⟩ | ⟨hfailed, hget⟩
  · rw [hget]
    constructor
    · intro hcold
      exact .inl (namesFiles_of_connect hfiles hcold.symm)
    · rintro (hnames | hfailed)
      · rw [← hconnect]
        exact connect_congr hsame (namesFiles_of_connect hfiles hconnect) hnames
      · have hbytes := (Config.hashedBytes_eq_iff (hothers other hmem) hconfig).mpr hsame
        obtain ⟨error, herror⟩ := hfailed other hmem hbytes
        cases herror.symm.trans hconnect
  · exact ⟨fun _ => .inr hfailed, fun _ => hget⟩

theorem settings_of_get_warm {connection : Connection}
    (h : ((warm files others).get (connector files) config).1 = .ok connection) :
    (∃ other ∈ config :: others, other.SameSettings config ∧
      connect files other = .ok connection) ∧
    connection.target = config.target ∧ config.requestHeaders = .ok connection.headers ∧
      connection.timeout = config.timeout? := by
  obtain ⟨other, hmem, hsame, hconnect⟩ : ∃ other ∈ config :: others, other.SameSettings config ∧
      connect files other = .ok connection := by
    rcases get_warm_cases hconfig hothers hhash files with
      ⟨other, hmem, found, hsame, hconnect, hget⟩ | ⟨-, hget⟩
    · rw [hget, Except.ok.injEq] at h
      exact ⟨other, List.mem_cons_of_mem _ hmem, hsame, h ▸ hconnect⟩
    · have hrefl := (Config.hashedBytes_eq_iff hconfig hconfig).mp rfl
      exact ⟨config, List.mem_cons_self, hrefl, hget ▸ h⟩
  refine ⟨⟨other, hmem, hsame, hconnect⟩, ?_⟩
  obtain ⟨-, -, htarget, hheaders, htimeout, -⟩ := connect_eq_ok_iff.mp hconnect
  rw [← hsame.target_eq, ← hsame.requestHeaders_eq, ← hsame.timeout?_eq]
  exact ⟨htarget, hheaders, htimeout⟩

end

theorem alike_iff (hfiles : files "" = none) (h : config.SameSettings other) :
    Alike (connect files config) (connect files other) ↔
      config.NamesFiles ∧ other.NamesFiles ∨ ∃ error failure, connect files config = .error error ∧
        connect files other = .error failure ∧ error.ctorIdx = failure.ctorIdx := by
  constructor
  · intro halike
    generalize hconfig : connect files config = result at halike
    generalize hother : connect files other = result' at halike
    cases halike with
    | ok connection =>
        exact .inl ⟨namesFiles_of_connect hfiles hconfig, namesFiles_of_connect hfiles hother⟩
    | error kind => exact .inr ⟨_, _, rfl, rfl, kind⟩
  · rintro (⟨hnames, hnames'⟩ | ⟨error, failure, hconfig, hother, hkind⟩)
    · rw [connect_congr h hnames hnames']
      cases connect files other with
      | ok connection => exact .ok connection
      | error error => exact .error rfl
    · rw [hconfig, hother]
      exact .error hkind

end

/-- Two configurations with the same bytes hashed end in the same connection or the same kind of
failure just if all paths that they read have names or they fail alike anyway. A configuration with
an empty path is never accepted, and where another with the same bytes is, it lacks the other path
of its certificate or cannot read the file. Unless the hash takes different bytes to one value, a
get after others has the result of a first one just if all paths have names or every earlier
configuration with the same bytes has failed; and the connection that it returns is that of a
configuration with the same settings, whose address, headers and time limit it shares. -/
theorem get_warm_transparent_iff [TlsLibrary] {files : Files} (hfiles : files "" = none) :
    (∀ config other : Config, config.TextsFit → other.TextsFit →
      config.hashedBytes = other.hashedBytes →
        (Alike (connect files config) (connect files other) ↔
          config.NamesFiles ∧ other.NamesFiles ∨
            ∃ error failure, connect files config = .error error ∧
              connect files other = .error failure ∧ error.ctorIdx = failure.ctorIdx) ∧
        ∀ connection, connect files other = .ok connection → other.NamesFiles ∧
          (¬config.NamesFiles → connect files config = .error .incompleteClientCert ∨
            connect files config = .error (.unreadable ""))) ∧
    ∀ (config : Config) (others : List Config), config.TextsFit →
      (∀ other ∈ others, other.TextsFit) →
      (∀ other ∈ others, other.fingerprint = config.fingerprint →
        other.hashedBytes = config.hashedBytes) →
          let cold := (Pool.get (connector files) (.start ()) config).1
          let result := ((warm files others).get (connector files) config).1
          (result = cold ↔
            config.NamesFiles ∨ ∀ other ∈ others, other.hashedBytes = config.hashedBytes →
              ∃ error, connect files other = .error error) ∧
          ∀ connection, result = .ok connection →
            (∃ other ∈ config :: others, other.SameSettings config ∧
              connect files other = .ok connection) ∧
            connection.target = config.target ∧
              config.requestHeaders = .ok connection.headers ∧
                connection.timeout = config.timeout? := by
  constructor
  · intro config other hfit hfit' hbytes
    have hsame := (Config.hashedBytes_eq_iff hfit hfit').mp hbytes
    refine ⟨alike_iff hfiles hsame, fun connection hother => ?_⟩
    exact ⟨namesFiles_of_connect hfiles hother,
      fun hnames => connect_of_accepted hfiles hsame hnames hother⟩
  · intro config others hfit hfits hhash cold result
    have hcold : cold = connect files config := get_eq files (.start ()) config
    rw [hcold]
    exact ⟨get_warm_eq_connect_iff hfit hfits hhash hfiles,
      fun _ => settings_of_get_warm hfit hfits hhash⟩

/-- An absent identifier and an empty one share a connection. -/
theorem get_warm_transparent_iff_for_empty_tenant :
    letI : TlsLibrary := .blank
    let files : Files := fun _ => none
    let config := Config.new "authorizer:8282"
    let other := { config with tenantId := some "" }
    files "" = none ∧ Alike (connect files other) (connect files config) ∧
      ((warm files [config]).get (connector files) other).1 =
        (Pool.get (connector files) (.start ()) other).1 := by
  intro files config other
  have hfit : config.TextsFit := by decide +kernel
  have hfit' : other.TextsFit := by decide +kernel
  have hbytes : other.hashedBytes = config.hashedBytes := rfl
  have hnames : config.NamesFiles := ⟨.inr nofun, nofun, nofun⟩
  have hnames' : other.NamesFiles := ⟨.inr nofun, nofun, nofun⟩
  have hfiles : files "" = none := rfl
  obtain ⟨halike, hcached⟩ := get_warm_transparent_iff hfiles
  refine ⟨hfiles, (halike other config hfit' hfit hbytes).1.mpr (.inl ⟨hnames', hnames⟩), ?_⟩
  refine (hcached other [config] hfit' ?_ ?_).1.mpr (.inl hnames')
  · exact List.forall_mem_singleton.mpr hfit
  · exact List.forall_mem_singleton.mpr fun _ => hbytes.symm

/-- A configuration that lacks the key of its certificate is refused by a new cache and accepted
behind one without a certificate. -/
theorem get_warm_accepts_refused :
    letI : TlsLibrary := .blank
    let files : Files := fun _ => none
    let config := Config.new "localhost:8282"
    let refused := { config with clientCertPath := some "" }
    let connection : Connection := ⟨"https://localhost:8282", [], none, ⟨.platform, none⟩⟩
    refused.hashedBytes = config.hashedBytes ∧
      (Pool.get (connector files) (.start ()) refused).1 = .error .incompleteClientCert ∧
      (Pool.get (connector files) (.start ()) config).1 = .ok connection ∧
      ((warm files [config]).get (connector files) refused).1 = .ok connection := by
  intro files config refused connection
  have hbytes : refused.hashedBytes = config.hashedBytes := rfl
  have hkey : config.fingerprint = refused.fingerprint := congrArg Bytes.Xxh3.hash hbytes.symm
  have hconnect : connect files config = .ok connection := by decide +kernel
  refine ⟨hbytes, get_eq files (.start ()) refused, ?_, ?_⟩
  · exact (get_eq files (.start ()) config).trans hconnect
  · rw [get_eq, find?_warm, List.findSome?_singleton, made?_eq_some_iff.mpr ⟨hkey, hconnect⟩]

end Connection

end AccessControl.Client
