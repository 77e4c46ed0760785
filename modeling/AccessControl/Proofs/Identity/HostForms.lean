import AccessControl.Proofs.Http.Authority
import AccessControl.Proofs.Identity.Host
import AccessControl.Proofs.Text.Split
import AccessControl.Proofs.Text.Trim

/-!
# The host of a URI and the host of a header

The authority that a request is sent to stands in its URI or in its `host` header. The host is taken
out of it in two ways: from a URI all up to the first colon, from a header all up to the last one if
digits follow it. Both give the same for a host that is not in brackets, alone or with a port. An
address in brackets is another matter. A URI keeps the brackets and a header loses them, so the
first and the last segment of such a host depend on where the authority stood.
-/

namespace AccessControl

open Text (splitList splitOn)
open Http.Uri (hostOfAuthority)
open Call (stripPort)

/-! ## Hosts and ports -/

/-- An authority that is a host, alone or with a port behind a colon. The host holds no colon and
does not start with a bracket. The port is made of digits and may be empty. -/
inductive HostAndPort : List Char → List Char → Prop
  | bare {host : List Char} (colon : ':' ∉ host) (bracket : host.head? ≠ some '[') :
      HostAndPort host host
  | port {host port : List Char} (colon : ':' ∉ host) (bracket : host.head? ≠ some '[')
      (digits : ∀ c ∈ port, c.isDigit = true) : HostAndPort (host ++ ':' :: port) host

section

variable {authority : String} {rest : List Char}

theorem hostOfAuthority_of_open (hat : '@' ∉ authority.toList)
    (hopen : authority.toList = '[' :: rest) :
    hostOfAuthority authority =
      String.ofList ('[' :: (rest.takeWhile (· != ']') ++ [']'])) := by
  rw [hostOfAuthority, Text.rsplitOnce_eq_none_iff.mpr hat, hopen]
  rfl

theorem stripPort_of_open (hopen : authority.toList = '[' :: rest) :
    stripPort authority = String.ofList (rest.takeWhile (· != ']')) := by
  rw [stripPort, hopen]
  rfl

theorem hostOfAuthority_of_not_open (hat : '@' ∉ authority.toList)
    (hopen : authority.toList.head? ≠ some '[') :
    hostOfAuthority authority = String.ofList (authority.toList.takeWhile (· != ':')) := by
  rw [hostOfAuthority, Text.rsplitOnce_eq_none_iff.mpr hat]
  dsimp only
  split
  · rename_i heq
    simp [heq] at hopen
  · rfl

theorem stripPort_of_not_open (hopen : authority.toList.head? ≠ some '[') :
    stripPort authority =
      match Text.rsplitOnce ':' authority.toList with
      | some (name, port) => if port.all Char.isDigit then String.ofList name else authority
      | none => authority := by
  rw [stripPort]
  split
  · rename_i heq
    simp [heq] at hopen
  · rfl

theorem HostAndPort.head?_ne {cs host : List Char} (h : HostAndPort cs host) :
    cs.head? ≠ some '[' := by
  cases h with
  | bare colon bracket => exact bracket
  | port colon bracket digits =>
      cases host with
      | nil => simp
      | cons first rest => exact bracket

variable {host : String}

/-- A URI is cut at the colon in front of the port. -/
theorem HostAndPort.hostOfAuthority_eq (h : HostAndPort authority.toList host.toList)
    (hat : '@' ∉ authority.toList) : hostOfAuthority authority = host := by
  rw [hostOfAuthority_of_not_open hat h.head?_ne, ← String.toList_inj, String.toList_ofList]
  generalize authority.toList = cs, host.toList = host at h
  cases h with
  | bare colon bracket =>
      refine List.takeWhile_eq_self_iff.mpr fun c hc => ?_
      exact bne_iff_ne.mpr fun heq => colon (heq ▸ hc)
  | port colon bracket digits => exact Text.takeWhile_append_cons colon _

/-- A header is cut there too, since digits follow. -/
theorem HostAndPort.stripPort_eq (h : HostAndPort authority.toList host.toList) :
    stripPort authority = host := by
  rw [stripPort_of_not_open h.head?_ne]
  generalize hcs : authority.toList = cs, hname : host.toList = name at h
  cases h with
  | bare colon bracket =>
      rw [Text.rsplitOnce_eq_none_iff.mpr colon]
      exact String.toList_inj.mp (hcs.trans hname.symm)
  | port colon bracket digits =>
      rename_i port
      have hport : ':' ∉ port := fun hmem => absurd (digits ':' hmem) (by decide)
      rw [Text.rsplitOnce_eq_some_iff.mpr ⟨rfl, hport⟩]
      simp only [List.all_eq_true.mpr digits, if_true, ← hname, String.ofList_toList]

theorem hostOfAuthority_ne_stripPort_of_open (hat : '@' ∉ authority.toList)
    (hopen : authority.toList = '[' :: rest) :
    hostOfAuthority authority ≠ stripPort authority := by
  rw [hostOfAuthority_of_open hat hopen, stripPort_of_open hopen, ne_eq, String.ofList_inj]
  intro heq
  have hlength := congrArg List.length heq
  simp only [List.length_cons, List.length_append, List.length_nil] at hlength
  omega

/-- The two ways agree on a host with or without a port, and on nothing else. -/
theorem hostOfAuthority_eq_stripPort_iff (hat : '@' ∉ authority.toList) :
    hostOfAuthority authority = stripPort authority ↔
      ∃ host : String, HostAndPort authority.toList host.toList := by
  constructor
  · intro h
    by_cases hopen : authority.toList.head? = some '['
    · obtain ⟨rest, hrest⟩ := List.head?_eq_some_iff.mp hopen
      exact absurd h (hostOfAuthority_ne_stripPort_of_open hat hrest)
    · rw [hostOfAuthority_of_not_open hat hopen, stripPort_of_not_open hopen] at h
      cases hcut : Text.rsplitOnce ':' authority.toList with
      | none => exact ⟨authority, .bare (Text.rsplitOnce_eq_none_iff.mp hcut) hopen⟩
      | some cut =>
          rcases cut with ⟨name, port⟩
          obtain ⟨hcs, -⟩ := Text.rsplitOnce_eq_some_iff.mp hcut
          rw [hcut] at h
          dsimp only at h
          have hname : ':' ∉ authority.toList.takeWhile (· != ':') := Text.notMem_takeWhile _ _
          split at h
          · rename_i hdigits
            rw [String.ofList_inj.mp h] at hname
            have hbracket : name.head? ≠ some '[' := by
              intro hhead
              rw [hcs, List.head?_append, hhead] at hopen
              exact hopen rfl
            refine ⟨String.ofList name, ?_⟩
            rw [hcs, String.toList_ofList]
            exact .port hname hbracket (List.all_eq_true.mp hdigits)
          -- Without a cut the header is the whole authority, which does hold a colon.
          · rw [← String.toList_inj, String.toList_ofList] at h
            rw [h, hcs] at hname
            exact absurd (List.mem_append_right name List.mem_cons_self) hname
  · rintro ⟨host, h⟩
    rw [h.hostOfAuthority_eq hat, h.stripPort_eq]

end

/-! ## Segments -/

/-- Brackets show in the first segment and in the last, and in no other. -/
theorem segments_in_brackets (address : List Char) :
    (splitList '.' ('[' :: (address ++ [']']))).length = (splitList '.' address).length ∧
    ∀ k : Nat, k < (splitList '.' address).length →
      ((splitList '.' ('[' :: (address ++ [']'])))[k]? ≠ (splitList '.' address)[k]? ↔
        k = 0 ∨ k + 1 = (splitList '.' address).length) := by
  obtain ⟨front, last, hsplit, happend⟩ := Text.exists_splitList_append_singleton '.' address
  have hclose := happend ']' (by decide)
  have hlonger : last ++ [']'] ≠ last := by simp
  cases front with
  | nil =>
      have hwhole : splitList '.' ('[' :: (address ++ [']'])) = ['[' :: (last ++ [']'])] := by
        rw [splitList, if_neg (by decide), hclose, List.nil_append]
      have hne : '[' :: (last ++ [']']) ≠ last := by
        intro heq
        have hlength := congrArg List.length heq
        simp only [List.length_cons, List.length_append, List.length_nil] at hlength
        omega
      rw [hwhole, hsplit]
      refine ⟨rfl, fun k hk => ?_⟩
      obtain rfl : k = 0 := by simpa using hk
      simpa using hne
  | cons first front =>
      have hwhole : splitList '.' ('[' :: (address ++ [']'])) =
          ('[' :: first) :: (front ++ [last ++ [']']]) := by
        rw [splitList, if_neg (by decide), hclose, List.cons_append]
      rw [hwhole, hsplit, List.cons_append]
      refine ⟨by simp, fun k hk => ?_⟩
      cases k with
      | zero => simp
      | succ k =>
          rw [or_iff_right k.succ_ne_zero, List.getElem?_cons_succ, List.getElem?_cons_succ]
          simp only [List.length_cons, List.length_append, List.length_nil] at hk ⊢
          by_cases hk' : k < front.length
          · rw [List.getElem?_append_left hk', List.getElem?_append_left hk']
            refine iff_of_false (fun h => h rfl) ?_
            omega
          · obtain rfl : k = front.length := by omega
            simp [hlonger]

namespace Identity

/-- The place that an index stands for among so many segments; a negative index counts from the
end. -/
def position (count : Nat) (index : Int) : Option Nat :=
  let place := if index < 0 then (count : Int) + index else index
  if 0 ≤ place ∧ place < count then some place.toNat else none

theorem position_eq_some_iff {count : Nat} {index : Int} {k : Nat} :
    position count index = some k ↔ k < count ∧ (index = k ∨ index = (k : Int) - count) := by
  unfold position
  split <;> simp only [Option.ite_none_right_eq_some, Option.some_inj] <;> omega

/-- The indices that stand for the first place and for the last. -/
theorem exists_position_at_end_iff {count : Nat} (hcount : 0 < count) (index : Int) :
    (∃ k, position count index = some k ∧ (k = 0 ∨ k + 1 = count)) ↔
      index = 0 ∨ index = -1 ∨ index = count - 1 ∨ index = -count := by
  simp only [position_eq_some_iff]
  constructor
  · rintro ⟨k, ⟨hk, hindex⟩, hend⟩
    omega
  · intro h
    by_cases hfirst : index = 0 ∨ index = -count
    · exact ⟨0, by omega⟩
    · exact ⟨count - 1, by omega⟩

theorem hostSegment?_eq (host : String) (index : Int) :
    hostSegment? host index =
      (position (splitOn '.' host).length index).bind fun k => (splitOn '.' host)[k]? := by
  unfold hostSegment? position
  extract_lets segments place counted
  have hcounted : counted = place := rfl
  rw [hcounted]
  by_cases hplace : 0 ≤ place ∧ place < segments.length
  · rw [if_neg (Int.not_lt.mpr hplace.1), if_pos hplace]
    rfl
  · rw [if_neg hplace]
    split
    · rfl
    · exact List.getElem?_eq_none (by omega)

variable {call other : Call}

/-- In a host without blanks nothing is left to trim. -/
theorem hostText_eq {host : String} (hhost : call.host = some host)
    (hblank : ∀ c ∈ host.toList, Text.isBlank c = false) (index : Int) :
    hostText call index = String.ofList (((position (splitList '.' host.toList).length index).bind
      fun k => (splitList '.' host.toList)[k]?).getD []) := by
  rw [hostText, Source.read, hhost, Option.bind_some, hostSegment?_eq, splitOn, List.length_map]
  cases position (splitList '.' host.toList).length index with
  | none => rfl
  | some k =>
      rw [Option.bind_some, Option.bind_some, List.getElem?_map]
      cases hpiece : (splitList '.' host.toList)[k]? with
      | none => rfl
      | some piece =>
          have htrim : Text.trim (String.ofList piece) = String.ofList piece := by
            refine Text.trim_of_not_isBlank fun c hc => hblank c ?_
            rw [String.toList_ofList] at hc
            exact Text.mem_of_mem_splitList (List.mem_of_getElem? hpiece) hc
          exact htrim

/-- Only the segments at both ends tell an address in brackets from the address. -/
theorem hostText_in_brackets_ne_iff {address : List Char}
    (hcall : call.host = some (String.ofList ('[' :: (address ++ [']']))))
    (hother : other.host = some (String.ofList address))
    (hblank : ∀ c ∈ address, Text.isBlank c = false) (index : Int) :
    hostText call index ≠ hostText other index ↔
      index = 0 ∨ index = -1 ∨ index = (splitList '.' address).length - 1 ∨
        index = -(splitList '.' address).length := by
  have hbrackets : ∀ c ∈ (String.ofList ('[' :: (address ++ [']']))).toList,
      Text.isBlank c = false := by
    intro c hc
    simp only [String.toList_ofList, List.mem_cons, List.mem_append, List.not_mem_nil, or_false]
      at hc
    obtain rfl | hc | rfl := hc
    · decide
    · exact hblank c hc
    · decide
  have haddress : ∀ c ∈ (String.ofList address).toList, Text.isBlank c = false := by
    simpa using hblank
  obtain ⟨hlength, hsegments⟩ := segments_in_brackets address
  have hpieces := List.length_pos_iff.mpr (Text.splitList_ne_nil '.' address)
  rw [← exists_position_at_end_iff hpieces, hostText_eq hcall hbrackets,
    hostText_eq hother haddress, ne_eq, String.ofList_inj, String.toList_ofList,
    String.toList_ofList, hlength]
  cases hposition : position (splitList '.' address).length index with
  | none => simp
  | some k =>
      obtain ⟨hk, -⟩ := position_eq_some_iff.mp hposition
      have hsegment := hsegments k hk
      rw [List.getElem?_eq_getElem (hlength ▸ hk), List.getElem?_eq_getElem hk, ne_eq,
        Option.some_inj] at hsegment
      rw [Option.bind_some, Option.bind_some, List.getElem?_eq_getElem (hlength ▸ hk),
        List.getElem?_eq_getElem hk, Option.getD_some, Option.getD_some, hsegment]
      simp only [Option.some_inj, exists_eq_left']

end Identity

/-! ## Calls -/

section

variable {authority : String} {request : Http.Request}

theorem Call.host_ofRequest_of_authority (h : request.uri.authority = some authority) :
    (ofRequest request).host = some (hostOfAuthority authority) := by
  rw [ofRequest, hostOf, Http.Uri.host?, h]
  rfl

/-- The authority of a URI can be read from a header as it is. -/
theorem Call.host_ofRequest_of_header (horigin : request.uri.authority = none)
    (hheader : request.headers.first? "host" = some authority)
    (haccepted : Http.Uri.isAuthority authority.toList = true) :
    (ofRequest request).host = some (stripPort authority) := by
  have hreadable : Http.isReadable authority = true := List.all_eq_true.mpr fun c hc =>
    (Http.Uri.isGraphic_of_isAuthority haccepted c hc).isReadableChar
  have hname : Text.asciiLowercase "host" = "host" := by decide
  rw [ofRequest, hostOf, Http.Uri.host?, horigin, Http.Fields.text?, hname, hheader,
    Option.filter_some, if_pos hreadable]
  rfl

end

/-- The call of a request that has its authority in the URI and the call of one that has it in the
`host` header have the same host exactly if the authority is a host that is not in brackets, alone
or with a port; it is then this host. Rules that read a segment of the host resolve to the same
identity exactly if they are for anonymous callers or this segment is the same. That of an address
in brackets differs at both ends, since only the URI keeps the brackets. -/
theorem host_forms_agree_iff {text authority : String} {absolute origin : Http.Request}
    (hparsed : Http.Uri.parse? text = some absolute.uri)
    (hauthority : absolute.uri.authority = some authority) (hat : '@' ∉ authority.toList)
    (horigin : origin.uri.authority = none)
    (hheader : origin.headers.first? "host" = some authority) :
    let direct := Call.ofRequest absolute
    let named := Call.ofRequest origin
    (direct.host = named.host ↔ ∃ host : String, HostAndPort authority.toList host.toList) ∧
    (∀ host : String, HostAndPort authority.toList host.toList →
      direct.host = some host ∧ named.host = some host ∧
      ∀ (rules : Identity.Rules) (index : Int), rules.mapper = none →
        rules.source = some (.hostname index) → rules.resolve direct = rules.resolve named) ∧
    (∀ (rules : Identity.Rules) (index : Int), rules.mapper = none →
      rules.source = some (.hostname index) →
        (rules.resolve direct = rules.resolve named ↔ rules.kind = some .anonymous ∨
          Identity.hostText direct index = Identity.hostText named index)) ∧
    ∀ rest, authority.toList = '[' :: rest → ∃ address behind,
      rest = address ++ ']' :: behind ∧ ']' ∉ address ∧
      direct.host = some (String.ofList ('[' :: (address ++ [']']))) ∧
      named.host = some (String.ofList address) ∧
      ∀ index : Int, Identity.hostText direct index ≠ Identity.hostText named index ↔
        index = 0 ∨ index = -1 ∨ index = (splitList '.' address).length - 1 ∨
          index = -(splitList '.' address).length := by
  intro direct named
  have haccepted := Http.Uri.isAuthority_of_parse? hparsed hauthority
  have hdirect : direct.host = some (hostOfAuthority authority) :=
    Call.host_ofRequest_of_authority hauthority
  have hnamed : named.host = some (stripPort authority) :=
    Call.host_ofRequest_of_header horigin hheader haccepted
  have hrules : ∀ (rules : Identity.Rules) (index : Int), rules.mapper = none →
      rules.source = some (.hostname index) →
        (rules.resolve direct = rules.resolve named ↔ rules.kind = some .anonymous ∨
          Identity.hostText direct index = Identity.hostText named index) :=
    fun _ _ hmapper hsource => Identity.Rules.resolve_eq_iff_of_hostname hmapper hsource
  refine ⟨?_, ?_, hrules, ?_⟩
  · rw [hdirect, hnamed, Option.some_inj]
    exact hostOfAuthority_eq_stripPort_iff hat
  · intro host h
    rw [h.hostOfAuthority_eq hat] at hdirect
    rw [h.stripPort_eq] at hnamed
    refine ⟨hdirect, hnamed, fun rules index hmapper hsource => ?_⟩
    refine (hrules rules index hmapper hsource).mpr (.inr ?_)
    rw [Identity.hostText, Identity.hostText, Identity.Source.read, Identity.Source.read, hdirect,
      hnamed]
  · intro rest hopen
    have hclose : ']' ∈ rest := by
      have hmem := Http.Uri.closes_of_isAuthority haccepted (by simp [hopen])
      rw [hopen] at hmem
      exact (List.mem_cons.mp hmem).resolve_left (by decide)
    obtain ⟨address, behind, rfl, haddress⟩ := List.eq_append_cons_of_mem hclose
    rw [hostOfAuthority_of_open hat hopen, Text.takeWhile_append_cons haddress] at hdirect
    rw [stripPort_of_open hopen, Text.takeWhile_append_cons haddress] at hnamed
    have hblank : ∀ c ∈ address, Text.isBlank c = false := fun c hc =>
      (Http.Uri.isGraphic_of_isAuthority haccepted c (by simp [hopen, hc])).isBlank_eq_false
    exact ⟨address, behind, rfl, haddress, hdirect, hnamed,
      Identity.hostText_in_brackets_ne_iff hdirect hnamed hblank⟩

def absoluteRequest (authority : String) : Http.Request :=
  ⟨"GET", ⟨some "http", some authority, "/p", none⟩, [], ⟨none, none⟩, []⟩

def originRequest (authority : String) : Http.Request :=
  ⟨"GET", ⟨none, none, "/p", none⟩, [("host", authority)], ⟨none, none⟩, []⟩

/-- A port may be empty. -/
theorem host_forms_agree_iff_for_empty_port :
    let authority := "tenant.example.com:"
    let direct := Call.ofRequest (absoluteRequest authority)
    let named := Call.ofRequest (originRequest authority)
    let rules := Identity.Rules.ofSteps [.kind .manual, .source (.hostname (-3))]
    Http.Uri.parse? "http://tenant.example.com:/p" = some (absoluteRequest authority).uri ∧
      HostAndPort authority.toList "tenant.example.com".toList ∧
      direct.host = some "tenant.example.com" ∧ named.host = some "tenant.example.com" ∧
      rules.resolve direct = rules.resolve named ∧ rules.resolve named = ⟨"tenant", .manual⟩ := by
  intro authority direct named rules
  have hparsed : Http.Uri.parse? "http://tenant.example.com:/p" =
      some (absoluteRequest authority).uri := by
    decide +kernel
  have hcut : authority.toList = "tenant.example.com".toList ++ ':' :: [] := by decide
  have hhost : HostAndPort authority.toList "tenant.example.com".toList := by
    rw [hcut]
    exact .port (by decide) (by decide) (List.forall_mem_nil _)
  have hheader : (originRequest authority).headers.first? "host" = some authority := rfl
  obtain ⟨-, hagree, -⟩ := host_forms_agree_iff hparsed rfl (by decide) rfl hheader
  obtain ⟨hdirect, hnamed, hrules⟩ := hagree "tenant.example.com" hhost
  exact ⟨hparsed, hhost, hdirect, hnamed, hrules rules (-3) rfl rfl, by decide +kernel⟩

/-- The loopback address keeps its brackets only in a URI. -/
theorem host_forms_differ_in_brackets :
    let direct := Call.ofRequest (absoluteRequest "[::1]:8080")
    let named := Call.ofRequest (originRequest "[::1]:8080")
    let rules := Identity.Rules.ofSteps [.kind .manual, .source (.hostname 0)]
    Http.Uri.parse? "http://[::1]:8080/p" = some (absoluteRequest "[::1]:8080").uri ∧
      direct.host = some "[::1]" ∧ named.host = some "::1" ∧
      rules.resolve direct = ⟨"[::1]", .manual⟩ ∧ rules.resolve named = ⟨"::1", .manual⟩ := by
  decide +kernel

end AccessControl
