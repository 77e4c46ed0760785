import AccessControl.Proofs.Identity.Resolve

/-!
# What the host does to an identity

Rules read the host of a call only if a segment of it is their source and their kind is not the
anonymous one. The identity then has the trimmed segment as its text. So two calls that differ in
their hosts alone get the same identity exactly if the rules do not read the host or find the same
segment in both.
-/

namespace AccessControl

/-- Two calls that differ in nothing that rules look at, except that the hosts may differ. -/
structure Call.SameButHost (call other : Call) : Prop where
  kind : call.kind = other.kind
  method : call.method = other.method
  path : call.path = other.path
  header : ∀ name, call.header? name = other.header? name
  context : call.context = other.context
  route : call.route = other.route
  message : call.message = other.message

namespace Identity

/-- The segment of the host of a call at an index, trimmed; empty if there is none. -/
def hostText (call : Call) (index : Int) : String :=
  Text.trim ((Source.hostname index).read call).1

/-- If the rules read the host, they find the same in both calls. -/
def Rules.SameHost (rules : Rules) (call other : Call) : Prop :=
  ∀ index, rules.source = some (.hostname index) → rules.kind ≠ some .anonymous →
    hostText call index = hostText other index

variable {rules : Rules} {call other : Call}

theorem ofText_congr {raw raw' : String} (h : Text.trim raw = Text.trim raw') (kind : Option Kind) :
    ofText kind false raw = ofText kind false raw' := by
  have hremainder : remainder false raw = remainder false raw' := h
  rw [ofText, ofText, hremainder]

theorem Rules.sameHost_of_host_eq (h : call.host = other.host) : rules.SameHost call other := by
  intro index _ _
  rw [hostText, hostText, Source.read, Source.read, h]

/-- The text of an identity shows what was found in the host. -/
theorem Rules.sameHost_of_value_resolve_eq (hmapper : rules.mapper = none)
    (h : (rules.resolve call).value = (rules.resolve other).value) :
    rules.SameHost call other := by
  intro index hsource hkind
  rw [resolve_of_text hmapper hkind, resolve_of_text hmapper hkind, value, value, hsource] at h
  exact (value_ofText hkind _).symm.trans (h.trans (value_ofText hkind _))

/-- Rules that read a segment of the host tell apart only calls in which it differs. -/
theorem Rules.resolve_eq_iff_of_hostname (hmapper : rules.mapper = none) {index : Int}
    (hsource : rules.source = some (.hostname index)) :
    rules.resolve call = rules.resolve other ↔
      rules.kind = some .anonymous ∨ hostText call index = hostText other index := by
  by_cases hkind : rules.kind = some .anonymous
  · simp only [resolve_of_anonymous hmapper hkind, hkind, true_or]
  · rw [or_iff_right hkind]
    constructor
    · intro h
      exact sameHost_of_value_resolve_eq hmapper (congrArg Identity.value h) index hsource hkind
    · intro h
      rw [resolve_of_text hmapper hkind, resolve_of_text hmapper hkind, value, value, hsource]
      exact ofText_congr h rules.kind

theorem Rules.resolve_eq_of_sameHost (hmapper : rules.mapper = none) (h : call.SameButHost other)
    (hhost : rules.SameHost call other) : rules.resolve call = rules.resolve other := by
  by_cases hkind : rules.kind = some .anonymous
  · rw [resolve_of_anonymous hmapper hkind, resolve_of_anonymous hmapper hkind]
  · rw [resolve_of_text hmapper hkind, resolve_of_text hmapper hkind, value, value]
    cases hsource : rules.source with
    | none => rfl
    | some source =>
        by_cases hhostname : ∃ index, source = .hostname index
        · obtain ⟨index, rfl⟩ := hhostname
          exact ofText_congr (hhost index hsource hkind) rules.kind
        · have hread : source.read call = source.read other :=
            Source.read_congr (fun index hindex => absurd ⟨index, hindex⟩ hhostname)
              (fun name _ => h.header name) fun key _ => Call.contextValue?_congr h.context key
          simp only [hread]

end Identity

end AccessControl
