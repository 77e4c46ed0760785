import AccessControl.Identity.Rules

/-!
# What identity rules look at

Rules without a mapper look at a call through their source alone: at the headers or the context
values that it names, or at the host. Calls that agree there get the same identity.
-/

namespace AccessControl

theorem Call.contextValue?_congr {call other : Call} (h : call.context = other.context)
    (key : String) : call.contextValue? key = other.contextValue? key := by
  rw [contextValue?, contextValue?, h]

theorem Call.contextText?_congr {call other : Call} (h : call.context = other.context)
    (key : String) : call.contextText? key = other.contextText? key := by
  rw [contextText?, contextText?, contextValue?_congr h]

namespace Identity

def Source.headerNames : Source → List String
  | .headers names => names
  | .metadata key => [key]
  | _ => []

def Source.contextKeys : Source → List String
  | .context key => [key]
  | _ => []

def Rules.headerNames (rules : Rules) : List String := rules.source.elim [] Source.headerNames

def Rules.contextKeys (rules : Rules) : List String := rules.source.elim [] Source.contextKeys

theorem firstHeader?_congr {call other : Call} {names : List String}
    (h : ∀ name ∈ names, call.header? name = other.header? name) :
    firstHeader? call names = firstHeader? other names := by
  induction names with
  | nil => rfl
  | cons name names ih =>
      obtain ⟨hname, hnames⟩ := List.forall_mem_cons.mp h
      have hrest := ih hnames
      unfold firstHeader? at hrest ⊢
      rw [List.findSome?_cons, List.findSome?_cons, hname, hrest]

theorem Source.read_congr {source : Source} {call other : Call}
    (hhost : ∀ index, source = .hostname index → call.host = other.host)
    (hheaders : ∀ name ∈ source.headerNames, call.header? name = other.header? name)
    (hcontext : ∀ key ∈ source.contextKeys, call.contextValue? key = other.contextValue? key) :
    source.read call = source.read other := by
  cases source with
  | headers names =>
      have hfirst : firstHeader? call names = firstHeader? other names :=
        firstHeader?_congr hheaders
      rw [read, read, hfirst]
  | metadata key => rw [read, read, hheaders key List.mem_cons_self]
  | context key =>
      rw [read, read, Call.contextText?, Call.contextText?, hcontext key List.mem_cons_self]
  | hostname index => rw [read, read, hhost index rfl]

/-- Rules without a mapper give the same identity to calls that agree in the host and in all that
the rules name. -/
theorem Rules.resolve_congr {rules : Rules} (hmapper : rules.mapper = none) {call other : Call}
    (hhost : call.host = other.host)
    (hheaders : ∀ name ∈ rules.headerNames, call.header? name = other.header? name)
    (hcontext : ∀ key ∈ rules.contextKeys, call.contextValue? key = other.contextValue? key) :
    rules.resolve call = rules.resolve other := by
  have hvalue : rules.value call = rules.value other := by
    unfold headerNames at hheaders
    unfold contextKeys at hcontext
    cases hsource : rules.source with
    | none => simp only [value, hsource]
    | some source =>
        rw [hsource] at hheaders hcontext
        simp only [value, hsource]
        exact Source.read_congr (fun _ _ => hhost) hheaders hcontext
  rw [resolve, resolve, hmapper]
  simp only [hvalue]

end Identity

end AccessControl
