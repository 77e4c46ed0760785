import AccessControl.Proofs.Policy.Path
import AccessControl.Server.Guard

/-!
# Policy paths of unmatched requests

A request that matched no route has no parameters, so its policy path is meant to hold the
segments of its path as they were sent. `rawPath` is that path. The path that a call gets is made
by the renderer of route templates, which cannot tell a sent segment from a template segment: the
two paths agree exactly if no sent segment is spelled like a parameter. Where they agree, a request
is decided under the path of a parameterized route only if it sent the name of the parameter.
-/

namespace AccessControl.Policy

def rawPath (root method path : String) : String :=
  let root := Text.trimChar '.' root
  let segments := (Text.splitOn '/' path).filter fun segment => !segment.isEmpty
  ".".intercalate ((if root.isEmpty then [] else [root]) ++ Text.asciiUppercase method :: segments)

/-- No segment of a requested path is spelled like a parameter. -/
def PlainSegments (path : String) : Prop :=
  ∀ segment ∈ templateSegments path, ¬ SpellsParameter segment

instance (path : String) : Decidable (PlainSegments path) :=
  inferInstanceAs (Decidable (∀ segment ∈ templateSegments path, ¬ SpellsParameter segment))

theorem toList_rawPath (root method path : String) :
    (rawPath root method path).toList =
      ['.'].intercalate (pathParts root method (templateSegments path)) := by
  rw [← toList_intercalate_underRoot, underRoot_eq_append]
  have hroot : underRoot root [] = if (Text.trimChar '.' root).isEmpty then [] else
      [Text.trimChar '.' root] := rfl
  have hsegments : (Text.splitOn '/' path).filter (fun segment => !segment.isEmpty) =
      (templateSegments path).map String.ofList := by
    rw [Text.splitOn, templateSegments, List.filter_map]
    congr 2
    funext segment
    cases segment <;> simp
  rw [hroot, ← hsegments]
  rfl

/-- The renderer keeps a requested path exactly if it finds no parameter in it. -/
theorem urlPath_eq_rawPath_iff (root method path : String) :
    urlPath root method path = rawPath root method path ↔ PlainSegments path := by
  have hsegments : ∀ segment ∈ templateSegments path, renderSegment segment = segment ∨
      renderSegment segment ≠ [] ∧ segment ≠ [] ∧
        (renderSegment segment).head? ≠ segment.head? := by
    intro segment _
    by_cases hspells : SpellsParameter segment
    · obtain ⟨⟨name, hname⟩, hne, hheads⟩ := renderSegment_of_spellsParameter hspells
      exact .inr ⟨by simp [hname], hne, hheads⟩
    · exact .inl (renderSegment_of_literal hspells)
  rw [← String.toList_inj, toList_urlPath, toList_rawPath, pathParts, pathParts,
    List.append_cons, List.append_cons _ _ (templateSegments path),
    Text.intercalate_append_eq_iff _ _ List.map_eq_nil_iff,
    Text.intercalate_map_eq_iff '.' hsegments]
  simp only [renderSegment_eq_self_iff, PlainSegments]

def pieces (parts : List (List Char)) : List (List Char) :=
  parts.flatMap fun part => part.splitOn '.'

theorem mem_pieces_self {part : List Char} {parts : List (List Char)} (hmem : part ∈ parts)
    (hdot : '.' ∉ part) : part ∈ pieces parts := by
  refine List.mem_flatMap.mpr ⟨part, hmem, ?_⟩
  rw [List.splitOn_eq_singleton hdot]
  exact List.mem_singleton_self part

theorem splitOn_urlPath (root method template : String) :
    (urlPath root method template).toList.splitOn '.' =
      pieces ((underRoot root []).map String.toList) ++
        ((Text.asciiUppercase method).toList.splitOn '.' ++
          pieces ((templateSegments template).map renderSegment)) := by
  rw [toList_urlPath, Text.splitOn_intercalate_eq_flatMap '.' (by simp [pathParts]), pathParts,
    List.flatMap_append, List.flatMap_cons]
  rfl

/-- A route under whose path a plain request is decided shows no piece that was not sent. -/
theorem pieces_route_suffix {root sent path method template : String} (hplain : PlainSegments path)
    (hsent : '.' ∉ sent.toList) (hpath : urlPath root method template = urlPath root sent path) :
    pieces ((templateSegments template).map renderSegment) <:+ pieces (templateSegments path) := by
  have hpieces := congrArg (fun path : String => path.toList.splitOn '.') hpath
  simp only [splitOn_urlPath, List.append_cancel_left_eq] at hpieces
  have hliteral : (templateSegments path).map renderSegment = templateSegments path := by
    rw [List.map_congr_left fun segment h => renderSegment_of_literal (hplain segment h),
      List.map_id']
  rw [hliteral, List.splitOn_eq_singleton (dot_notMem_asciiUppercase hsent)] at hpieces
  -- The method is a piece of its own, so the pieces of the route come from the sent path.
  cases hmethod : (Text.asciiUppercase method).toList.splitOn '.' with
  | nil => exact absurd hmethod (List.splitOn_ne_nil _ _)
  | cons piece others =>
      rw [hmethod, List.cons_append, List.singleton_append, List.cons.injEq] at hpieces
      exact ⟨others, hpieces.2⟩

/-- The policy path of an unmatched request is the path as it was sent exactly if no segment is
spelled like a parameter. Then it names the parameters of a route only if the request does. -/
theorem unmatched_path_literal_iff (root : String) (call : Call) (hkind : call.kind = .http)
    (hroute : call.route = none) :
    defaultPath "" root call = (PathSource.url root).resolve call ∧
      ((PathSource.url root).resolve call = rawPath root call.method call.path ↔
        PlainSegments call.path) ∧
      (PlainSegments call.path → '.' ∉ call.method.toList →
        ∀ (method template : String) (name : List Char), '.' ∉ name →
          urlPath root method template = (PathSource.url root).resolve call →
          '_' :: '_' :: name ∈ (templateSegments template).map renderSegment →
          ∃ own ∈ templateSegments call.path,
            '_' :: '_' :: name ∈ own.splitOn '.' ∧ ('.' ∉ own → own = '_' :: '_' :: name)) := by
  have hresolve : (PathSource.url root).resolve call = urlPath root call.method call.path := by
    rw [PathSource.resolve, Call.routePath_of_no_route call hroute]
  refine ⟨?_, ?_, ?_⟩
  · have hempty : "".isEmpty = true := rfl
    rw [defaultPath, if_pos hempty, hkind]
    rfl
  · rw [hresolve]
    exact urlPath_eq_rawPath_iff root call.method call.path
  · intro hplain hdot method template name hname hpath hsegment
    rw [hresolve] at hpath
    have hrendered : '_' :: '_' :: name ∈ pieces ((templateSegments template).map renderSegment) :=
      mem_pieces_self hsegment (by simp [hname])
    have hsent := (pieces_route_suffix hplain hdot hpath).mem hrendered
    obtain ⟨own, hown, howns⟩ := List.mem_flatMap.mp hsent
    refine ⟨own, hown, howns, fun hnodot => ?_⟩
    rw [List.splitOn_eq_singleton hnodot, List.mem_singleton] at howns
    exact howns.symm

/-- A request that sends the rendered name of a parameter is decided under its own path. -/
theorem unmatched_path_literal_of_rendered_name :
    ∃ uri call, Http.Uri.parse? "/products/__id" = some uri ∧
      call = Server.plainCall none ⟨"GET", uri, [], ⟨none, none⟩, []⟩ ∧
      (PathSource.url "app").resolve call = rawPath "app" "GET" "/products/__id" ∧
      defaultPath "" "app" call = rawPath "app" "GET" "/products/__id" ∧
      ∃ own ∈ templateSegments "/products/__id", "__id".toList ∈ own.splitOn '.' := by
  have huri : Http.Uri.parse? "/products/__id" = some ⟨none, none, "/products/__id", none⟩ := by
    decide +kernel
  have hplain : PlainSegments "/products/__id" := by
    decide +kernel
  let call := Server.plainCall none ⟨"GET", ⟨none, none, "/products/__id", none⟩, [],
    ⟨none, none⟩, []⟩
  obtain ⟨hdefault, hliteral, hown⟩ := unmatched_path_literal_iff "app" call rfl rfl
  have hresolve := hliteral.mpr hplain
  refine ⟨_, call, huri, rfl, hresolve, hdefault.trans hresolve, ?_⟩
  obtain ⟨own, hmem, hpiece, -⟩ := hown hplain (by decide +kernel) "GET" "/products/\x7bid\x7d"
    "id".toList (by decide +kernel) (by decide +kernel) (by decide +kernel)
  exact ⟨own, hmem, hpiece⟩

/-- Unmatched requests can name a parameter in the spelling of a template. The decision is then
that of the parameterized route, though no segment of the path is the rendered name. -/
theorem unmatched_colon_path_rendered :
    ∃ uri call, Http.Uri.parse? "/products/:id" = some uri ∧
      call = Server.plainCall none ⟨"GET", uri, [], ⟨none, none⟩, []⟩ ∧
      call.kind = .http ∧ call.route = none ∧
      (PathSource.url "app").resolve call = "app.GET.products.__id" ∧
      defaultPath "" "app" call = "app.GET.products.__id" ∧
      rawPath "app" call.method call.path = "app.GET.products.:id" ∧
      urlPath "app" "GET" "/products/\x7bid\x7d" = "app.GET.products.__id" ∧
      "__id".toList ∉ templateSegments call.path := by
  have huri : Http.Uri.parse? "/products/:id" = some ⟨none, none, "/products/:id", none⟩ := by
    decide +kernel
  refine ⟨_, _, huri, rfl, rfl, rfl, ?_⟩
  decide +kernel

end AccessControl.Policy
