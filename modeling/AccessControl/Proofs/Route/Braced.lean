import AccessControl.Proofs.Policy.DistinctRoutes
import AccessControl.Proofs.Route.Template

/-!
# Templates with their parameters in braces

A template is put into braces segment by segment, and the segments stay in their order. `walk` does
the same on one way through the characters of the template, with no more to go by than its place in
the segment: the two agree on every template. Since a segment in braces does not start with a colon
or a star, nothing is left to be done a second time.

The policy path shows a parameter by its name in whichever spelling. So a template has the same path
before and after, provided that its parameters outside braces have nothing but a name.
-/

namespace AccessControl.Route

open Text (splitList)

/-! ## On the way through a template -/

/-- A place in a segment: at the start, in the name of a parameter that has been opened, or anywhere
else. -/
inductive Place where
  | start
  | name
  | inside
deriving DecidableEq

namespace Place

def emit (place : Place) (c : Char) : List Char :=
  match place with
  | start => if c = ':' then [openBrace] else if c = '*' then [openBrace, '*'] else [c]
  | name => if isNameChar c then [c] else [closeBrace, c]
  | inside => [c]

def next (place : Place) (c : Char) : Place :=
  if c = '/' then start
  else
    match place with
    | start => if c = ':' ∨ c = '*' then name else inside
    | name => if isNameChar c then name else inside
    | inside => inside

def close : Place → List Char
  | name => [closeBrace]
  | _ => []

def finish : Place → List Char → List Char
  | start, rest => bracedSegment rest
  | name, rest => rest.takeWhile isNameChar ++ closeBrace :: rest.dropWhile isNameChar
  | inside, rest => rest

theorem finish_nil (place : Place) : place.finish [] = place.close := by
  cases place <;> rfl

theorem next_slash (place : Place) : place.next '/' = start := rfl

/-- A slash ends the segment, and with it the name of a parameter. -/
theorem emit_slash (place : Place) : place.emit '/' = place.close ++ ['/'] := by
  cases place with
  | start => rfl
  | name => decide +kernel
  | inside => rfl

/-- One step through a segment. -/
theorem finish_cons (place : Place) {c : Char} (hc : c ≠ '/') (rest : List Char) :
    place.finish (c :: rest) = place.emit c ++ (place.next c).finish rest := by
  cases place with
  | start =>
      by_cases hcolon : c = ':'
      · subst hcolon
        rfl
      · by_cases hstar : c = '*'
        · subst hstar
          rfl
        · have hliteral : bracedSegment (c :: rest) = c :: rest :=
            bracedSegment_of_literal (by simpa using hcolon) (by simpa using hstar)
          simp [finish, emit, next, hc, hcolon, hstar, hliteral]
  | name =>
      by_cases hname : isNameChar c
      · simp [finish, emit, next, hc, hname]
      · simp [finish, emit, next, hc, hname]
  | inside => simp [finish, emit, next, hc]

end Place

/-- Braces put in on one way through a template. -/
def walk : Place → List Char → List Char
  | place, [] => place.close
  | place, c :: cs => place.emit c ++ walk (place.next c) cs

/-- From any place on, a walk finishes the segment that it is in, and puts all later ones into
braces. -/
theorem walk_eq (place : Place) (cs : List Char) :
    ∃ piece pieces, splitList '/' cs = piece :: pieces ∧
      walk place cs = ['/'].intercalate (place.finish piece :: pieces.map bracedSegment) := by
  induction cs generalizing place with
  | nil =>
      refine ⟨[], [], rfl, ?_⟩
      rw [walk, List.map_nil, List.intercalate_singleton, Place.finish_nil]
  | cons c cs ih =>
      obtain ⟨piece, pieces, hsplit, hwalk⟩ := ih (place.next c)
      by_cases hc : c = '/'
      · subst hc
        refine ⟨[], piece :: pieces, by rw [Text.splitList_cons_self, hsplit], ?_⟩
        rw [walk, hwalk, Place.emit_slash, Place.next_slash, Place.finish_nil, List.map_cons,
          List.intercalate_cons_cons]
        rfl
      · refine ⟨c :: piece, pieces, by rw [splitList, if_neg hc, hsplit], ?_⟩
        rw [walk, hwalk, Place.finish_cons place hc]
        cases pieces with
        | nil => simp
        | cons later pieces =>
            rw [List.map_cons, List.intercalate_cons_cons, List.intercalate_cons_cons]
            simp only [List.append_assoc]

theorem walk_start (template : List Char) : walk .start template = braced template := by
  obtain ⟨piece, pieces, hsplit, hwalk⟩ := walk_eq .start template
  rw [hwalk, braced, hsplit]
  rfl

/-! ## Segments -/

/-- A segment before and after its parameter is put into braces. The name takes all characters that
it can, and what follows them stays behind the brace. -/
inductive BracedAs : List Char → List Char → Prop
  | literal {segment : List Char} (colon : segment.head? ≠ some ':')
      (star : segment.head? ≠ some '*') : BracedAs segment segment
  | colon {name rest : List Char} (hname : ∀ c ∈ name, isNameChar c = true)
      (hrest : ∀ c ∈ rest.head?, isNameChar c = false) :
      BracedAs (':' :: (name ++ rest)) (openBrace :: (name ++ closeBrace :: rest))
  | star {name rest : List Char} (hname : ∀ c ∈ name, isNameChar c = true)
      (hrest : ∀ c ∈ rest.head?, isNameChar c = false) :
      BracedAs ('*' :: (name ++ rest)) (openBrace :: '*' :: (name ++ closeBrace :: rest))

theorem bracedAs_bracedSegment (segment : List Char) :
    BracedAs segment (bracedSegment segment) := by
  have hcut : ∀ rest : List Char, rest.takeWhile isNameChar ++ rest.dropWhile isNameChar = rest :=
    fun _ => List.takeWhile_append_dropWhile
  have hname : ∀ rest : List Char, ∀ c ∈ rest.takeWhile isNameChar, isNameChar c = true :=
    fun _ => List.all_eq_true.mp List.all_takeWhile
  have hrest : ∀ rest : List Char, ∀ c ∈ (rest.dropWhile isNameChar).head?,
      isNameChar c = false := by
    intro rest c hc
    have hhead := List.head?_dropWhile_not isNameChar rest
    rw [Option.mem_def.mp hc] at hhead
    simpa using hhead
  by_cases hcolon : segment.head? = some ':'
  · obtain ⟨rest, rfl⟩ := List.head?_eq_some_iff.mp hcolon
    have h := BracedAs.colon (hname rest) (hrest rest)
    rwa [hcut] at h
  · by_cases hstar : segment.head? = some '*'
    · obtain ⟨rest, rfl⟩ := List.head?_eq_some_iff.mp hstar
      have h := BracedAs.star (hname rest) (hrest rest)
      rwa [hcut] at h
    · rw [bracedSegment_of_literal hcolon hstar]
      exact .literal hcolon hstar

section

variable {segment after : List Char}

theorem BracedAs.slash_notMem (h : BracedAs segment after) (hslash : '/' ∉ segment) :
    '/' ∉ after := by
  have hopen : '/' ≠ openBrace := by decide
  have hclose : '/' ≠ closeBrace := by decide
  cases h <;> simp_all

theorem BracedAs.eq_nil_iff (h : BracedAs segment after) : after = [] ↔ segment = [] := by
  cases h <;> simp

/-- Nothing is left to be put into braces. -/
theorem BracedAs.bracedSegment_eq (h : BracedAs segment after) : bracedSegment after = after := by
  cases h with
  | literal colon star => exact bracedSegment_of_literal colon star
  | colon => exact bracedSegment_openBrace _
  | star => exact bracedSegment_openBrace _

end

/-- A template in braces has the segments of the template, each in braces, in their order. -/
theorem splitList_braced (template : List Char) :
    splitList '/' (braced template) = (splitList '/' template).map bracedSegment := by
  have hne := Text.splitList_ne_nil '/' template
  rw [braced, Text.splitList_eq_splitOn]
  refine List.splitOn_intercalate '/' ?_ (by simpa using hne)
  rw [List.forall_mem_map]
  intro segment hsegment
  exact (bracedAs_bracedSegment segment).slash_notMem (Text.notMem_of_mem_splitList hsegment)

theorem forall₂_bracedAs (template : List Char) :
    List.Forall₂ BracedAs (splitList '/' template) (splitList '/' (braced template)) := by
  rw [splitList_braced, List.forall₂_map_right_iff, List.forall₂_same]
  exact fun segment _ => bracedAs_bracedSegment segment

theorem braced_braced (template : List Char) : braced (braced template) = braced template := by
  have hsegments : ((splitList '/' template).map bracedSegment).map bracedSegment =
      (splitList '/' template).map bracedSegment := by
    rw [List.map_map]
    exact List.map_congr_left fun segment _ => (bracedAs_bracedSegment segment).bracedSegment_eq
  rw [braced, splitList_braced, hsegments, ← braced]

/-! ## Policy paths -/

/-- A segment that has nothing but a name behind a colon or star. -/
def HasPlainName (segment : List Char) : Prop :=
  segment.head? = some ':' ∨ segment.head? = some '*' → ∀ c ∈ segment.tail, isNameChar c = true

instance (segment : List Char) : Decidable (HasPlainName segment) :=
  decidable_of_iff (segment.head? = some ':' ∨ segment.head? = some '*' →
    segment.tail.all isNameChar = true) (imp_congr_right fun _ => List.all_eq_true)

/-- The name of a parameter is the same in both spellings. -/
theorem HasPlainName.sameSegment {segment : List Char} (h : HasPlainName segment) :
    Policy.SameSegment segment (bracedSegment segment) := by
  have hhead : ∀ name : List Char, (∀ c ∈ name, isNameChar c = true) → name.head? ≠ some '*' := by
    intro name hname hstar
    exact (isPlainChar_of_isNameChar (hname '*' (List.mem_of_mem_head? hstar))).2.2.1 rfl
  by_cases hcolon : segment.head? = some ':'
  · obtain ⟨name, rfl⟩ := List.head?_eq_some_iff.mp hcolon
    have hname := h (.inl rfl)
    have hbraced : bracedSegment (':' :: name) = openBrace :: (name ++ [closeBrace]) :=
      bracedParam_of_nameChars [] hname
    rw [hbraced]
    exact .parameter (.colon name) (.param (hhead name hname))
  · by_cases hstar : segment.head? = some '*'
    · obtain ⟨name, rfl⟩ := List.head?_eq_some_iff.mp hstar
      have hname := h (.inr rfl)
      have hbraced : bracedSegment ('*' :: name) = openBrace :: '*' :: (name ++ [closeBrace]) :=
        bracedParam_of_nameChars ['*'] hname
      rw [hbraced]
      exact .parameter (.star name) (.tail 0 (hhead name hname))
    · rw [bracedSegment_of_literal hcolon hstar]
      exact .refl segment

theorem templateSegments_braced (template : String) :
    Policy.templateSegments (String.ofList (braced template.toList)) =
      (Policy.templateSegments template).map bracedSegment := by
  rw [Policy.templateSegments, String.toList_ofList, splitList_braced, List.filter_map,
    Policy.templateSegments]
  congr 2
  funext segment
  have hnil := (bracedAs_bracedSegment segment).eq_nil_iff
  rw [← List.isEmpty_iff, ← List.isEmpty_iff, ← Bool.eq_iff_iff] at hnil
  rw [Function.comp_apply, hnil]

/-- A template can be put into braces on one way through its characters. Its segments stay in their
places. A segment changes only if it starts with a colon or a star, and then only in its spelling:
the longest name behind the mark is put into braces. What is in braces is not changed again. If all
parameters outside braces have nothing but a name, the policy path stays the same. -/
theorem braced_keeps_segments_and_path (template : String) :
    walk .start template.toList = braced template.toList ∧
    List.Forall₂ BracedAs (splitList '/' template.toList)
      (splitList '/' (braced template.toList)) ∧
    (∀ i : Nat, ∀ segment, (splitList '/' template.toList)[i]? = some segment →
      segment.head? ≠ some ':' → segment.head? ≠ some '*' →
        (splitList '/' (braced template.toList))[i]? = some segment) ∧
    braced (braced template.toList) = braced template.toList ∧
    ((∀ segment ∈ splitList '/' template.toList, HasPlainName segment) →
      ∀ root method, Policy.urlPath root method (String.ofList (braced template.toList)) =
        Policy.urlPath root method template) := by
  refine ⟨walk_start _, forall₂_bracedAs _, ?_, braced_braced _, ?_⟩
  · intro i segment hsegment hcolon hstar
    rw [splitList_braced, List.getElem?_map, hsegment, Option.map_some,
      bracedSegment_of_literal hcolon hstar]
  · intro hplain root method
    refine Policy.urlPath_eq_of_sameSegment ?_ root method
    rw [templateSegments_braced, List.forall₂_map_right_iff, List.forall₂_same]
    intro segment hsegment
    exact (hplain segment (List.mem_filter.mp hsegment).1).sameSegment

/-- A parameter without a name, one that abuts a slash and one that ends the template, beside
literal text with marks and braces. -/
theorem braced_keeps_segments_and_path_for_marks :
    let template := "/:/x:y/\x7bz\x7d/:id_1/*rest"
    let rewritten := "/\x7b\x7d/x:y/\x7bz\x7d/\x7bid_1\x7d/\x7b*rest\x7d"
    (∀ segment ∈ splitList '/' template.toList, HasPlainName segment) ∧
      String.ofList (braced template.toList) = rewritten ∧
      Policy.urlPath "app" "GET" rewritten = Policy.urlPath "app" "GET" template ∧
      Policy.urlPath "app" "GET" template = "app.GET.__.x:y.__z.__id_1.__rest" := by
  intro template rewritten
  have hplain : ∀ segment ∈ splitList '/' template.toList, HasPlainName segment := by
    decide +kernel
  have hbraced : String.ofList (braced template.toList) = rewritten := by
    decide +kernel
  obtain ⟨-, -, -, -, hpath⟩ := braced_keeps_segments_and_path template
  have hsame := hpath hplain "app" "GET"
  rw [hbraced] at hsame
  exact ⟨hplain, hbraced, hsame, by decide +kernel⟩

end AccessControl.Route
