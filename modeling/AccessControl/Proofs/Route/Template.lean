import AccessControl.Proofs.Route.Matching
import Mathlib.Data.List.TakeWhile

/-!
# The parameters of a template

The tokens of a template carry the names of its parameters, and cutting them into segments loses
none. A slash of the template either stands between two segments, which then are read each on its
own, or it is the first character of a parameter's name, and then the text before it cannot be read
on its own.
-/

namespace AccessControl.Route

def Token.name? : Token → Option (List Char)
  | char _ => none
  | param name => some name
  | tail name => some name

def tokenNames (tokens : List Token) : List (List Char) := tokens.filterMap Token.name?

theorem tokenNames_append (tokens others : List Token) :
    tokenNames (tokens ++ others) = tokenNames tokens ++ tokenNames others :=
  List.filterMap_append

theorem tokenNames_of_chars {tokens : List Token} (h : ∀ token ∈ tokens, token.char?.isSome) :
    tokenNames tokens = [] := by
  rw [tokenNames, List.filterMap_eq_nil_iff]
  intro token htoken
  have hchar := h token htoken
  cases token with
  | char c => rfl
  | param name => cases hchar
  | tail name => cases hchar

/-- A segment without a fault has the names of its tokens, and only the last one may be a tail. -/
theorem Segment.names_ofTokens {isLast : Bool} {tokens : List Token} {segment : Segment}
    (h : ofTokens isLast tokens = (segment, none)) :
    segmentNames [segment] = (tokenNames tokens).map String.ofList ∧
      ∀ before name, segment = .tail before name → isLast = true := by
  have hcut := List.takeWhile_append_dropWhile (p := fun t : Token => t.char?.isSome) (l := tokens)
  have hbefore : tokenNames (tokens.takeWhile fun t => t.char?.isSome) = [] :=
    tokenNames_of_chars (List.all_eq_true.mp List.all_takeWhile)
  have hnames : tokenNames tokens = tokenNames (tokens.dropWhile fun t => t.char?.isSome) := by
    have hall := congrArg tokenNames hcut
    rw [tokenNames_append, hbefore, List.nil_append] at hall
    exact hall.symm
  have hhead := List.head?_dropWhile_not (fun t : Token => t.char?.isSome) tokens
  unfold ofTokens at h
  rw [hnames]
  generalize tokens.dropWhile (fun t => t.char?.isSome) = after at h hhead
  match after, h with
  | [], h =>
      cases h
      exact ⟨rfl, nofun⟩
  | .tail name :: rest, h =>
      simp only [Prod.mk.injEq] at h
      obtain ⟨rfl, hfault⟩ := h
      split at hfault
      · rename_i hlast
        rw [Bool.and_eq_true, List.isEmpty_iff] at hlast
        rw [hlast.1]
        exact ⟨rfl, fun _ _ _ => hlast.2⟩
      · cases hfault
  | .param name :: rest, h =>
      simp only [Prod.mk.injEq] at h
      obtain ⟨rfl, hfault⟩ := h
      split at hfault
      · rename_i hchars
        have hrest : tokenNames rest = [] := tokenNames_of_chars (List.all_eq_true.mp hchars)
        refine ⟨?_, nofun⟩
        change [String.ofList name] = (name :: tokenNames rest).map String.ofList
        rw [hrest]
        rfl
      · cases hfault
  | .char c :: rest, h => simp [Token.char?] at hhead

theorem Segment.names_ofPieces {pieces : List (List Token)} {segments : List Segment}
    (h : ofPieces pieces = (segments, none)) :
    segmentNames segments = (pieces.flatMap tokenNames).map String.ofList ∧
      TailsLast segments := by
  induction pieces generalizing segments with
  | nil =>
      cases h
      exact ⟨rfl, trivial⟩
  | cons piece pieces ih =>
      unfold ofPieces at h
      split at h
      · cases h
      · rename_i segment hsegment
        obtain ⟨hnames, hlast⟩ := names_ofTokens hsegment
        rcases hrest : ofPieces pieces with ⟨rest, fault⟩
        rw [hrest, Prod.mk.injEq] at h
        obtain ⟨rfl, rfl⟩ := h
        obtain ⟨hrestNames, htails⟩ := ih hrest
        refine ⟨?_, ?_⟩
        · have hcons : segmentNames (segment :: rest) = segmentNames [segment] ++
              segmentNames rest := List.filterMap_append (l := [segment])
          rw [hcons, hnames, hrestNames, List.flatMap_cons, List.map_append]
        · cases segment with
          | literal text => exact htails
          | param before name after => exact htails
          | tail before name =>
              have hempty := List.isEmpty_iff.mp (hlast before name rfl)
              subst hempty
              cases hrest
              rfl

/-- Cutting at the slashes loses no name. -/
theorem flatMap_tokenNames_splitTokens (tokens : List Token) :
    (splitTokens tokens).flatMap tokenNames = tokenNames tokens := by
  fun_induction splitTokens tokens with
  | case1 => rfl
  | case2 rest ih => exact ih
  | case3 token rest hslash hpieces ih => exact absurd hpieces (splitTokens_ne_nil rest)
  | case4 token rest hslash piece pieces hpieces ih =>
      rw [hpieces, List.flatMap_cons] at ih
      have hcons := tokenNames_append [token]
      rw [List.flatMap_cons, ← List.singleton_append, hcons, List.append_assoc, ih]
      exact (hcons rest).symm

/-- A template that is read without a fault has the names of its tokens. -/
theorem exists_tokens_of_readSegments {text : List Char} {segments : List Segment}
    (h : readSegments text = (segments, none)) :
    ∃ tokens, Token.read? none (unescape text) = some tokens ∧
      segmentNames segments = (tokenNames tokens).map String.ofList ∧ TailsLast segments := by
  unfold readSegments at h
  split at h
  · cases h
  · rename_i tokens htokens
    obtain ⟨hnames, htails⟩ := Segment.names_ofPieces h
    rw [flatMap_tokenNames_splitTokens] at hnames
    exact ⟨tokens, htokens, hnames, htails⟩

theorem unescape_cons_of_ne {c : Char} (hopen : c ≠ openBrace) (hclose : c ≠ closeBrace)
    (cs : List Char) : unescape (c :: cs) = (c, false) :: unescape cs := by
  cases cs with
  | nil => rfl
  | cons d cs => rw [unescape, if_neg (by simp [hopen, hclose])]

theorem unescape_slash_cons (cs : List Char) :
    unescape ('/' :: cs) = ('/', false) :: unescape cs :=
  unescape_cons_of_ne (by decide) (by decide) cs

theorem unescape_append_slash (cs rest : List Char) :
    unescape (cs ++ '/' :: rest) = unescape cs ++ ('/', false) :: unescape rest := by
  fun_induction unescape cs with
  | case1 => exact unescape_slash_cons rest
  | case2 c =>
      have hpair : ¬ ((decide (c = '/') && (decide (c = openBrace) || decide (c = closeBrace))) =
          true) := by
        rw [Bool.and_eq_true, decide_eq_true_eq]
        rintro ⟨rfl, hbrace⟩
        revert hbrace
        decide
      rw [List.singleton_append, unescape, if_neg hpair, unescape_slash_cons]
      rfl
  | case3 c d cs hpair ih =>
      rw [List.cons_append, List.cons_append, unescape, if_pos hpair, ih]
      rfl
  | case4 c d cs hpair ih =>
      rw [List.cons_append, List.cons_append, unescape, if_neg hpair, ← List.cons_append, ih]
      rfl

/-- A name keeps the slash that it starts with. -/
theorem slash_mem_name {name : List Char} (hname : '/' ∈ name) {text : List (Char × Bool)}
    {tokens : List Token} (h : Token.read? (some name) text = some tokens) :
    ∃ name ∈ tokenNames tokens, '/' ∈ name := by
  induction text generalizing name with
  | nil => cases h
  | cons c text ih =>
      rcases c with ⟨c, escaped⟩
      cases name with
      | nil => exact absurd hname List.not_mem_nil
      | cons last name =>
          rw [Token.read?] at h
          split at h
          · obtain ⟨token, htoken, h⟩ := Option.bind_eq_some_iff.mp h
            obtain ⟨rest, -, rfl⟩ := Option.map_eq_some_iff.mp h
            have hread : '/' ∈ (last :: name).reverse := List.mem_reverse.mpr hname
            generalize (last :: name).reverse = read at hread htoken
            -- The star of a tail is not the slash.
            have hnamed : ∃ inner, token.name? = some inner ∧ '/' ∈ inner := by
              unfold Token.ofName at htoken
              split at htoken
              · cases htoken
              · cases htoken
                exact ⟨_, rfl, List.mem_of_ne_of_mem (by decide) hread⟩
              · cases htoken
                exact ⟨_, rfl, hread⟩
            obtain ⟨inner, hinner, hslash⟩ := hnamed
            exact ⟨inner, List.mem_filterMap.mpr ⟨token, List.mem_cons_self, hinner⟩, hslash⟩
          · split at h
            · cases h
            · exact ih (List.mem_cons_of_mem c hname) h

/-- What a slash is in a text that has been read: a cut, or part of a name that the text before it
leaves open. -/
def SlashCuts (before : Option (List Token)) (rest : List (Char × Bool)) (tokens : List Token) :
    Prop :=
  (∃ left right, before = some left ∧ Token.read? none rest = some right ∧
    tokens = left ++ .char '/' :: right) ∨
  before = none ∧ ∃ name ∈ tokenNames tokens, '/' ∈ name

theorem SlashCuts.cons {before : Option (List Token)} {rest : List (Char × Bool)}
    {tokens : List Token} (h : SlashCuts before rest tokens) (token : Token) :
    SlashCuts (before.map (token :: ·)) rest (token :: tokens) := by
  rcases h with ⟨left, right, rfl, hright, rfl⟩ | ⟨rfl, name, hname, hslash⟩
  · exact .inl ⟨token :: left, right, rfl, hright, rfl⟩
  · refine .inr ⟨rfl, name, ?_, hslash⟩
    exact tokenNames_append [token] tokens ▸ List.mem_append_right _ hname

theorem slashCuts_of_read? {name : Option (List Char)} {text rest : List (Char × Bool)}
    {tokens : List Token} (h : Token.read? name (text ++ ('/', false) :: rest) = some tokens) :
    SlashCuts (Token.read? name text) rest tokens := by
  fun_induction Token.read? name text generalizing tokens with
  | case1 =>
      obtain ⟨right, hright, rfl⟩ := Option.map_eq_some_iff.mp h
      exact .inl ⟨[], right, rfl, hright, rfl⟩
  | case2 name =>
      refine .inr ⟨rfl, ?_⟩
      cases name with
      | nil => exact slash_mem_name (List.mem_singleton_self _) h
      | cons last name => cases h
  | case3 c escaped text hclose =>
      rw [List.cons_append, Token.read?, if_pos hclose] at h
      cases h
  | case4 c escaped text hclose hopen ih =>
      rw [List.cons_append, Token.read?, if_neg hclose, if_pos hopen] at h
      exact ih h
  | case5 c escaped text hclose hopen ih =>
      rw [List.cons_append, Token.read?, if_neg hclose, if_neg hopen] at h
      obtain ⟨tokens, htokens, rfl⟩ := Option.map_eq_some_iff.mp h
      exact (ih htokens).cons (.char c)
  | case6 escaped text =>
      rw [List.cons_append, Token.read?, if_pos rfl] at h
      cases h
  | case7 c escaped text hclose ih =>
      rw [List.cons_append, Token.read?, if_neg hclose] at h
      exact ih h
  | case8 last name c escaped text hclose ih =>
      rw [List.cons_append, Token.read?, if_pos hclose] at h
      obtain ⟨token, htoken, h⟩ := Option.bind_eq_some_iff.mp h
      obtain ⟨tokens, htokens, rfl⟩ := Option.map_eq_some_iff.mp h
      rw [htoken]
      exact (ih htokens).cons token
  | case9 last name c escaped text hclose hrefused =>
      rw [List.cons_append, Token.read?, if_neg hclose, if_pos hrefused] at h
      cases h
  | case10 last name c escaped text hclose hrefused ih =>
      rw [List.cons_append, Token.read?, if_neg hclose, if_neg hrefused] at h
      exact ih h

/-- The names of the parameters of a template segment that is read on its own, if it can be. -/
def ownNames? (segment : List Char) : Option (List (List Char)) :=
  (Token.read? none (unescape (bracedSegment segment))).map tokenNames

/-- A template that is read has the names of its segments in order, provided that each segment can
be read on its own. If one cannot, some name has a slash. -/
theorem tokenNames_eq_flatMap_ownNames? {segments : List (List Char)} {tokens : List Token}
    (h : Token.read? none (unescape (['/'].intercalate (segments.map bracedSegment))) =
      some tokens) :
    (∀ segment ∈ segments, (ownNames? segment).isSome) ∧
        tokenNames tokens = segments.flatMap (fun segment => (ownNames? segment).getD []) ∨
      (∃ segment ∈ segments, ownNames? segment = none) ∧ ∃ name ∈ tokenNames tokens, '/' ∈ name := by
  induction segments generalizing tokens with
  | nil =>
      cases h
      exact .inl ⟨nofun, rfl⟩
  | cons segment segments ih =>
      cases segments with
      | nil =>
          rw [List.map_cons, List.map_nil, List.intercalate_singleton] at h
          have hown : ownNames? segment = some (tokenNames tokens) := congrArg (·.map tokenNames) h
          simp [hown]
      | cons next segments =>
          rw [List.map_cons, List.map_cons, List.intercalate_cons_cons, List.append_assoc,
            List.singleton_append, ← List.map_cons, unescape_append_slash] at h
          rcases slashCuts_of_read? h with ⟨left, right, hleft, hright, rfl⟩ | ⟨hnone, hslash⟩
          · have hown : ownNames? segment = some (tokenNames left) :=
              congrArg (·.map tokenNames) hleft
            have hnames : tokenNames (left ++ .char '/' :: right) =
                tokenNames left ++ tokenNames right := tokenNames_append left _
            rw [hnames]
            rcases ih hright with ⟨hall, hrest⟩ | ⟨⟨other, hother, hnone⟩, name, hname, hslash⟩
            · refine .inl ⟨List.forall_mem_cons.mpr ⟨by simp [hown], hall⟩, ?_⟩
              rw [List.flatMap_cons, hown, hrest]
              rfl
            · exact .inr ⟨⟨other, List.mem_cons_of_mem _ hother, hnone⟩, name,
                List.mem_append_right _ hname, hslash⟩
          · refine .inr ⟨⟨segment, List.mem_cons_self, ?_⟩, hslash⟩
            rw [ownNames?, hnone]
            rfl

/-- A character without a meaning of its own in a template. -/
def IsPlainChar (c : Char) : Prop := c ≠ openBrace ∧ c ≠ closeBrace ∧ c ≠ '*' ∧ c ≠ '/'

theorem isPlainChar_of_isNameChar {c : Char} (h : isNameChar c = true) : IsPlainChar c := by
  refine ⟨?_, ?_, ?_, ?_⟩
  all_goals
    rintro rfl
    revert h
    decide +kernel

theorem unescape_append_of_plain {name : List Char}
    (hname : ∀ c ∈ name, c ≠ openBrace ∧ c ≠ closeBrace) (rest : List Char) :
    unescape (name ++ rest) = name.map (fun c => (c, false)) ++ unescape rest := by
  induction name with
  | nil => rfl
  | cons c name ih =>
      obtain ⟨⟨hopen, hclose⟩, hname⟩ := List.forall_mem_cons.mp hname
      rw [List.cons_append, unescape_cons_of_ne hopen hclose, ih hname]
      rfl

theorem read?_chars {text : List Char} (htext : ∀ c ∈ text, c ≠ openBrace ∧ c ≠ closeBrace) :
    Token.read? none (text.map fun c => (c, false)) = some (text.map .char) := by
  induction text with
  | nil => rfl
  | cons c text ih =>
      obtain ⟨⟨hopen, hclose⟩, htext⟩ := List.forall_mem_cons.mp htext
      rw [List.map_cons, Token.read?, if_neg (by simp [hclose]), if_neg (by simp [hopen]), ih htext]
      rfl

/-- Reading goes through a plain name up to the closing brace. -/
theorem read?_name {name : List Char} (hname : ∀ c ∈ name, IsPlainChar c) {before : List Char}
    (hbefore : before ≠ []) :
    Token.read? (some before) (name.map (fun c => (c, false)) ++ [(closeBrace, false)]) =
      (Token.ofName (before.reverse ++ name)).map ([·]) := by
  induction name generalizing before with
  | nil =>
      obtain ⟨last, first, rfl⟩ := List.exists_cons_of_ne_nil hbefore
      rw [List.map_nil, List.nil_append, Token.read?, if_pos (by simp), List.append_nil]
      cases Token.ofName (last :: first).reverse <;> rfl
  | cons c name ih =>
      obtain ⟨⟨-, hclose, hstar, hslash⟩, hname⟩ := List.forall_mem_cons.mp hname
      obtain ⟨last, first, rfl⟩ := List.exists_cons_of_ne_nil hbefore
      rw [List.map_cons, List.cons_append, Token.read?, if_neg (by simp [hclose]),
        if_neg (by simp [hstar, hslash]), ih hname (List.cons_ne_nil _ _), List.reverse_cons (a := c),
        List.append_assoc, List.singleton_append]

theorem read?_braces {c : Char} {name : List Char} (hopen : c ≠ openBrace) (hclose : c ≠ closeBrace)
    (hname : ∀ d ∈ name, IsPlainChar d) :
    Token.read? none (unescape (openBrace :: c :: (name ++ [closeBrace]))) =
      (Token.ofName (c :: name)).map ([·]) := by
  have hplain : ∀ d ∈ c :: name, d ≠ openBrace ∧ d ≠ closeBrace :=
    List.forall_mem_cons.mpr ⟨⟨hopen, hclose⟩, fun d hd => ⟨(hname d hd).1, (hname d hd).2.1⟩⟩
  have hpair : ¬ ((decide (openBrace = c) &&
      (decide (openBrace = openBrace) || decide (openBrace = closeBrace))) = true) := by
    simp [hopen.symm]
  have htext : unescape (openBrace :: c :: (name ++ [closeBrace])) = (openBrace, false) ::
      (c, false) :: (name.map (fun d => (d, false)) ++ [(closeBrace, false)]) := by
    rw [unescape, if_neg hpair, ← List.cons_append, unescape_append_of_plain hplain]
    rfl
  rw [htext, Token.read?, if_neg (by decide), if_pos (by decide), Token.read?, if_neg hclose,
    read?_name hname (List.cons_ne_nil _ _)]
  rfl

/-- A segment of literal text without braces, or one parameter with a plain name in one of the four
spellings, with the name of the parameter. -/
inductive PlainSegment : List Char → Option (List Char) → Prop
  | literal {text : List Char} (plain : ∀ c ∈ text, c ≠ openBrace ∧ c ≠ closeBrace)
      (colon : text.head? ≠ some ':') (star : text.head? ≠ some '*') : PlainSegment text none
  | param {name : List Char} (ne : name ≠ []) (plain : ∀ c ∈ name, IsPlainChar c) :
      PlainSegment (openBrace :: (name ++ [closeBrace])) (some name)
  | tail {name : List Char} (ne : name ≠ []) (plain : ∀ c ∈ name, IsPlainChar c) :
      PlainSegment (openBrace :: '*' :: (name ++ [closeBrace])) (some name)
  | colon {name : List Char} (ne : name ≠ []) (plain : ∀ c ∈ name, isNameChar c = true) :
      PlainSegment (':' :: name) (some name)
  | star {name : List Char} (ne : name ≠ []) (plain : ∀ c ∈ name, isNameChar c = true) :
      PlainSegment ('*' :: name) (some name)

theorem bracedSegment_openBrace (rest : List Char) :
    bracedSegment (openBrace :: rest) = openBrace :: rest :=
  bracedSegment_of_literal (by simp [openBrace]) (by simp [openBrace])

theorem ownNames?_congr {segment other : List Char}
    (h : bracedSegment segment = bracedSegment other) : ownNames? segment = ownNames? other := by
  rw [ownNames?, ownNames?, h]

theorem ownNames?_param {name : List Char} (hne : name ≠ []) (hname : ∀ c ∈ name, IsPlainChar c) :
    ownNames? (openBrace :: (name ++ [closeBrace])) = some [name] := by
  obtain ⟨c, rest, rfl⟩ := List.exists_cons_of_ne_nil hne
  obtain ⟨⟨hopen, hclose, hstar, -⟩, hrest⟩ := List.forall_mem_cons.mp hname
  have htoken : Token.ofName (c :: rest) = some (.param (c :: rest)) := by
    unfold Token.ofName
    split <;> simp_all
  rw [ownNames?, bracedSegment_openBrace, List.cons_append, read?_braces hopen hclose hrest, htoken]
  rfl

theorem ownNames?_tail {name : List Char} (hne : name ≠ []) (hname : ∀ c ∈ name, IsPlainChar c) :
    ownNames? (openBrace :: '*' :: (name ++ [closeBrace])) = some [name] := by
  have htoken : Token.ofName ('*' :: name) = some (.tail name) := by
    unfold Token.ofName
    split <;> simp_all
  rw [ownNames?, bracedSegment_openBrace, read?_braces (by decide) (by decide) hname, htoken]
  rfl

theorem bracedParam_of_nameChars (mark : List Char) {name : List Char}
    (hname : ∀ c ∈ name, isNameChar c = true) :
    bracedParam mark name = openBrace :: (mark ++ (name ++ [closeBrace])) := by
  rw [bracedParam, List.takeWhile_eq_self_iff.mpr hname, List.dropWhile_eq_nil_iff.mpr hname]
  simp

/-- A plain segment is read on its own, with the parameter that it spells. -/
theorem PlainSegment.ownNames?_eq {segment : List Char} {name? : Option (List Char)}
    (h : PlainSegment segment name?) : ownNames? segment = some name?.toList := by
  cases h with
  | literal plain colon star =>
      have htext := unescape_append_of_plain plain []
      rw [List.append_nil, unescape, List.append_nil] at htext
      rw [ownNames?, bracedSegment_of_literal colon star, htext, read?_chars plain, Option.map_some,
        tokenNames_of_chars]
      · rfl
      · intro token htoken
        obtain ⟨c, -, rfl⟩ := List.mem_map.mp htoken
        rfl
  | param ne plain => exact ownNames?_param ne plain
  | tail ne plain => exact ownNames?_tail ne plain
  | @colon name ne plain =>
      have hbraced : bracedSegment (':' :: name) =
          bracedSegment (openBrace :: (name ++ [closeBrace])) :=
        (bracedParam_of_nameChars [] plain).trans (bracedSegment_openBrace _).symm
      exact (ownNames?_congr hbraced).trans
        (ownNames?_param ne fun c hc => isPlainChar_of_isNameChar (plain c hc))
  | @star name ne plain =>
      have hbraced : bracedSegment ('*' :: name) =
          bracedSegment (openBrace :: '*' :: (name ++ [closeBrace])) :=
        (bracedParam_of_nameChars ['*'] plain).trans (bracedSegment_openBrace _).symm
      exact (ownNames?_congr hbraced).trans
        (ownNames?_tail ne fun c hc => isPlainChar_of_isNameChar (plain c hc))

end AccessControl.Route
