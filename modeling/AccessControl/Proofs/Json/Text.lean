import AccessControl.Proofs.Json.StringLiteral
import AccessControl.Proofs.Json.Written

/-!
# The text of a value is read

A value is written so that each part of its text shows by its first byte what it is and ends where
the next part starts, so the reader takes the text of a value up to its end, whatever follows it.

What is read is the value again, except that every number in it is what its own text is read as.
-/

namespace AccessControl.Json

open Text (encode encode_append encode_cons_of_ascii)

/-! ## Values -/

mutual

def reread : Json → Document
  | .null => .null
  | .bool b => .bool b
  | .number n => .number n.reread?
  | .string s => .string (some s)
  | .array items => .array (rereadItems items)
  | .object members => .object (rereadMembers members)

def rereadItems : List Json → List Document
  | [] => []
  | item :: rest => reread item :: rereadItems rest

def rereadMembers : List (String × Json) → List (Option String × Document)
  | [] => []
  | (key, value) :: rest => (some key, reread value) :: rereadMembers rest

end

namespace Reader

def StartsValue (b : UInt8) : Prop := b ≠ 32 ∧ b ≠ 10 ∧ b ≠ 9 ∧ b ≠ 13 ∧ b ≠ 93

instance (b : UInt8) : Decidable (StartsValue b) := inferInstanceAs (Decidable (_ ∧ _))

theorem skipBlanks_of_startsValue {b : UInt8} (h : StartsValue b) (rest : List UInt8) :
    skipBlanks (b :: rest) = b :: rest := by
  obtain ⟨hspace, hnewline, htab, hreturn, -⟩ := h
  simp [skipBlanks, hspace, hnewline, htab, hreturn]

theorem encode_quoteChars (s : String) :
    encode (quoteChars s) = 34 :: encode (s.toList.flatMap escapeChar ++ ['"']) := rfl

/-- The text of a number starts with its sign or with a digit. -/
theorem exists_utf8_text (n : Number) :
    ∃ b bytes, Text.utf8 n.text = b :: bytes ∧ (b = 45 ∨ isDigit b = true) := by
  obtain ⟨numeral, hbytes⟩ := exists_numeral_utf8 n
  rw [hbytes, Numeral.chars]
  cases numeral.negative with
  | true => exact ⟨45, _, rfl, .inl rfl⟩
  | false =>
      obtain ⟨hne, hdigits⟩ := numeral.areDigits_whole
      obtain ⟨c, digits, hwhole⟩ := List.exists_cons_of_ne_nil hne
      rw [hwhole] at hdigits ⊢
      obtain ⟨hfirst, -, hdigit⟩ := encode_digit (hdigits c List.mem_cons_self)
        (digits ++ (Numeral.placesChars numeral.places ++
          Numeral.exponentChars numeral.exponent))
      exact ⟨_, _, hfirst, .inr hdigit⟩

theorem startsValue_of_number {b : UInt8} (h : b = 45 ∨ isDigit b = true) : StartsValue b := by
  refine ⟨?_, ?_, ?_, ?_, ?_⟩ <;> rintro rfl <;> exact absurd h (by decide)

theorem exists_encode_compactChars (v : Json) :
    ∃ b bytes, encode (compactChars v) = b :: bytes ∧ StartsValue b := by
  match v with
  | .null => exact ⟨110, _, rfl, by decide⟩
  | .bool true => exact ⟨116, _, rfl, by decide⟩
  | .bool false => exact ⟨102, _, rfl, by decide⟩
  | .number n =>
      obtain ⟨b, bytes, hbytes, hb⟩ := exists_utf8_text n
      exact ⟨b, bytes, hbytes, startsValue_of_number hb⟩
  | .string s => exact ⟨34, _, rfl, by decide⟩
  | .array [] => exact ⟨91, _, rfl, by decide⟩
  | .array (item :: rest) => exact ⟨91, _, rfl, by decide⟩
  | .object [] => exact ⟨123, _, rfl, by decide⟩
  | .object (member :: rest) => exact ⟨123, _, rfl, by decide⟩

theorem takeValue_of_number {b : UInt8} (h : b = 45 ∨ isDigit b = true) (fuel : Nat)
    (rest : List UInt8) : takeValue (fuel + 1) (b :: rest) = takeNumber (b :: rest) := by
  have hne : ∀ c : UInt8, ¬ (c = 45 ∨ isDigit c = true) → b ≠ c := by
    rintro c hc rfl
    exact hc h
  rw [takeValue, skipBlanks_of_startsValue (startsValue_of_number h)]
  simp [hne 110 (by decide), hne 116 (by decide), hne 102 (by decide), hne 34 (by decide),
    hne 91 (by decide), hne 123 (by decide)]

theorem takeValue_array {b : UInt8} (h : StartsValue b) (fuel : Nat) (rest : List UInt8) :
    takeValue (fuel + 1) (91 :: b :: rest) =
      (takeItems fuel (b :: rest)).map fun (items, rest) => (Document.array items, rest) := by
  have hnext := skipBlanks_of_startsValue h rest
  obtain ⟨-, -, -, -, hend⟩ := h
  rw [takeValue, skipBlanks_of_startsValue (by decide)]
  simp only [hnext]
  split
  · rename_i heq
    exact absurd (List.cons.inj heq).1 hend
  · rfl

/-- The text of the value is read up to its end, whatever follows, if there is fuel for each byte
of it. -/
def TakenBack (v : Json) : Prop :=
  ∀ fuel rest, (encode (compactChars v)).length ≤ fuel → EndsNumber rest →
    takeValue fuel (encode (compactChars v) ++ rest) = some (v.reread, rest)

section

variable {fuel : Nat} (rest : List UInt8)

theorem endsNumber_cons {b : UInt8} (h : isDigit b = false ∧ b ≠ 46 ∧ b ≠ 101 ∧ b ≠ 69) :
    EndsNumber (b :: rest) := by
  rintro _ ⟨⟩
  exact h

theorem takeItems_last {item : Json} (h : TakenBack item)
    (hfuel : (encode (compactChars item)).length ≤ fuel) :
    takeItems (fuel + 1) (encode (compactChars item) ++ 93 :: rest) =
      some ([item.reread], rest) := by
  rw [takeItems, h fuel _ hfuel (endsNumber_cons rest (by decide))]
  rfl

theorem takeItems_more {item : Json} (h : TakenBack item)
    (hfuel : (encode (compactChars item)).length ≤ fuel) :
    takeItems (fuel + 1) (encode (compactChars item) ++ 44 :: rest) =
      (takeItems fuel rest).map fun (items, rest) => (item.reread :: items, rest) := by
  rw [takeItems, h fuel _ hfuel (endsNumber_cons rest (by decide))]
  rfl

theorem encode_itemChars_cons (item : Json) (items : List Json) :
    encode (itemChars (item :: items)) =
      44 :: (encode (compactChars item) ++ encode (itemChars items)) := by
  rw [← encode_append]
  rfl

theorem takeItems_encode {item : Json} {items : List Json} (h : ∀ v ∈ item :: items, TakenBack v)
    (hfuel : (encode (compactChars item)).length + (encode (itemChars items)).length ≤ fuel) :
    takeItems fuel (encode (compactChars item) ++ (encode (itemChars items) ++ rest)) =
      some (rereadItems (item :: items), rest) := by
  induction items generalizing item fuel with
  | nil =>
      cases fuel with
      | zero => exact absurd hfuel (Nat.not_succ_le_zero _)
      | succ fuel =>
          exact takeItems_last rest (h item List.mem_cons_self) (Nat.le_of_succ_le_succ hfuel)
  | cons next items ih =>
      obtain ⟨hitem, hitems⟩ := List.forall_mem_cons.mp h
      rw [encode_itemChars_cons, List.length_cons, List.length_append] at hfuel
      cases fuel with
      | zero => exact absurd hfuel (Nat.not_succ_le_zero _)
      | succ fuel =>
          rw [encode_itemChars_cons, List.cons_append, takeItems_more _ hitem (by omega),
            List.append_assoc, ih hitems (by omega)]
          rfl

def memberBytes (key : String) (value : Json) : List UInt8 :=
  encode (quoteChars key) ++ 58 :: encode (compactChars value)

def afterMember (fuel : Nat) (member : Option String × Document) (bytes : List UInt8) :
    Option (List (Option String × Document) × List UInt8) :=
  match skipBlanks bytes with
  | 125 :: rest => some ([member], rest)
  | 44 :: rest => (takeMembers fuel rest).map fun (members, rest) => (member :: members, rest)
  | _ => none

theorem takeMembers_memberBytes {key : String} {value : Json} (h : TakenBack value)
    (hfuel : (encode (compactChars value)).length ≤ fuel) {b : UInt8}
    (hb : isDigit b = false ∧ b ≠ 46 ∧ b ≠ 101 ∧ b ≠ 69) :
    takeMembers (fuel + 1) (memberBytes key value ++ b :: rest) =
      afterMember fuel (some key, value.reread) (b :: rest) := by
  have hbytes : memberBytes key value ++ b :: rest =
      34 :: (encode (key.toList.flatMap escapeChar ++ ['"']) ++
        58 :: (encode (compactChars value) ++ b :: rest)) := by
    rw [memberBytes, encode_quoteChars, List.append_assoc, List.cons_append, List.cons_append]
  have hcolon := skipBlanks_of_startsValue (show StartsValue 58 by decide)
    (encode (compactChars value) ++ b :: rest)
  rw [hbytes, takeMembers, skipBlanks_of_startsValue (by decide)]
  simp only [takePieces_encode, hcolon, h fuel _ hfuel (endsNumber_cons rest hb),
    pieceText?_textPieces]
  rfl

theorem takeMembers_last {key : String} {value : Json} (h : TakenBack value)
    (hfuel : (encode (compactChars value)).length ≤ fuel) :
    takeMembers (fuel + 1) (memberBytes key value ++ 125 :: rest) =
      some ([(some key, value.reread)], rest) :=
  takeMembers_memberBytes rest h hfuel (by decide)

theorem takeMembers_more {key : String} {value : Json} (h : TakenBack value)
    (hfuel : (encode (compactChars value)).length ≤ fuel) :
    takeMembers (fuel + 1) (memberBytes key value ++ 44 :: rest) =
      (takeMembers fuel rest).map fun (members, rest) =>
        ((some key, value.reread) :: members, rest) :=
  takeMembers_memberBytes rest h hfuel (by decide)

theorem encode_member (key : String) (value : Json) (cs : List Char) :
    encode (quoteChars key ++ ':' :: (compactChars value ++ cs)) =
      memberBytes key value ++ encode cs := by
  rw [memberBytes, encode_append, encode_cons_of_ascii (by decide), encode_append,
    List.append_assoc, List.cons_append]
  rfl

theorem encode_memberChars_cons (key : String) (value : Json) (members : List (String × Json)) :
    encode (memberChars ((key, value) :: members)) =
      44 :: (memberBytes key value ++ encode (memberChars members)) := by
  rw [← encode_member]
  rfl

theorem length_compactChars_lt (key : String) (value : Json) :
    (encode (compactChars value)).length < (memberBytes key value).length := by
  rw [memberBytes, List.length_append, List.length_cons]
  omega

theorem takeMembers_encode {key : String} {value : Json} {members : List (String × Json)}
    (h : ∀ m ∈ (key, value) :: members, TakenBack m.2)
    (hfuel : (memberBytes key value).length + (encode (memberChars members)).length ≤ fuel) :
    takeMembers fuel (memberBytes key value ++ (encode (memberChars members) ++ rest)) =
      some (rereadMembers ((key, value) :: members), rest) := by
  have hlength := length_compactChars_lt key value
  induction members generalizing key value fuel with
  | nil =>
      cases fuel with
      | zero => exact absurd hfuel (Nat.not_succ_le_zero _)
      | succ fuel =>
          exact takeMembers_last rest (h _ List.mem_cons_self)
            (Nat.le_trans (Nat.le_of_lt hlength) (Nat.le_of_succ_le_succ hfuel))
  | cons next members ih =>
      obtain ⟨hvalue, hmembers⟩ := List.forall_mem_cons.mp h
      replace hvalue : TakenBack value := hvalue
      rcases next with ⟨nextKey, nextValue⟩
      rw [encode_memberChars_cons, List.length_cons, List.length_append] at hfuel
      cases fuel with
      | zero => exact absurd hfuel (Nat.not_succ_le_zero _)
      | succ fuel =>
          rw [encode_memberChars_cons, List.cons_append, takeMembers_more _ hvalue (by omega),
            List.append_assoc, ih hmembers (by omega) (length_compactChars_lt _ _)]
          rfl

end

theorem takenBack (v : Json) : TakenBack v := by
  induction v with
  | null =>
      intro fuel rest hfuel _
      cases fuel with
      | zero => exact absurd hfuel (by decide)
      | succ fuel => rfl
  | bool b =>
      intro fuel rest hfuel _
      cases fuel with
      | zero => cases b <;> exact absurd hfuel (by decide)
      | succ fuel => cases b <;> rfl
  | number n =>
      intro fuel rest hfuel hrest
      obtain ⟨b, bytes, hbytes, hb⟩ := exists_utf8_text n
      have htake := takeNumber_text n hrest
      change takeValue fuel (Text.utf8 n.text ++ rest) = _
      change (Text.utf8 n.text).length ≤ fuel at hfuel
      rw [hbytes] at hfuel htake ⊢
      cases fuel with
      | zero => exact absurd hfuel (Nat.not_succ_le_zero _)
      | succ fuel => exact (takeValue_of_number hb fuel _).trans htake
  | string s =>
      intro fuel rest hfuel _
      cases fuel with
      | zero => exact absurd hfuel (Nat.not_succ_le_zero _)
      | succ fuel =>
          change (takePieces (encode (s.toList.flatMap escapeChar ++ ['"']) ++ rest)).map _ = _
          simp only [takePieces_encode, Option.map_some, pieceText?_textPieces]
          rfl
  | array items ih =>
      intro fuel rest hfuel _
      cases fuel with
      | zero =>
          obtain ⟨b, bytes, hbytes, -⟩ := exists_encode_compactChars (.array items)
          rw [hbytes] at hfuel
          exact absurd hfuel (Nat.not_succ_le_zero _)
      | succ fuel =>
          cases items with
          | nil => rfl
          | cons item items =>
              obtain ⟨b, bytes, hbytes, hb⟩ := exists_encode_compactChars item
              have htext : encode (compactChars (.array (item :: items))) =
                  91 :: (encode (compactChars item) ++ encode (itemChars items)) := by
                rw [← encode_append]
                rfl
              rw [htext, List.length_cons, List.length_append] at hfuel
              have hitems := takeItems_encode rest ih (Nat.le_of_succ_le_succ hfuel)
              rw [htext, List.cons_append, List.append_assoc]
              rw [hbytes, List.cons_append] at hitems ⊢
              rw [takeValue_array hb, hitems]
              rfl
  | object members ih =>
      intro fuel rest hfuel _
      cases fuel with
      | zero =>
          obtain ⟨b, bytes, hbytes, -⟩ := exists_encode_compactChars (.object members)
          rw [hbytes] at hfuel
          exact absurd hfuel (Nat.not_succ_le_zero _)
      | succ fuel =>
          cases members with
          | nil => rfl
          | cons member members =>
              rcases member with ⟨key, value⟩
              have htext : encode (compactChars (.object ((key, value) :: members))) =
                  123 :: (memberBytes key value ++ encode (memberChars members)) := by
                rw [← encode_member]
                rfl
              rw [htext, List.length_cons, List.length_append] at hfuel
              have hmembers := takeMembers_encode rest ih (Nat.le_of_succ_le_succ hfuel)
              rw [htext, List.cons_append, List.append_assoc]
              change (takeMembers fuel (memberBytes key value ++ _)).map _ = _
              rw [hmembers]
              rfl

end Reader

/-- The text of a value is read, and nothing is left of it. -/
theorem Document.read?_compact (v : Json) :
    Document.read? (Text.utf8 v.compact) = some v.reread := by
  have htake := Reader.takenBack v (2 * (encode (compactChars v)).length + 2) [] (by omega)
    Reader.endsNumber_nil
  rw [List.append_nil] at htake
  rw [compact, Text.utf8_ofList, Document.read?, htake]
  rfl

/-! ## What of a value comes back -/

theorem rereadItems_eq_map (items : List Json) : rereadItems items = items.map reread := by
  induction items with
  | nil => rfl
  | cons item rest ih => rw [rereadItems, ih, List.map_cons]

theorem rereadMembers_eq_map (members : List (String × Json)) :
    rereadMembers members = members.map fun member => (some member.1, member.2.reread) := by
  induction members with
  | nil => rfl
  | cons member rest ih => rw [rereadMembers, ih, List.map_cons]

theorem fields?_reread {members : List (String × Json)} (hnodup : (members.map Prod.fst).Nodup)
    {names : List String} (hnames : members.map Prod.fst ⊆ names) (strict : Bool) :
    (Json.object members).reread.fields? names strict =
      some (names.map fun name => (Entries.get? members name).map reread) := by
  have hkeys : (members.map fun m => (m.1, m.2.reread)).map Prod.fst = members.map Prod.fst :=
    List.map_map
  have hperm : (rereadMembers members).Perm
      ((members.map fun m => (m.1, m.2.reread)).map fun field => (some field.1, field.2)) := by
    rw [rereadMembers_eq_map, List.map_map]
    exact List.Perm.refl _
  rw [reread, Document.fields?_of_perm hperm (hkeys ▸ hnodup) ?_ strict]
  · exact congrArg some (List.map_congr_left fun name _ => Entries.get?_map reread members name)
  · intro field hfield
    exact hnames (hkeys ▸ List.mem_map_of_mem hfield)

theorem reread_eq_ofValue {v : Json} (h : ∀ n ∈ v.numbers, n.reread? = some n) :
    v.reread = .ofValue v := by
  induction v with
  | number n =>
      rw [reread, h n List.mem_cons_self]
      rfl
  | array items ih =>
      rw [forall_numbers_array_iff] at h
      rw [reread, rereadItems_eq_map, Document.ofValue, Document.ofItems_eq_map]
      exact congrArg _ (List.map_congr_left fun item hitem => ih item hitem (h item hitem))
  | object members ih =>
      rw [forall_numbers_object_iff] at h
      rw [reread, rereadMembers_eq_map, Document.ofValue, Document.ofMembers_eq_map]
      refine congrArg _ (List.map_congr_left fun member hmember => ?_)
      rw [ih member hmember (h member hmember)]
  | _ => rfl

section

variable {limit : Nat}

theorem forall_of_itemsWithin_reread {items : List Json}
    (h : Document.itemsWithin limit (rereadItems items) = some items) :
    ∀ item ∈ items, Document.valueWithin limit item.reread = some item := by
  induction items with
  | nil => exact List.forall_mem_nil _
  | cons item rest ih =>
      rw [rereadItems, Document.itemsWithin] at h
      split at h
      · rename_i hitem hrest
        cases h
        exact List.forall_mem_cons.mpr ⟨hitem, ih hrest⟩
      · cases h

theorem keys_of_membersWithin_reread {members list : List (String × Json)}
    (h : Document.membersWithin limit (rereadMembers members) = some list) :
    list.map Prod.fst = members.map Prod.fst := by
  induction members generalizing list with
  | nil =>
      cases h
      rfl
  | cons member rest ih =>
      rw [rereadMembers, Document.membersWithin_cons] at h
      obtain ⟨first, hfirst, h⟩ := Option.bind_eq_some_iff.mp h
      obtain ⟨later, hlater, rfl⟩ := Option.map_eq_some_iff.mp h
      obtain ⟨value, -, rfl⟩ := Option.map_eq_some_iff.mp hfirst
      rw [List.map_cons, List.map_cons, ih hlater]

theorem forall_of_membersWithin_reread {members : List (String × Json)}
    (h : Document.membersWithin limit (rereadMembers members) = some members) :
    ∀ member ∈ members, Document.valueWithin limit member.2.reread = some member.2 := by
  induction members with
  | nil => exact List.forall_mem_nil _
  | cons member rest ih =>
      rw [rereadMembers, Document.membersWithin_cons] at h
      obtain ⟨first, hfirst, h⟩ := Option.bind_eq_some_iff.mp h
      obtain ⟨later, hlater, heq⟩ := Option.map_eq_some_iff.mp h
      obtain ⟨value, hvalue, rfl⟩ := Option.map_eq_some_iff.mp hfirst
      obtain ⟨hmember, rfl⟩ := List.cons.inj heq
      have hsecond : value = member.2 := congrArg Prod.snd hmember
      exact List.forall_mem_cons.mpr ⟨hvalue.trans (congrArg some hsecond), ih hlater⟩

theorem membersWithin_of_valueWithin_reread {members : List (String × Json)}
    (hsorted : Entries.Sorted members)
    (h : Document.valueWithin (limit + 1) (Json.object members).reread = some (.object members)) :
    Document.membersWithin limit (rereadMembers members) = some members := by
  rw [reread, Document.valueWithin, if_neg (Nat.succ_ne_zero _), Nat.add_sub_cancel] at h
  obtain ⟨list, hlist, heq⟩ := Option.map_eq_some_iff.mp h
  -- The members come out under their own keys, so in the order in which they stand.
  have hlistSorted : Entries.Sorted list := by
    have hkeys := keys_of_membersWithin_reread hlist
    rw [Entries.Sorted, ← List.pairwise_map (f := Prod.fst) (R := (· < ·))] at hsorted ⊢
    rwa [hkeys]
  rw [hlist, ← Json.object.inj heq,
    Entries.Sorted.ofList_eq_of_perm hlistSorted (List.Perm.refl list)]

end

/-- A value that comes back from its own text does not nest too deep, and each number in it comes
back from its own text. -/
theorem of_valueWithin_reread {v : Json} (hv : v.Canonical) {limit : Nat}
    (h : Document.valueWithin limit v.reread = some v) :
    v.depth ≤ limit ∧ ∀ n ∈ v.numbers, n.reread? = some n := by
  induction v generalizing limit with
  | number n =>
      refine ⟨Nat.zero_le _, fun m hm => ?_⟩
      rw [List.mem_singleton.mp hm]
      obtain ⟨found, hfound, heq⟩ := Option.map_eq_some_iff.mp h
      rw [hfound, Json.number.inj heq]
  | array items ih =>
      cases limit with
      | zero => cases h
      | succ limit =>
          rw [reread, Document.valueWithin, if_neg (Nat.succ_ne_zero _), Nat.add_sub_cancel] at h
          obtain ⟨values, hvalues, heq⟩ := Option.map_eq_some_iff.mp h
          cases heq
          have hitems := forall_of_itemsWithin_reread hvalues
          have hall := fun item hitem =>
            ih item hitem (canonicalItems_iff.mp hv item hitem) (hitems item hitem)
          exact ⟨Nat.succ_le_succ (depthOfItems_le_iff.mpr fun item hitem => (hall item hitem).1),
            forall_numbers_array_iff.mpr fun item hitem => (hall item hitem).2⟩
  | object members ih =>
      obtain ⟨hsorted, hcanonical⟩ := hv
      cases limit with
      | zero => cases h
      | succ limit =>
          have hmembers := forall_of_membersWithin_reread
            (membersWithin_of_valueWithin_reread hsorted h)
          have hall := fun m hm =>
            ih m hm (canonicalMembers_iff.mp hcanonical m hm) (hmembers m hm)
          exact ⟨Nat.succ_le_succ (depthOfMembers_le_iff.mpr fun m hm => (hall m hm).1),
            forall_numbers_object_iff.mpr fun m hm => (hall m hm).2⟩
  | _ => exact ⟨Nat.zero_le _, List.forall_mem_nil _⟩

end AccessControl.Json
