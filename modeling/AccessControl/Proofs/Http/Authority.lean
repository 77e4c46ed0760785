import AccessControl.Http.Header
import AccessControl.Http.Uri
import AccessControl.Proofs.Text.Lowercase
import AccessControl.Text.Blank

/-!
# What an accepted authority holds

The authority of a URI is scanned once, from left to right. A scan that succeeds has met graphic
characters of ASCII only, none of them a blank, and it knows whether it has met brackets. So the
authority of an accepted URI can be read from a header as well, and a bracket that it opens is
closed in it.
-/

namespace AccessControl.Http

/-- A character of ASCII that leaves a mark. -/
def IsGraphic (c : Char) : Prop := 32 < c.toNat ∧ c.toNat < 127

theorem IsGraphic.isReadableChar {c : Char} (h : IsGraphic c) : isReadableChar c = true := by
  simp only [Http.isReadableChar, Bool.or_eq_true, Bool.and_eq_true, decide_eq_true_eq]
  exact .inr ⟨Nat.le_of_lt h.1, h.2⟩

theorem IsGraphic.isBlank_eq_false {c : Char} (h : IsGraphic c) : Text.isBlank c = false := by
  obtain ⟨hlow, hhigh⟩ := h
  rw [Bool.eq_false_iff]
  intro hblank
  simp only [Text.isBlank, Bool.or_eq_true, Bool.and_eq_true, decide_eq_true_eq, beq_iff_eq]
    at hblank
  omega

namespace Uri

theorem isGraphic_of_isUriChar {c : Char} (h : isUriChar c = true) : IsGraphic c := by
  have hsymbols : ∀ c ∈ "!#$&'()*+,-./:;=?@[]_~".toList, 32 < c.toNat ∧ c.toNat < 127 := by
    simp
  rw [isUriChar, Bool.or_eq_true, List.contains_iff_mem] at h
  rcases h with halphanum | hsymbol
  · have hbounds := Text.toNat_of_isAlphanum halphanum
    unfold IsGraphic
    omega
  · exact hsymbols c hsymbol

namespace AuthorityScan

variable {scan after : AuthorityScan} {c : Char} {cs : List Char}

/-- What is known about a list of characters when it has been scanned. -/
structure Knows (scan : AuthorityScan) (cs : List Char) (after : AuthorityScan) : Prop where
  graphic : ∀ c ∈ cs, IsGraphic c
  opened : after.opened = true ↔ scan.opened = true ∨ '[' ∈ cs
  closed : after.closed = true ↔ scan.closed = true ∨ ']' ∈ cs

theorem knows_of_step (h : scan.step c = some after) : scan.Knows [c] after := by
  simp only [step, beq_iff_eq] at h
  split_ifs at h with hcolon _ hopen _ hclose _ hat hpercent hchar <;> cases h
  · exact ⟨by simp [hcolon, IsGraphic], by simp [hcolon], by simp [hcolon]⟩
  · exact ⟨by simp [hopen, IsGraphic], by simp [hopen], by simp [hopen]⟩
  · exact ⟨by simp [hclose, IsGraphic], by simp [hclose], by simp [hclose]⟩
  · exact ⟨by simp [hat, IsGraphic], by simp [hat], by simp [hat]⟩
  · exact ⟨by simp [hpercent, IsGraphic], by simp [hpercent], by simp [hpercent]⟩
  · exact ⟨by simpa using isGraphic_of_isUriChar hchar, by simp [Ne.symm hopen],
      by simp [Ne.symm hclose]⟩

theorem knows_of_foldlM (h : cs.foldlM step scan = some after) : scan.Knows cs after := by
  induction cs generalizing scan with
  | nil =>
      cases h
      exact ⟨by simp, by simp, by simp⟩
  | cons c cs ih =>
      rw [List.foldlM_cons] at h
      obtain ⟨next, hnext, hrest⟩ := Option.bind_eq_some_iff.mp h
      obtain ⟨hchar, hopen, hclose⟩ := knows_of_step hnext
      obtain ⟨hchars, hopened, hclosed⟩ := ih hrest
      refine ⟨?_, ?_, ?_⟩
      · simpa using ⟨hchar c List.mem_cons_self, hchars⟩
      · rw [hopened, hopen, List.mem_singleton, List.mem_cons, or_assoc]
      · rw [hclosed, hclose, List.mem_singleton, List.mem_cons, or_assoc]

end AuthorityScan

variable {cs : List Char}

theorem isGraphic_of_isAuthority (h : isAuthority cs = true) : ∀ c ∈ cs, IsGraphic c := by
  unfold isAuthority at h
  split at h
  · cases h
  · rename_i scan hscan
    exact (AuthorityScan.knows_of_foldlM hscan).graphic

/-- A bracket that is opened is closed. -/
theorem closes_of_isAuthority (h : isAuthority cs = true) (hopen : '[' ∈ cs) : ']' ∈ cs := by
  unfold isAuthority at h
  split at h
  · cases h
  · rename_i scan hscan
    obtain ⟨-, hopened, hclosed⟩ := AuthorityScan.knows_of_foldlM hscan
    simp only [Bool.and_eq_true, beq_iff_eq] at h
    simpa [h.1.1.1 ▸ hopened.mpr (.inr hopen)] using hclosed

theorem isAuthority_of_parseAbsolute? {uri : Uri} {authority : String}
    (h : parseAbsolute? cs = some uri) (hauthority : uri.authority = some authority) :
    isAuthority authority.toList = true := by
  unfold parseAbsolute? at h
  split at h
  · split at h
    · rename_i haccepted
      cases h
      cases hauthority
      rw [String.toList_ofList]
      exact (Bool.and_eq_true_iff.mp haccepted).2
    · cases h
  · extract_lets taken at h
    split at h
    · cases h
    · rename_i hrefused
      obtain ⟨_, -, rfl⟩ := Option.map_eq_some_iff.mp h
      cases hauthority
      rw [String.toList_ofList]
      simp only [Bool.or_eq_true, Bool.not_eq_true', not_or, Bool.not_eq_false] at hrefused
      exact hrefused.1.2

/-- A URI that names an authority has had it scanned. -/
theorem isAuthority_of_parse? {text authority : String} {uri : Uri} (h : parse? text = some uri)
    (hauthority : uri.authority = some authority) : isAuthority authority.toList = true := by
  unfold parse? at h
  split at h
  · cases h
  · split at h
    · cases h
    · cases h
      cases hauthority
    · obtain ⟨_, -, rfl⟩ := Option.map_eq_some_iff.mp h
      cases hauthority
    · exact isAuthority_of_parseAbsolute? h hauthority

end Uri

end AccessControl.Http
