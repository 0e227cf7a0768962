import CommitStyle.Proofs.Regex.Matching

/-!
# How matches begin

Single characters, one after the other or as alternatives, can be spelled out: there is a list of all
that they match. A match of an expression that begins with such a part begins with one of its
spellings, whatever comes behind it.
-/

namespace CommitStyle.Expr

open PartProperty

def spellings? : Regex → Option (List (List Char))
  | empty | place _ => some [[]]
  | chars (.span first last) => if first = last then some [[first]] else none
  | chars _ | star _ | times _ _ | upTo _ _ => none
  | seq first second => first.spellings?.bind fun texts =>
    second.spellings?.map fun others => texts.flatMap fun text => others.map (text ++ ·)
  | alt left right => left.spellings?.bind fun texts => right.spellings?.map (texts ++ ·)

/-- Texts of which every match begins with one, as far as the expression is spelled out. -/
def openings : Regex → List (List Char)
  | seq first second =>
    match first.spellings? with
    | some texts => texts.flatMap fun text => second.openings.map (text ++ ·)
    | none => first.openings
  | alt left right => left.openings ++ right.openings
  | regex => regex.spellings?.getD [[]]

variable {regex : Regex} {before part after : List Char} {texts : List (List Char)}

lemma mem_spellings (h : regex.spellings? = some texts) (hm : regex.Matches before part after) :
    part ∈ texts := by
  induction regex generalizing texts before part after with
  | empty =>
    cases h
    exact List.mem_singleton.2 hm
  | place look =>
    cases h
    exact List.mem_singleton.2 hm.2
  | chars set =>
    obtain ⟨c, hc, rfl⟩ := hm
    cases set with
    | span first last =>
      simp only [spellings?] at h
      split at h
      next hl =>
        cases h
        subst hl
        obtain rfl := (CharSet.contains_single first c).1 hc
        exact List.mem_singleton_self _
      next => cases h
    | _ => cases h
  | seq first second hf hs =>
    obtain ⟨ls, hl, h⟩ := Option.bind_eq_some_iff.1 h
    obtain ⟨rs, hr, rfl⟩ := Option.map_eq_some_iff.1 h
    obtain ⟨left, right, rfl, hfirst, hsecond⟩ := hm
    exact List.mem_flatMap.2 ⟨left, hf hl hfirst, List.mem_map_of_mem (hs hr hsecond)⟩
  | alt left right hl hr =>
    obtain ⟨ls, hls, h⟩ := Option.bind_eq_some_iff.1 h
    obtain ⟨rs, hrs, rfl⟩ := Option.map_eq_some_iff.1 h
    apply List.mem_append.2
    exact hm.imp (hl hls) (hr hrs)
  | star | times | upTo => cases h

lemma exists_opening_of_spellings (h : regex.openings = regex.spellings?.getD [[]])
    (hm : regex.Matches before part after) : ∃ text ∈ regex.openings, text <+: part := by
  rw [h]
  cases hs : regex.spellings? with
  | none => exact ⟨[], List.mem_singleton_self _, List.nil_prefix⟩
  | some texts => exact ⟨part, mem_spellings hs hm, List.prefix_rfl⟩

lemma exists_opening (hm : regex.Matches before part after) :
    ∃ text ∈ regex.openings, text <+: part := by
  induction regex generalizing before part after with
  | seq first second hf hs =>
    obtain ⟨left, right, rfl, hfirst, hsecond⟩ := hm
    rw [openings]
    cases hl : first.spellings? with
    | some texts =>
      obtain ⟨text, ht, hp⟩ := hs hsecond
      refine ⟨left ++ text, ?_, (List.prefix_append_right_inj _).2 hp⟩
      exact List.mem_flatMap.2 ⟨left, mem_spellings hl hfirst, List.mem_map_of_mem ht⟩
    | none =>
      obtain ⟨text, ht, hp⟩ := hf hfirst
      exact ⟨text, ht, hp.trans (List.prefix_append _ _)⟩
  | alt left right hl hr =>
    rcases hm with hm | hm
    · obtain ⟨text, ht, hp⟩ := hl hm
      exact ⟨text, List.mem_append_left _ ht, hp⟩
    · obtain ⟨text, ht, hp⟩ := hr hm
      exact ⟨text, List.mem_append_right _ ht, hp⟩
  | empty | chars | place | star | times | upTo => exact exists_opening_of_spellings rfl hm

end CommitStyle.Expr
