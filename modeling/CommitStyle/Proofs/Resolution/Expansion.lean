import CommitStyle.Proofs.Merge
import CommitStyle.Proofs.Resolution.Reach

/-!
# Expansion

The entries of a rule set expand to a list of rule sets: from left to right, and each file after what
it extends itself. Resolution succeeds if there is an expansion that meets no file of the chain, and
gives the expansion merged from left to right. There is an expansion if the entries that are reached
are sound and no reached file reaches itself.
-/

namespace CommitStyle

namespace RuleSet

def own (set : RuleSet) : RuleSet := { set with bases := [] }

def lay (merged : RuleSet) (sources : List RuleSet) : RuleSet :=
  sources.foldl (fun merged set => merged.merge set.own) merged

@[simp] lemma lay_cons (merged set : RuleSet) (sources : List RuleSet) :
    merged.lay (set :: sources) = (merged.merge set.own).lay sources := rfl

lemma lay_append (merged : RuleSet) (sources others : List RuleSet) :
    merged.lay (sources ++ others) = (merged.lay sources).lay others :=
  List.foldl_append

lemma lay_concat (merged set : RuleSet) (sources : List RuleSet) :
    merged.lay (sources ++ [set]) = (merged.lay sources).merge set.own :=
  lay_append merged sources [set]

lemma merge_lay (a b : RuleSet) (sources : List RuleSet) :
    a.merge (b.lay sources) = (a.merge b).lay sources := by
  induction sources generalizing b with
  | nil => rfl
  | cons set rest ih => rw [lay_cons, lay_cons, ih, merge_assoc]

lemma merge_empty_merge (a b : RuleSet) : (a.merge {}).merge b = a.merge b := by
  simp [merge]

/-- A file merged as a whole counts as much as its sources merged one by one. -/
lemma merge_lay_merge (merged set : RuleSet) (below : List RuleSet) :
    merged.merge ((({} : RuleSet).lay below).merge set.own) = merged.lay (below ++ [set]) := by
  rw [← lay_concat, merge_lay]
  cases below with
  | nil => exact merge_empty_merge merged set.own
  | cons first below =>
    rw [List.cons_append, lay_cons, lay_cons, merge_empty_merge]

end RuleSet

namespace Preset

lemma own_of_ofName? {name : String} {preset : RuleSet} (h : ofName? name = some preset) :
    preset.own = preset := by
  unfold ofName? at h
  split at h
  · cases h
    rfl
  · cases h

end Preset

namespace Workspace

/-- The rule sets that entries stand for, from left to right and each file after what it extends. -/
inductive Expansion (w : Workspace) : Option String → List String → List RuleSet → Prop
  | nil {base : Option String} : Expansion w base [] []
  | preset {base : Option String} {entry : String} {rest : List String} {set : RuleSet}
      {sources : List RuleSet} : w.refer base entry = .ok (.preset set) →
      Expansion w base rest sources → Expansion w base (entry :: rest) (set :: sources)
  | file {base : Option String} {entry : String} {rest : List String} {location : Location}
      {set : RuleSet} {below sources : List RuleSet} :
      w.refer base entry = .ok (.file location) → w.content location = .ok set →
      Expansion w location.base set.bases below → Expansion w base rest sources →
      Expansion w base (entry :: rest) (below ++ set :: sources)

variable {w : Workspace} {base start : Option String} {entry : String} {entries : List String}
variable {location other : Location} {set merged resolved : RuleSet} {sources : List RuleSet}
variable {chain : List Location}

lemma Expansion.unique {others : List RuleSet} (h : w.Expansion base entries sources)
    (h' : w.Expansion base entries others) : sources = others := by
  induction h generalizing others with
  | nil =>
    cases h'
    rfl
  | preset hr _ ih =>
    cases h' with
    | preset hr' h' =>
      rw [hr] at hr'
      cases hr'
      rw [ih h']
    | file hr' =>
      rw [hr] at hr'
      cases hr'
  | file hr hs _ _ ihb ih =>
    cases h' with
    | preset hr' =>
      rw [hr] at hr'
      cases hr'
    | file hr' hs' hb' h' =>
      rw [hr] at hr'
      cases hr'
      rw [hs] at hs'
      cases hs'
      rw [ihb hb', ih h']

lemma Expansion.acyclic (h : w.Expansion base entries sources)
    (hl : w.ReachesFile base entries location) : ¬ w.Reaches location location := by
  induction h generalizing location with
  | nil => exact (not_reachesFile_nil hl).elim
  | preset hr _ ih => exact ih ((reachesFile_cons_iff_of_preset hr).1 hl)
  | file hr hs _ _ ihb ih =>
    rcases (reachesFile_cons_iff_of_file hr hs).1 hl with rfl | hb | hn
    · -- A file on a circle is among the files that its own content reaches.
      intro hc
      exact ihb ((reaches_iff hs).1 hc) hc
    · exact ihb hb
    · exact ih hn

lemma Expansion.sound_of_mem (h : w.Expansion base entries sources) (he : entry ∈ entries) :
    w.IsSound base entry := by
  induction h with
  | nil => cases he
  | preset hr _ ih =>
    rcases List.mem_cons.1 he with rfl | he
    · exact .of_refer_preset hr
    · exact ih he
  | file hr hs _ _ _ ih =>
    rcases List.mem_cons.1 he with rfl | he
    · exact .of_refer_file hr hs
    · exact ih he

lemma Expansion.of_reachesFile (h : w.Expansion base entries sources)
    (hl : w.ReachesFile base entries location) :
    ∃ set below, w.content location = .ok set ∧ w.Expansion location.base set.bases below := by
  induction h generalizing location with
  | nil => exact (not_reachesFile_nil hl).elim
  | preset hr _ ih => exact ih ((reachesFile_cons_iff_of_preset hr).1 hl)
  | file hr hs hb _ ihb ih =>
    rcases (reachesFile_cons_iff_of_file hr hs).1 hl with rfl | hl | hl
    · exact ⟨_, _, hs, hb⟩
    · exact ihb hl
    · exact ih hl

lemma Expansion.sound (h : w.Expansion base entries sources)
    (he : w.ReachesEntry base entries start entry) : w.IsSound start entry := by
  rcases he with ⟨rfl, he⟩ | ⟨location, set, hl, hs, rfl, he⟩
  · exact h.sound_of_mem he
  · obtain ⟨set', below, hs', hb⟩ := h.of_reachesFile hl
    rw [hs] at hs'
    cases hs'
    exact hb.sound_of_mem he

/-! ### Resolution and expansion -/

lemma resolveIn_eq_ok_iff :
    w.resolveIn chain base set = .ok resolved ↔
      ∃ below, w.layAll chain base {} set.bases = .ok below ∧ below.merge set.own = resolved := by
  rw [resolveIn, bind_eq_ok_iff]
  simp only [pure, Except.pure, Except.ok.injEq, RuleSet.own]

lemma parentOf_eq_ok_iff :
    w.parentOf chain base entry = .ok resolved ↔
      w.refer base entry = .ok (.preset resolved) ∨
        ∃ location set, w.refer base entry = .ok (.file location) ∧ location ∉ chain ∧
          w.content location = .ok set ∧
          w.resolveIn (location :: chain) location.base set = .ok resolved := by
  cases hr : w.refer base entry with
  | error e => simp [parentOf_of_refer_error hr]
  | ok reference =>
    cases reference with
    | preset preset => simp [parentOf_of_refer_preset hr]
    | file location =>
      rw [parentOf_of_refer_file hr]
      by_cases hc : location ∈ chain
      · simp [hc, ConfigError.raise]
      · simp [hc, bind_eq_ok_iff]

lemma exists_expansion_of_layAll (h : w.layAll chain base merged entries = .ok resolved) :
    ∃ sources, w.Expansion base entries sources ∧
      (∀ location, w.ReachesFile base entries location → location ∉ chain) ∧
      resolved = merged.lay sources := by
  -- On the chain for the files that are opened, and within one file on its entries.
  induction chain using w.chain_induction generalizing base merged entries resolved with
  | step chain ihc =>
    induction entries generalizing merged with
    | nil =>
      rw [layAll_nil] at h
      cases h
      exact ⟨[], .nil, fun _ hl => (not_reachesFile_nil hl).elim, rfl⟩
    | cons entry rest ih =>
      rw [layAll_cons, bind_eq_ok_iff] at h
      obtain ⟨parent, hp, hrest⟩ := h
      obtain ⟨sources, hx, hf, rfl⟩ := ih hrest
      rcases parentOf_eq_ok_iff.1 hp with hr | ⟨location, set, hr, hc, hs, hn⟩
      · have hown := Preset.own_of_ofName? (refer_eq_preset_iff.1 hr)
        refine ⟨parent :: sources, .preset hr hx, fun l hl => ?_, ?_⟩
        · exact hf l ((reachesFile_cons_iff_of_preset hr).1 hl)
        · rw [RuleSet.lay_cons, hown]
      · obtain ⟨below, hb, rfl⟩ := resolveIn_eq_ok_iff.1 hn
        obtain ⟨inner, hxb, hfb, rfl⟩ := ihc location set hc hs hb
        refine ⟨inner ++ set :: sources, .file hr hs hxb hx, fun l hl => ?_, ?_⟩
        · rcases (reachesFile_cons_iff_of_file hr hs).1 hl with rfl | hl | hl
          · exact hc
          · exact fun hlc => hfb l hl (.tail _ hlc)
          · exact hf l hl
        · rw [RuleSet.merge_lay_merge, ← RuleSet.lay_append, List.append_assoc]
          rfl

lemma layAll_of_expansion (h : w.Expansion base entries sources)
    (hf : ∀ location, w.ReachesFile base entries location → location ∉ chain) :
    w.layAll chain base merged entries = .ok (merged.lay sources) := by
  induction h generalizing chain merged with
  | nil => exact layAll_nil ..
  | preset hr _ ih =>
    rw [layAll_cons, parentOf_of_refer_preset hr]
    have hown := Preset.own_of_ofName? (refer_eq_preset_iff.1 hr)
    rw [RuleSet.lay_cons, hown]
    exact ih fun l hl => hf l hl.cons
  | @file base entry rest location set below sources hr hs hb hx ihb ih =>
    have hc : location ∉ chain := hf location ((reachesFile_cons_iff_of_file hr hs).2 (.inl rfl))
    have hbelow : w.layAll (location :: chain) location.base {} set.bases = .ok (.lay {} below) := by
      refine ihb fun l hl hlc => ?_
      rcases List.mem_cons.1 hlc with rfl | hlc
      · exact hb.acyclic hl ((reaches_iff hs).2 hl)
      · exact hf l ((reachesFile_cons_iff_of_file hr hs).2 (.inr (.inl hl))) hlc
    have hp : w.parentOf chain base entry = .ok ((RuleSet.lay {} below).merge set.own) :=
      parentOf_eq_ok_iff.2 (.inr ⟨location, set, hr, hc, hs, resolveIn_eq_ok_iff.2 ⟨_, hbelow, rfl⟩⟩)
    rw [layAll_cons, hp]
    change w.layAll chain base (merged.merge _) rest = _
    rw [ih fun l hl => hf l hl.cons, RuleSet.merge_lay_merge, ← RuleSet.lay_append,
      List.append_assoc]
    rfl

lemma resolveIn_eq_ok_iff_expansion :
    w.resolveIn chain base set = .ok resolved ↔
      ∃ below, w.Expansion base set.bases below ∧
        (∀ location, w.ReachesFile base set.bases location → location ∉ chain) ∧
        resolved = RuleSet.lay {} (below ++ [set]) := by
  rw [resolveIn_eq_ok_iff]
  constructor
  · rintro ⟨below, hb, rfl⟩
    obtain ⟨sources, hx, hf, rfl⟩ := exists_expansion_of_layAll hb
    exact ⟨sources, hx, hf, (RuleSet.lay_concat ..).symm⟩
  · rintro ⟨sources, hx, hf, rfl⟩
    exact ⟨_, layAll_of_expansion hx hf, (RuleSet.lay_concat ..).symm⟩

lemma resolve_eq_ok_iff_expansion :
    w.resolve base set = .ok resolved ↔
      ∃ below, w.Expansion base set.bases below ∧ resolved = RuleSet.lay {} (below ++ [set]) := by
  rw [resolve_eq_resolveIn, resolveIn_eq_ok_iff_expansion]
  simp

lemma exists_expansion_off_chain
    (hs : ∀ start entry, w.ReachesEntry base entries start entry → w.IsSound start entry)
    (ha : ∀ location, w.ReachesFile base entries location → ¬ w.Reaches location location)
    (hf : ∀ location, w.ReachesFile base entries location → location ∉ chain) :
    ∃ sources, w.Expansion base entries sources := by
  induction chain using w.chain_induction generalizing base entries with
  | step chain ihc =>
    induction entries with
    | nil => exact ⟨[], .nil⟩
    | cons entry rest ih =>
      obtain ⟨sources, hx⟩ := ih (fun s e he => hs s e (he.cons entry))
        (fun l hl => ha l hl.cons) (fun l hl => hf l hl.cons)
      have he : w.IsSound base entry := hs base entry (.inl ⟨rfl, .head _⟩)
      rcases he.refer with ⟨preset, hr⟩ | ⟨location, set, hr, hc⟩
      · exact ⟨preset :: sources, .preset hr hx⟩
      · have hl : w.ReachesFile base (entry :: rest) location :=
          (reachesFile_cons_iff_of_file hr hc).2 (.inl rfl)
        have hb : ∀ l, w.ReachesFile location.base set.bases l →
            w.ReachesFile base (entry :: rest) l :=
          fun l hl => (reachesFile_cons_iff_of_file hr hc).2 (.inr (.inl hl))
        obtain ⟨below, hbelow⟩ := ihc location set (hf location hl) hc
          (fun s e he => hs s e (.of_file hl hc he)) (fun l hl => ha l (hb l hl)) (by
            intro l hr' hlc
            rcases List.mem_cons.1 hlc with rfl | hlc
            · exact ha l hl ((reaches_iff hc).2 hr')
            · exact hf l (hb l hr') hlc)
        exact ⟨below ++ set :: sources, .file hr hc hbelow hx⟩

lemma exists_expansion_iff :
    (∃ sources, w.Expansion base entries sources) ↔
      (∀ start entry, w.ReachesEntry base entries start entry → w.IsSound start entry) ∧
        ∀ location, w.ReachesFile base entries location → ¬ w.Reaches location location := by
  constructor
  · rintro ⟨sources, hx⟩
    exact ⟨fun _ _ => hx.sound, fun _ => hx.acyclic⟩
  · rintro ⟨hs, ha⟩
    have hf : ∀ location, w.ReachesFile base entries location → location ∉ ([] : List Location) :=
      fun _ _ => List.not_mem_nil
    exact exists_expansion_off_chain hs ha hf

end Workspace

end CommitStyle
