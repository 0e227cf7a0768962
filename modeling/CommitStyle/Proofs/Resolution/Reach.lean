import CommitStyle.Proofs.Resolution.Step
import Mathlib.Logic.Relation

/-!
# The graph of files

A file extends the files that its entries stand for, and a rule set reaches those that its own entries
stand for and all that these extend in turn.
-/

namespace CommitStyle.Workspace

variable (w : Workspace)

def Names (base : Option String) (entries : List String) (location : Location) : Prop :=
  ∃ entry ∈ entries, w.refer base entry = .ok (.file location)

def Extends (source target : Location) : Prop :=
  ∃ set, w.content source = .ok set ∧ w.Names source.base set.bases target

def Reaches : Location → Location → Prop := Relation.TransGen w.Extends

def ReachesFile (base : Option String) (entries : List String) (location : Location) : Prop :=
  ∃ first, w.Names base entries first ∧ Relation.ReflTransGen w.Extends first location

/-- The given entries, and those of the files that are reached, each with where its paths start. -/
def ReachesEntry (base : Option String) (entries : List String) (start : Option String)
    (entry : String) : Prop :=
  (start = base ∧ entry ∈ entries) ∨
    ∃ location set, w.ReachesFile base entries location ∧ w.content location = .ok set ∧
      start = location.base ∧ entry ∈ set.bases

def IsSound (start : Option String) (entry : String) : Prop :=
  (∃ preset, Preset.ofName? entry = some preset) ∨
    isPathLike entry = true ∧
      ∃ location set, w.locate? (entryPath start entry) = some location ∧
        w.content location = .ok set

variable {w} {base start : Option String} {entry : String} {entries rest : List String}
variable {location other : Location} {set : RuleSet}

lemma refer_eq_preset_iff :
    w.refer base entry = .ok (.preset set) ↔ Preset.ofName? entry = some set := by
  rw [refer]
  split
  next preset hp => simp [hp]
  next hp =>
    rw [hp]
    constructor
    · split
      · split <;> simp [ConfigError.raise]
      · simp [ConfigError.raise]
    · simp

lemma refer_eq_file_iff :
    w.refer base entry = .ok (.file location) ↔
      Preset.ofName? entry = none ∧ isPathLike entry = true ∧
        w.locate? (entryPath base entry) = some location := by
  rw [refer]
  split
  next preset hp => simp [hp]
  next hp =>
    split
    next hl => split <;> simp_all [ConfigError.raise]
    next hl => simp [hp, hl, ConfigError.raise]

lemma IsSound.refer (h : w.IsSound start entry) :
    (∃ preset, w.refer start entry = .ok (.preset preset)) ∨
      ∃ location set, w.refer start entry = .ok (.file location) ∧
        w.content location = .ok set := by
  cases hp : Preset.ofName? entry with
  | some preset => exact .inl ⟨preset, refer_eq_preset_iff.2 hp⟩
  | none =>
    rcases h with ⟨preset, hs⟩ | ⟨hl, location, set, hw, hs⟩
    · rw [hp] at hs
      cases hs
    · exact .inr ⟨location, set, refer_eq_file_iff.2 ⟨hp, hl, hw⟩, hs⟩

lemma IsSound.of_refer_preset (h : w.refer start entry = .ok (.preset set)) :
    w.IsSound start entry :=
  .inl ⟨set, refer_eq_preset_iff.1 h⟩

lemma IsSound.of_refer_file (h : w.refer start entry = .ok (.file location))
    (hs : w.content location = .ok set) : w.IsSound start entry := by
  obtain ⟨-, hl, hw⟩ := refer_eq_file_iff.1 h
  exact .inr ⟨hl, location, set, hw, hs⟩

lemma extends_iff (hs : w.content location = .ok set) :
    w.Extends location other ↔ w.Names location.base set.bases other := by
  constructor
  · rintro ⟨set', hs', hn⟩
    rw [hs] at hs'
    cases hs'
    exact hn
  · exact fun hn => ⟨set, hs, hn⟩

lemma reaches_iff (hs : w.content location = .ok set) :
    w.Reaches location other ↔ w.ReachesFile location.base set.bases other := by
  rw [Reaches, Relation.TransGen.head'_iff]
  simp only [extends_iff hs, ReachesFile]

lemma ReachesFile.cons (h : w.ReachesFile base rest location) :
    w.ReachesFile base (entry :: rest) location := by
  obtain ⟨first, ⟨e, he, hr⟩, hp⟩ := h
  exact ⟨first, ⟨e, .tail _ he, hr⟩, hp⟩

lemma not_reachesFile_nil : ¬ w.ReachesFile base [] location := by
  rintro ⟨first, ⟨e, he, -⟩, -⟩
  cases he

lemma reachesFile_cons_iff_of_preset (h : w.refer base entry = .ok (.preset set)) :
    w.ReachesFile base (entry :: rest) location ↔ w.ReachesFile base rest location := by
  refine ⟨?_, ReachesFile.cons⟩
  rintro ⟨first, ⟨e, he, hr⟩, hp⟩
  rcases List.mem_cons.1 he with rfl | he
  · rw [h] at hr
    cases hr
  · exact ⟨first, ⟨e, he, hr⟩, hp⟩

lemma reachesFile_cons_iff_of_file (h : w.refer base entry = .ok (.file location))
    (hs : w.content location = .ok set) :
    w.ReachesFile base (entry :: rest) other ↔
      other = location ∨ w.ReachesFile location.base set.bases other ∨
        w.ReachesFile base rest other := by
  constructor
  · rintro ⟨first, ⟨e, he, hr⟩, hp⟩
    rcases List.mem_cons.1 he with rfl | he
    · rw [h] at hr
      cases hr
      rcases Relation.reflTransGen_iff_eq_or_transGen.1 hp with rfl | ht
      · exact .inl rfl
      · exact .inr (.inl ((reaches_iff hs).1 ht))
    · exact .inr (.inr ⟨first, ⟨e, he, hr⟩, hp⟩)
  · rintro (rfl | hb | hr)
    · exact ⟨other, ⟨entry, .head _, h⟩, .refl⟩
    · exact ⟨location, ⟨entry, .head _, h⟩, ((reaches_iff hs).2 hb).to_reflTransGen⟩
    · exact hr.cons

lemma ReachesFile.trans (h : w.ReachesFile base entries location) (hr : w.Reaches location other) :
    w.ReachesFile base entries other := by
  obtain ⟨first, hn, hp⟩ := h
  exact ⟨first, hn, hp.trans hr.to_reflTransGen⟩

lemma ReachesEntry.cons (h : w.ReachesEntry base rest start entry) (e : String) :
    w.ReachesEntry base (e :: rest) start entry := by
  rcases h with ⟨hb, he⟩ | ⟨location, set, hr, h⟩
  · exact .inl ⟨hb, .tail _ he⟩
  · exact .inr ⟨location, set, hr.cons, h⟩

lemma ReachesEntry.of_file (h : w.ReachesFile base entries location)
    (hs : w.content location = .ok set)
    (he : w.ReachesEntry location.base set.bases start entry) :
    w.ReachesEntry base entries start entry := by
  rcases he with ⟨hb, he⟩ | ⟨other, inner, hr, he⟩
  · exact .inr ⟨location, set, h, hs, hb, he⟩
  · exact .inr ⟨other, inner, h.trans ((reaches_iff hs).2 hr), he⟩

end CommitStyle.Workspace
