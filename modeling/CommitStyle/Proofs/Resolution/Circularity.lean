import CommitStyle.Proofs.Path
import CommitStyle.Proofs.Resolution.Expansion

/-!
# Circles of files

Resolution comes to an end whatever the files extend, since only files off the chain are opened. It
reports a circle only for a file that reaches itself, and a file that is met on several branches is
resolved on each of them.
-/

namespace CommitStyle.Workspace

variable {w : Workspace} {base : Option String} {entry path : String} {entries : List String}
variable {location other : Location} {set merged : RuleSet} {chain : List Location}

/-! ### What is reported as a circle -/

lemma refer_ne_circular :
    w.refer base entry ≠ .error (.config (.circularExtends path)) := by
  rw [refer]
  split
  · simp
  · split
    · split <;> simp [ConfigError.raise]
    · simp [ConfigError.raise]

lemma content_ne_circular :
    w.content location ≠ .error (.config (.circularExtends path)) := by
  rw [content, readAt]
  split
  · rw [RuleSet.parse]
    split <;> simp [ConfigError.raise]
  · simp [ConfigError.raise]

lemma resolveIn_eq_error_iff {e : Error} :
    w.resolveIn chain base set = .error e ↔ w.layAll chain base {} set.bases = .error e := by
  rw [resolveIn, bind_eq_error_iff]
  simp [pure, Except.pure]

lemma exists_file_of_parentOf_circular
    (h : w.parentOf chain base entry = .error (.config (.circularExtends path))) :
    ∃ location, w.refer base entry = .ok (.file location) ∧
      (location ∈ chain ∧ location.path = path ∨
        location ∉ chain ∧ ∃ set, w.content location = .ok set ∧
          w.layAll (location :: chain) location.base {} set.bases =
            .error (.config (.circularExtends path))) := by
  cases hr : w.refer base entry with
  | error e =>
    rw [parentOf_of_refer_error hr] at h
    cases h
    exact (refer_ne_circular hr).elim
  | ok reference =>
    cases reference with
    | preset preset =>
      rw [parentOf_of_refer_preset hr] at h
      cases h
    | file location =>
      rw [parentOf_of_refer_file hr] at h
      refine ⟨location, rfl, ?_⟩
      split at h
      next hc =>
        cases h
        exact .inl ⟨hc, rfl⟩
      next hc =>
        rcases bind_eq_error_iff.1 h with he | ⟨set, hs, hn⟩
        · exact (content_ne_circular he).elim
        · exact .inr ⟨hc, set, hs, resolveIn_eq_error_iff.1 hn⟩

lemma exists_circle_of_layAll
    (h : w.layAll chain base merged entries = .error (.config (.circularExtends path))) :
    ∃ location : Location, location.path = path ∧ w.ReachesFile base entries location ∧
      (location ∈ chain ∨ w.Reaches location location) := by
  induction chain using w.chain_induction generalizing base merged entries with
  | step chain ihc =>
    induction entries generalizing merged with
    | nil => simp at h
    | cons entry rest ih =>
      rw [layAll_cons] at h
      rcases bind_eq_error_iff.1 h with hp | ⟨parent, -, hrest⟩
      · obtain ⟨location, hr, ⟨hc, rfl⟩ | ⟨hc, set, hs, hn⟩⟩ := exists_file_of_parentOf_circular hp
        · exact ⟨location, rfl, ⟨location, ⟨entry, .head _, hr⟩, .refl⟩, .inl hc⟩
        · obtain ⟨other, ho, hl, hlc⟩ := ihc location set hc hs hn
          have hreach : w.ReachesFile base (entry :: rest) other :=
            (reachesFile_cons_iff_of_file hr hs).2 (.inr (.inl hl))
          refine ⟨other, ho, hreach, ?_⟩
          rcases hlc with hlc | ha
          · rcases List.mem_cons.1 hlc with rfl | hlc
            · exact .inr ((reaches_iff hs).2 hl)
            · exact .inl hlc
          · exact .inr ha
      · obtain ⟨other, ho, hl, hlc⟩ := ih hrest
        exact ⟨other, ho, hl.cons, hlc⟩

/-! ### Which file is meant -/

lemma isProper_of_names (h : w.Names location.base entries other) : other.IsProper := by
  obtain ⟨entry, -, hr⟩ := h
  obtain ⟨-, -, hw⟩ := refer_eq_file_iff.1 hr
  have ha : Path.isAbsolute (entryPath location.base entry) = true :=
    Path.isAbsolute_join (Path.isAbsolute_slash_append _) entry
  exact FileTree.isProper_of_locate? ha hw

lemma isProper_of_reaches (h : w.Reaches location other) : other.IsProper := by
  obtain ⟨source, -, set, -, hn⟩ := Relation.TransGen.tail'_iff.1 h
  exact isProper_of_names hn

/-- Resolution opens no more files in one another than the tree has. It succeeds just in case every
reached entry is sound and no reached file reaches itself, and the path that is reported as a circle
is that of a file which does. -/
theorem resolve_ok_iff_sound_and_acyclic (w : Workspace) (base : Option String) (set : RuleSet) :
    (∀ depth, w.tree.entries.length < depth →
      w.resolveWithin depth [] base set = some (w.resolve base set)) ∧
    ((∃ resolved, w.resolve base set = .ok resolved) ↔
      (∀ start entry, w.ReachesEntry base set.bases start entry → w.IsSound start entry) ∧
        ∀ location, w.ReachesFile base set.bases location → ¬ w.Reaches location location) ∧
    (∀ path, w.resolve base set = .error (.config (.circularExtends path)) →
      ∃ location : Location, location.path = path ∧ w.ReachesFile base set.bases location ∧
        w.Reaches location location) ∧
    ∀ location : Location, location.IsProper → ¬ w.Reaches location location →
      w.resolve base set ≠ .error (.config (.circularExtends location.path)) := by
  have hcircle : ∀ path, w.resolve base set = .error (.config (.circularExtends path)) →
      ∃ location : Location, location.path = path ∧ w.ReachesFile base set.bases location ∧
        w.Reaches location location := by
    intro path h
    obtain ⟨location, hl, hr, hc⟩ := exists_circle_of_layAll (resolveIn_eq_error_iff.1 h)
    exact ⟨location, hl, hr, hc.resolve_left List.not_mem_nil⟩
  refine ⟨?_, ?_, hcircle, ?_⟩
  · intro depth hd
    exact w.resolveWithin_eq depth [] base set (Nat.lt_of_le_of_lt (List.length_filter_le ..) hd)
  · rw [← exists_expansion_iff]
    simp only [resolve_eq_ok_iff_expansion]
    constructor
    · rintro ⟨_, below, hx, rfl⟩
      exact ⟨below, hx⟩
    · rintro ⟨below, hx⟩
      exact ⟨_, below, hx, rfl⟩
  · intro location hp hn h
    obtain ⟨other, ho, -, hc⟩ := hcircle _ h
    obtain rfl := Location.eq_of_path_eq (isProper_of_reaches hc) hp ho
    exact hn hc

end CommitStyle.Workspace
