import CommitStyle.Proofs.Hook.Retention

/-!
# Installing and removing in turn

From a hooks directory in which nothing has been put aside, commands lead to two states and back: the
one they began with, and the one in which the script stands for the hook of the user.
-/

namespace CommitStyle

def FileTree.Agrees (tree other : FileTree) : Prop :=
  ∀ location, other.find? location = tree.find? location

namespace HooksDirectory

/-- A hooks directory in which nothing has been put aside, with a hook of the user or without one. -/
structure IsFresh (directory : HooksDirectory) (start : FileTree) : Prop where
  isDirectory : start.isDirectory directory.location = true
  backup : start.find? (directory.backupAt .commitMsg) = none
  hook : start.find? (directory.hookAt .commitMsg) = none ∨
    ∃ content : String, start.find? (directory.hookAt .commitMsg) = some (.file content.toUTF8) ∧
      Hook.isOwnScript content = false

/-- The script stands for the hook, and the hook of the user is put aside if there is one. -/
structure IsInstalled (directory : HooksDirectory) (start tree : FileTree) : Prop where
  hook : ∃ binary, tree.find? (directory.hookAt .commitMsg) =
    some (.file (Hook.commitMsg.script binary).toUTF8)
  backup : tree.find? (directory.backupAt .commitMsg) = start.find? (directory.hookAt .commitMsg)
  others : ∀ location, location ≠ directory.hookAt .commitMsg →
    location ≠ directory.backupAt .commitMsg → tree.find? location = start.find? location

variable {directory : HooksDirectory} {command : Command} {start tree after : FileTree}
  {result : Except Error Unit}

lemma IsFresh.not_hasScript (h : directory.IsFresh start) (ha : start.Agrees tree) :
    ¬ directory.HasScript .commitMsg true tree := by
  rintro ⟨text, ht, ho⟩
  obtain ⟨content, hf, hu⟩ := FileTree.text?_eq_some_iff.1 ht
  rw [ha] at hf
  rcases h.hook with hn | ⟨held, hs, hn⟩
  · cases hn.symm.trans hf
  · cases hs.symm.trans hf
    rw [FileTree.fromUTF8?_toUTF8] at hu
    cases hu
    rw [hn] at ho
    cases ho

lemma IsInstalled.hasScript (h : directory.IsInstalled start tree) :
    directory.HasScript .commitMsg true tree := by
  obtain ⟨binary, hf⟩ := h.hook
  exact ⟨_, FileTree.text?_of_find? hf, Hook.isOwnScript_script _ _⟩

lemma IsFresh.isDirectory_location (h : directory.IsFresh start)
    (hr : start.Agrees tree ∨ directory.IsInstalled start tree) :
    tree.isDirectory directory.location = true := by
  rw [FileTree.isDirectory_iff, ← FileTree.isDirectory_iff.1 h.isDirectory]
  rcases hr with ha | hi
  · exact ha _
  · exact hi.others _ (location_ne_hookAt _ _) (location_ne_backupAt _ _)

lemma IsFresh.isInstalled_of_hasScript (h : directory.IsFresh start)
    (hr : start.Agrees tree ∨ directory.IsInstalled start tree)
    (hs : directory.HasScript .commitMsg true tree) : directory.IsInstalled start tree :=
  hr.resolve_left fun ha => h.not_hasScript ha hs

lemma isInstalled_of_write? {aside : FileTree} {binary : String}
    (hb : aside.find? (directory.backupAt .commitMsg) = start.find? (directory.hookAt .commitMsg))
    (ho : ∀ location, location ≠ directory.hookAt .commitMsg →
      location ≠ directory.backupAt .commitMsg → aside.find? location = start.find? location)
    (hw : aside.write? (directory.hookAt .commitMsg) (Hook.commitMsg.script binary).toUTF8 =
      some after) : directory.IsInstalled start after where
  hook := ⟨binary, by rw [FileTree.find?_write? hw, if_pos rfl]⟩
  backup := by rw [FileTree.find?_write? hw, if_neg (hookAt_ne_backupAt _ _).symm, hb]
  others location hl hl' := by rw [FileTree.find?_write? hw, if_neg hl, ho location hl hl']

lemma IsFresh.agrees_of_remove? (h : directory.IsFresh start) (hi : directory.IsInstalled start tree)
    (hr : tree.remove? (directory.hookAt .commitMsg) = some after)
    (hb : after.find? (directory.backupAt .commitMsg) = none) : start.Agrees after := by
  have hfind := FileTree.find?_remove? hr
  have hnone : start.find? (directory.hookAt .commitMsg) = none := by
    rw [← hi.backup, ← hb, hfind, if_neg (hookAt_ne_backupAt _ _).symm]
  intro location
  obtain rfl | hl := eq_or_ne location (directory.hookAt .commitMsg)
  · rw [hfind, if_pos rfl, hnone]
  · obtain rfl | hl' := eq_or_ne location (directory.backupAt .commitMsg)
    · rw [hb, h.backup]
    · rw [hfind, if_neg hl, hi.others location hl hl']

lemma IsFresh.agrees_of_move? {bare : FileTree} (h : directory.IsFresh start)
    (hi : directory.IsInstalled start tree)
    (hr : tree.remove? (directory.hookAt .commitMsg) = some bare)
    (hm : bare.move? (directory.backupAt .commitMsg) (directory.hookAt .commitMsg) = some after) :
    start.Agrees after := by
  have hbare := FileTree.find?_remove? hr
  have hb : bare.find? (directory.backupAt .commitMsg) =
      start.find? (directory.hookAt .commitMsg) := by
    rw [hbare, if_neg (hookAt_ne_backupAt _ _).symm, hi.backup]
  rcases h.hook with hn | ⟨content, hs, -⟩
  · rw [FileTree.move?, hb, hn] at hm
    cases hm
  · have hfind := FileTree.find?_move? (hb.trans hs) hm
    intro location
    obtain rfl | hl := eq_or_ne location (directory.hookAt .commitMsg)
    · rw [hfind, if_pos rfl, hs]
    · rw [hfind, if_neg hl]
      obtain rfl | hl' := eq_or_ne location (directory.backupAt .commitMsg)
      · rw [if_pos rfl, h.backup]
      · rw [if_neg hl', hbare, if_neg hl, hi.others location hl hl']

lemma Step.agrees_of_uninstall (hs : Step directory .commitMsg command tree (.ok (), after))
    (h : directory.IsFresh start) (hr : start.Agrees tree ∨ directory.IsInstalled start tree)
    (hp : command.program? = none) : start.Agrees after := by
  cases hs with
  | idle _ hf =>
    rcases hr with ha | hi
    · exact ha
    · obtain ⟨binary, hk⟩ := hi.hook
      cases hf.symm.trans hk
  | written hp' => cases hp.symm.trans hp'
  | replaced hp' => cases hp.symm.trans hp'
  | removed _ hs hm hb =>
    exact h.agrees_of_remove? (h.isInstalled_of_hasScript hr hs) hm hb
  | restored _ hs hm hb =>
    exact h.agrees_of_move? (h.isInstalled_of_hasScript hr hs) hm hb

lemma Step.isInstalled_of_install {binary : String} {force : Bool}
    (hs : Step directory .commitMsg command tree (.ok (), after)) (h : directory.IsFresh start)
    (hr : start.Agrees tree ∨ directory.IsInstalled start tree)
    (hp : command.program? = some (binary, force)) : directory.IsInstalled start after := by
  cases hs with
  | idle hp' => cases hp.symm.trans hp'
  | removed hp' => cases hp.symm.trans hp'
  | restored hp' => cases hp.symm.trans hp'
  | written _ hf hw =>
    rcases hr with ha | hi
    · have hn := hf.resolve_right fun hs => h.not_hasScript ha hs
      refine isInstalled_of_write? ?_ (fun location _ _ => ha location) hw
      rw [ha, h.backup, ← ha, hn]
    · exact isInstalled_of_write? hi.backup hi.others hw
  | @replaced _ aside _ _ hs hm hw =>
    -- The hook in the way is none of this program's, so that nothing has been installed before.
    have ha := hr.resolve_right fun hi => nomatch hs.unique hi.hasScript
    obtain ⟨content, hf⟩ := hs.exists_file
    have hfind := FileTree.find?_move? hf hm
    refine isInstalled_of_write? ?_ (fun location hl hl' => ?_) hw
    · rw [hfind, if_pos rfl, ← ha, hf]
    · rw [hfind, if_neg hl', if_neg hl, ha]

lemma Step.agrees_or_isInstalled (hs : Step directory .commitMsg command tree (result, after))
    (h : directory.IsFresh start) (hr : start.Agrees tree ∨ directory.IsInstalled start tree) :
    start.Agrees after ∨ directory.IsInstalled start after := by
  cases result with
  | error error =>
    -- What fails changes nothing, whichever of the two states it finds.
    have he : after = tree := hs.eq_of_error fun _ => h.isDirectory_location hr
    exact he ▸ hr
  | ok =>
    cases hp : command.program? with
    | none => exact .inl (hs.agrees_of_uninstall h hr hp)
    | some program => exact .inr (hs.isInstalled_of_install h hr hp)

lemma agrees_or_isInstalled_runAll (h : directory.IsFresh start) (commands : List Command)
    (hr : start.Agrees tree ∨ directory.IsInstalled start tree) :
    start.Agrees (Command.runAll directory commands tree) ∨
      directory.IsInstalled start (Command.runAll directory commands tree) := by
  induction commands generalizing tree with
  | nil => exact hr
  | cons command rest ih => exact ih ((step_run directory command tree).agrees_or_isInstalled h hr)

lemma status_eq (directory : HooksDirectory) (tree : FileTree) :
    directory.status tree = [("commit-msg", tree.contains (directory.hookAt .commitMsg) &&
      (directory.isOwn .commitMsg tree).toOption.getD false)] := rfl

lemma status_eq_iff : directory.status tree = [("commit-msg", true)] ↔
    directory.HasScript .commitMsg true tree := by
  constructor
  · intro h
    rw [status_eq, List.singleton_inj, Prod.mk.injEq, Bool.and_eq_true] at h
    obtain ⟨-, -, ho⟩ := h
    apply isOwn_eq_ok_iff.1
    cases hi : directory.isOwn .commitMsg tree with
    | error error =>
      rw [hi] at ho
      cases ho
    | ok own =>
      rw [hi] at ho
      exact congrArg _ ho
  · intro hs
    rw [status_eq, hs.contains, isOwn_eq_ok_iff.2 hs]
    rfl

/-- Commands lead from a fresh hooks directory to no other states than the one they began with and
the one with the script installed, which is the one that the status shows. A removal that succeeds
leads back. -/
theorem runAll_agrees_or_isInstalled (directory : HooksDirectory) (start : FileTree)
    (h : directory.IsFresh start) (commands : List Command) :
    (start.Agrees (Command.runAll directory commands start) ∨
      directory.IsInstalled start (Command.runAll directory commands start)) ∧
    (directory.status (Command.runAll directory commands start) = [("commit-msg", true)] ↔
      directory.IsInstalled start (Command.runAll directory commands start)) ∧
    ∀ command : Command, command.program? = none →
      (command.run directory (Command.runAll directory commands start)).1 = .ok () →
      start.Agrees (command.run directory (Command.runAll directory commands start)).2 := by
  have hr := agrees_or_isInstalled_runAll h commands (.inl fun _ => rfl)
  refine ⟨hr, ?_, fun command hp hok => ?_⟩
  · rw [status_eq_iff]
    exact ⟨h.isInstalled_of_hasScript hr, IsInstalled.hasScript⟩
  · have hs := step_run directory command (Command.runAll directory commands start)
    generalize command.run directory (Command.runAll directory commands start) = run at hs hok ⊢
    obtain ⟨result, after⟩ := run
    obtain rfl : result = .ok () := hok
    exact hs.agrees_of_uninstall h hr hp

def plainTree : FileTree where
  entries := [(["hooks"], .directory), (["hooks", "commit-msg"], .file "exit 0\n".toUTF8)]

def plainCommands : List Command :=
  [.install "commit-msg" "cmtlint" false, .installAll "cmtlint" true,
    .install "commit-msg" "other" false]

theorem runAll_agrees_or_isInstalled_plain :
    IsFresh ⟨["hooks"]⟩ plainTree ∧
    (plainTree.Agrees (Command.runAll ⟨["hooks"]⟩ plainCommands plainTree) ∨
      IsInstalled ⟨["hooks"]⟩ plainTree (Command.runAll ⟨["hooks"]⟩ plainCommands plainTree)) ∧
    (status ⟨["hooks"]⟩ (Command.runAll ⟨["hooks"]⟩ plainCommands plainTree) =
        [("commit-msg", true)] ↔
      IsInstalled ⟨["hooks"]⟩ plainTree (Command.runAll ⟨["hooks"]⟩ plainCommands plainTree)) ∧
    ∀ command : Command, command.program? = none →
      (command.run ⟨["hooks"]⟩ (Command.runAll ⟨["hooks"]⟩ plainCommands plainTree)).1 = .ok () →
      plainTree.Agrees
        (command.run ⟨["hooks"]⟩ (Command.runAll ⟨["hooks"]⟩ plainCommands plainTree)).2 := by
  have h : IsFresh ⟨["hooks"]⟩ plainTree := {
    isDirectory := rfl
    backup := rfl
    hook := .inr ⟨"exit 0\n", rfl, by decide +kernel⟩ }
  exact ⟨h, runAll_agrees_or_isInstalled _ _ h _⟩

end HooksDirectory

end CommitStyle
