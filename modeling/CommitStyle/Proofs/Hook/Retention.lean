import CommitStyle.Proofs.Hook.Failure

/-!
# Hooks of the user

The hook and the one that was put aside are two files, and what the user has written into them stays
in one of them under every command but one: a forced installation over a hook of the user puts that
hook aside, and what was put aside before it is lost.
-/

namespace CommitStyle

def Hook.IsForeign (content : ByteArray) : Prop :=
  ∀ text, String.fromUTF8? content = some text → isOwnScript text = false

namespace HooksDirectory

/-- Whether the content is that of the hook or of the one that was put aside. -/
def Holds (directory : HooksDirectory) (hook : Hook) (content : ByteArray) (tree : FileTree) : Prop :=
  tree.bytes? (directory.hookAt hook) = some content ∨
    tree.bytes? (directory.backupAt hook) = some content

/-- A forced installation over a hook of the user that has another content. -/
structure Displaces (directory : HooksDirectory) (hook : Hook) (command : Command)
    (content : ByteArray) (tree : FileTree) : Prop where
  forced : ∃ binary, command.program? = some (binary, true)
  foreign : directory.HasScript hook false tree
  other : tree.bytes? (directory.hookAt hook) ≠ some content

variable {directory : HooksDirectory} {hook : Hook} {command : Command} {content : ByteArray}
  {tree after : FileTree} {result : Except Error Unit}

lemma HasScript.bytes?_ne (hs : directory.HasScript hook true tree) (hf : Hook.IsForeign content) :
    tree.bytes? (directory.hookAt hook) ≠ some content := by
  intro hb
  obtain ⟨text, ht, ho⟩ := hs
  obtain ⟨old, hfind, hu⟩ := FileTree.text?_eq_some_iff.1 ht
  rw [FileTree.bytes?_eq_some_iff, hfind] at hb
  cases hb
  rw [hf text hu] at ho
  cases ho

lemma Holds.backup (h : directory.Holds hook content tree)
    (hn : tree.bytes? (directory.hookAt hook) ≠ some content) :
    tree.find? (directory.backupAt hook) = some (.file content) :=
  FileTree.bytes?_eq_some_iff.1 (h.resolve_left hn)

lemma holds_of_find?_backup (h : tree.find? (directory.backupAt hook) = some (.file content)) :
    directory.Holds hook content tree :=
  .inr (FileTree.bytes?_eq_some_iff.2 h)

lemma holds_of_write? {script : ByteArray}
    (hb : tree.find? (directory.backupAt hook) = some (.file content))
    (hw : tree.write? (directory.hookAt hook) script = some after) :
    directory.Holds hook content after := by
  apply holds_of_find?_backup
  rw [FileTree.find?_write? hw, if_neg (hookAt_ne_backupAt _ _).symm, hb]

lemma find?_backup_of_move? (hb : tree.bytes? (directory.hookAt hook) = some content)
    (hm : tree.move? (directory.hookAt hook) (directory.backupAt hook) = some after) :
    after.find? (directory.backupAt hook) = some (.file content) := by
  rw [FileTree.find?_move? (FileTree.bytes?_eq_some_iff.1 hb) hm, if_pos rfl]

lemma Step.holds (h : Step directory hook command tree (result, after))
    (hf : Hook.IsForeign content) (hh : directory.Holds hook content tree)
    (hd : ¬ directory.Displaces hook command content tree) : directory.Holds hook content after := by
  cases h with
  | refused => exact hh
  | idle => exact hh
  | written _ hs hw =>
    refine holds_of_write? (hh.backup ?_) hw
    rcases hs with hnone | hs
    · rw [FileTree.bytes?, hnone]
      exact Option.some_ne_none content |>.symm
    · exact hs.bytes?_ne hf
  | replaced hp hs hm hw =>
    have hb : tree.bytes? (directory.hookAt hook) = some content :=
      not_not.1 fun hn => hd ⟨⟨_, hp⟩, hs, hn⟩
    exact holds_of_write? (find?_backup_of_move? hb hm) hw
  | interrupted _ hp hs hm =>
    have hb : tree.bytes? (directory.hookAt hook) = some content :=
      not_not.1 fun hn => hd ⟨⟨_, hp⟩, hs, hn⟩
    exact holds_of_find?_backup (find?_backup_of_move? hb hm)
  | removed _ hs hr hb =>
    -- What is removed is a script, so the content was put aside and would have been brought back.
    have hkept := hh.backup (hs.bytes?_ne hf)
    rw [FileTree.find?_remove? hr, if_neg (hookAt_ne_backupAt _ _).symm, hkept] at hb
    cases hb
  | @restored bare _ _ hs hr hm =>
    have hkept : bare.find? (directory.backupAt hook) = some (.file content) := by
      rw [FileTree.find?_remove? hr, if_neg (hookAt_ne_backupAt _ _).symm]
      exact hh.backup (hs.bytes?_ne hf)
    refine .inl (FileTree.bytes?_eq_some_iff.2 ?_)
    rw [FileTree.find?_move? hkept hm, if_pos rfl]
  | stranded _ _ hs hr =>
    apply holds_of_find?_backup
    rw [FileTree.find?_remove? hr, if_neg (hookAt_ne_backupAt _ _).symm]
    exact hh.backup (hs.bytes?_ne hf)

lemma HasScript.unique {own other : Bool} (h : directory.HasScript hook own tree)
    (ho : directory.HasScript hook other tree) : own = other := by
  obtain ⟨text, ht, rfl⟩ := h
  obtain ⟨text', ht', rfl⟩ := ho
  rw [ht] at ht'
  cases ht'
  rfl

lemma Step.not_holds (h : Step directory hook command tree (.ok (), after))
    (hf : Hook.IsForeign content) (hd : directory.Displaces hook command content tree) :
    ¬ directory.Holds hook content after := by
  obtain ⟨⟨binary, hp⟩, hs, ho⟩ := hd
  cases h with
  | idle hp' => cases hp'.symm.trans hp
  | removed hp' => cases hp'.symm.trans hp
  | restored hp' => cases hp'.symm.trans hp
  | written _ hs' =>
    rcases hs' with hnone | hs'
    · obtain ⟨old, hfind⟩ := hs.exists_file
      cases hnone.symm.trans hfind
    · cases hs.unique hs'
  | @replaced _ aside _ _ _ hm hw =>
    obtain ⟨old, hfind⟩ := hs.exists_file
    rintro (hk | hk)
    · -- The hook is the script now, which is no content of the user.
      rw [FileTree.bytes?_eq_some_iff, FileTree.find?_write? hw, if_pos rfl] at hk
      cases hk
      have hown := hf _ (FileTree.fromUTF8?_toUTF8 _)
      rw [Hook.isOwnScript_script] at hown
      cases hown
    · rw [FileTree.bytes?_eq_some_iff, FileTree.find?_write? hw,
        if_neg (hookAt_ne_backupAt _ _).symm, FileTree.find?_move? hfind hm, if_pos rfl] at hk
      cases hk
      exact ho (FileTree.bytes?_eq_some_iff.2 hfind)

/-- What the user has written into the hook or the one put aside is lost exactly when a forced
installation puts a hook of another content aside. -/
theorem holds_run_iff (directory : HooksDirectory) (command : Command) (tree : FileTree)
    (ht : tree.IsTree) (content : ByteArray) (hf : Hook.IsForeign content)
    (hh : directory.Holds .commitMsg content tree) :
    directory.Holds .commitMsg content (command.run directory tree).2 ↔
      ¬ ((command.run directory tree).1 = .ok () ∧
        directory.Displaces .commitMsg command content tree) := by
  have hs := step_run directory command tree
  generalize command.run directory tree = run at hs ⊢
  obtain ⟨result, after⟩ := run
  constructor
  · rintro hk ⟨rfl, hd⟩
    exact hs.not_holds hf hd hk
  · intro hn
    cases result with
    | ok => exact hs.holds hf hh fun hd => hn ⟨rfl, hd⟩
    | error error =>
      have he : after = tree := hs.eq_of_error fun hc => parent_hookAt directory .commitMsg ▸ ht _ hc
      exact he ▸ hh

/-- Commands that do not force an installation lose nothing of the user, in any order. -/
theorem holds_runAll {commands : List Command}
    (hn : ∀ command ∈ commands, ∀ binary, command.program? ≠ some (binary, true))
    (hf : Hook.IsForeign content) (hh : directory.Holds .commitMsg content tree) :
    directory.Holds .commitMsg content (Command.runAll directory commands tree) := by
  induction commands generalizing tree with
  | nil => exact hh
  | cons command rest ih =>
    have hs := step_run directory command tree
    refine ih (fun other ho => hn other (.tail _ ho)) (hs.holds hf hh ?_)
    rintro ⟨⟨binary, hp⟩, -, -⟩
    exact hn command (.head _) binary hp

def doubleTree : FileTree where
  entries := [(["hooks"], .directory), (["hooks", "commit-msg"], .file "new\n".toUTF8),
    (["hooks", "commit-msg.backup"], .file "old\n".toUTF8)]

lemma isForeign_old : Hook.IsForeign "old\n".toUTF8 := by
  intro text ht
  rw [FileTree.fromUTF8?_toUTF8] at ht
  cases ht
  decide +kernel

theorem holds_run_iff_double :
    doubleTree.IsTree ∧ Hook.IsForeign "old\n".toUTF8 ∧
    Holds ⟨["hooks"]⟩ .commitMsg "old\n".toUTF8 doubleTree ∧
    (Holds ⟨["hooks"]⟩ .commitMsg "old\n".toUTF8
        ((Command.install "commit-msg" "cmtlint" false).run ⟨["hooks"]⟩ doubleTree).2 ↔
      ¬ (((Command.install "commit-msg" "cmtlint" false).run ⟨["hooks"]⟩ doubleTree).1 = .ok () ∧
        Displaces ⟨["hooks"]⟩ .commitMsg (.install "commit-msg" "cmtlint" false) "old\n".toUTF8
          doubleTree)) := by
  have ht : doubleTree.IsTree := FileTree.isTree_of_entries (by decide)
  have hh : Holds ⟨["hooks"]⟩ .commitMsg "old\n".toUTF8 doubleTree := .inr rfl
  exact ⟨ht, isForeign_old, hh, holds_run_iff _ _ _ ht _ isForeign_old hh⟩

theorem not_holds_run_forced :
    Hook.IsForeign "old\n".toUTF8 ∧ Holds ⟨["hooks"]⟩ .commitMsg "old\n".toUTF8 doubleTree ∧
    ((Command.install "commit-msg" "cmtlint" true).run ⟨["hooks"]⟩ doubleTree).1 = .ok () ∧
    ¬ Holds ⟨["hooks"]⟩ .commitMsg "old\n".toUTF8
      ((Command.install "commit-msg" "cmtlint" true).run ⟨["hooks"]⟩ doubleTree).2 := by
  have hr : ((Command.install "commit-msg" "cmtlint" true).run ⟨["hooks"]⟩ doubleTree).1 =
      .ok () := rfl
  have hs := step_run ⟨["hooks"]⟩ (.install "commit-msg" "cmtlint" true) doubleTree
  have hd : Displaces ⟨["hooks"]⟩ .commitMsg (.install "commit-msg" "cmtlint" true)
      "old\n".toUTF8 doubleTree :=
    ⟨⟨_, rfl⟩, ⟨"new\n", rfl, by decide +kernel⟩, by decide⟩
  exact ⟨isForeign_old, .inr rfl, hr, hs.not_holds isForeign_old hd⟩

end HooksDirectory

end CommitStyle
