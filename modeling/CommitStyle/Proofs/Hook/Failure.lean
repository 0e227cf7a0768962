import CommitStyle.Proofs.Hook.Step

/-!
# Commands that fail

A command changes the files of a hook in two steps, and would leave a hook half replaced if only the
second one failed. In a tree it does not: once the first change can be made, so can the other.
-/

namespace CommitStyle.HooksDirectory

variable {directory : HooksDirectory} {hook : Hook} {command : Command} {tree after : FileTree}

lemma exists_write?_of_putAside {own : Bool} (hs : directory.HasScript hook own tree)
    (hd : tree.isDirectory directory.location = true)
    (hm : tree.move? (directory.hookAt hook) (directory.backupAt hook) = some after)
    (content : ByteArray) : ∃ written, after.write? (directory.hookAt hook) content = some written := by
  obtain ⟨old, hf⟩ := hs.exists_file
  have hfind := FileTree.find?_move? hf hm
  apply FileTree.exists_write?
  · rw [parent_hookAt, FileTree.isDirectory_iff, hfind, if_neg (location_ne_backupAt _ _),
      if_neg (location_ne_hookAt _ _)]
    exact FileTree.isDirectory_iff.1 hd
  · have hnone : after.find? (directory.hookAt hook) = none := by
      rw [hfind, if_neg (hookAt_ne_backupAt _ _), if_pos rfl]
    rw [FileTree.isDirectory, hnone]
    rfl

lemma exists_move?_of_remove? (hd : tree.isDirectory directory.location = true)
    (hr : tree.remove? (directory.hookAt hook) = some after)
    (hb : after.contains (directory.backupAt hook) = true) :
    ∃ restored, after.move? (directory.backupAt hook) (directory.hookAt hook) = some restored := by
  have hfind := FileTree.find?_remove? hr
  apply FileTree.exists_move? hb
  · rw [hfind, if_pos rfl]
  · rw [parent_hookAt, FileTree.isDirectory_iff, hfind, if_neg (location_ne_hookAt _ _)]
    exact FileTree.isDirectory_iff.1 hd
  · exact not_backupAt_prefix_hookAt directory hook

lemma Step.eq_of_error {error : Error} (h : Step directory hook command tree (.error error, after))
    (hd : tree.contains (directory.hookAt hook) = true →
      tree.isDirectory directory.location = true) : after = tree := by
  cases h with
  | refused => rfl
  | interrupted _ _ hs hm hw =>
    obtain ⟨written, hw'⟩ := exists_write?_of_putAside hs (hd hs.contains) hm _
    cases hw.symm.trans hw'
  | stranded _ _ hs hr hb hm =>
    obtain ⟨restored, hm'⟩ := exists_move?_of_remove? (hd hs.contains) hr hb
    cases hm.symm.trans hm'

/-- A command that fails leaves every file and directory as it was. -/
theorem run_eq_of_error (directory : HooksDirectory) (command : Command) (tree : FileTree)
    (ht : tree.IsTree) (error : Error) (h : (command.run directory tree).1 = .error error) :
    (command.run directory tree).2 = tree := by
  have hs := step_run directory command tree
  generalize command.run directory tree = run at h hs
  obtain ⟨result, after⟩ := run
  obtain rfl : result = .error error := h
  refine hs.eq_of_error fun hc => ?_
  have hp := ht _ hc
  rwa [parent_hookAt] at hp

def blockedTree : FileTree where
  entries := [(["hooks"], .directory), (["hooks", "commit-msg"], .file "exit 0\n".toUTF8),
    (["hooks", "commit-msg.backup"], .directory)]

theorem run_eq_of_error_blocked :
    blockedTree.IsTree ∧
    ((Command.installAll "cmtlint" true).run ⟨["hooks"]⟩ blockedTree).1 =
      .error (.hook (.installFailed "commit-msg" "Failed to backup existing hook")) ∧
    ((Command.installAll "cmtlint" true).run ⟨["hooks"]⟩ blockedTree).2 = blockedTree := by
  have ht : blockedTree.IsTree := FileTree.isTree_of_entries (by decide)
  have he : ((Command.installAll "cmtlint" true).run ⟨["hooks"]⟩ blockedTree).1 =
      .error (.hook (.installFailed "commit-msg" "Failed to backup existing hook")) := by
    rfl
  exact ⟨ht, he, run_eq_of_error _ _ _ ht _ he⟩

end CommitStyle.HooksDirectory
