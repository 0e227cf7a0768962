import CommitStyle.Proofs.ByteOrder
import CommitStyle.Proofs.Hook.Cycle

/-!
# Forced installations

A forced installation puts a hook of the user aside, and a removal brings it back byte for byte, if
the bytes are those of a text. A hook that is no text, such as a compiled program, is none of this
program's to the status, and yet every command refuses it because it cannot be read.
-/

namespace CommitStyle

lemma Text.isInfix_bytes {part text : String} (h : part.toList <:+: text.toList) :
    bytes part <:+: bytes text := by
  obtain ⟨before, after, hs⟩ := h
  rw [bytes_eq_flatMap, bytes_eq_flatMap, ← hs, List.flatMap_append, List.flatMap_append]
  exact ⟨_, _, rfl⟩

namespace Hook

/-- Whether the marker does not occur in the content, whatever else its bytes are. -/
def IsUnmarked (content : ByteArray) : Prop := ¬ Text.bytes marker <:+: content.data.toList

lemma IsUnmarked.isForeign {content : ByteArray} (h : IsUnmarked content) : IsForeign content := by
  intro text ht
  rw [Bool.eq_false_iff, ne_eq, isOwnScript, Text.hasInfix_iff]
  intro hm
  exact h (FileTree.fromUTF8?_eq_some_iff.1 ht ▸ Text.isInfix_bytes hm)

end Hook

namespace HooksDirectory

variable {directory : HooksDirectory} {hook : Hook} {command : Command} {binary : String}
  {content : ByteArray} {tree : FileTree}

/-! ### Commands that succeed -/

lemma exists_run_installHook (hs : directory.HasScript hook false tree)
    (hd : tree.isDirectory directory.location = true)
    (hb : tree.find? (directory.backupAt hook) = none) (binary : String) :
    ∃ after, (discard (directory.installHook hook binary true)).run.run tree = (.ok (), after) ∧
      after.find? (directory.hookAt hook) = some (.file (hook.script binary).toUTF8) := by
  obtain ⟨aside, hm⟩ := FileTree.exists_move? hs.contains hb
    ((parent_backupAt directory hook).symm ▸ hd) (not_hookAt_prefix_backupAt directory hook)
  obtain ⟨after, hw⟩ := exists_write?_of_putAside hs hd hm (hook.script binary).toUTF8
  refine ⟨after, ?_, by rw [FileTree.find?_write? hw, if_pos rfl]⟩
  rw [FileAction.discard_eq_bind,
    FileAction.run_bind_congr (run_installHook_of_foreign (run_isForeign_of_hasScript hs)),
    bind_assoc, putAside, FileAction.run_bind_of_ok (FileAction.run_change_of_some _ hm),
    writeScript, bind_assoc, FileAction.run_bind_of_ok (FileAction.run_change_of_some _ hw)]
  rfl

lemma exists_run_uninstallHook (hs : directory.HasScript hook true tree)
    (hd : tree.isDirectory directory.location = true) :
    ∃ after, (directory.uninstallHook hook).run.run tree = (.ok (), after) := by
  obtain ⟨script, hf⟩ := hs.exists_file
  obtain ⟨bare, hr⟩ : ∃ bare, tree.remove? (directory.hookAt hook) = some bare := by
    rw [FileTree.remove?, FileTree.isFile, FileTree.bytes?_eq_some_iff.2 hf]
    exact ⟨_, rfl⟩
  rw [run_uninstallHook_of_contains hs.contains,
    FileAction.run_bind_of_ok (run_isForeign_of_hasScript hs)]
  change ∃ after, (FileAction.change _ _ >>= fun _ =>
    directory.bringBack hook).run.run tree = (.ok (), after)
  rw [FileAction.run_bind_of_ok (FileAction.run_change_of_some _ hr), run_bringBack]
  cases hb : bare.contains (directory.backupAt hook) with
  | false => exact ⟨bare, rfl⟩
  | true =>
    obtain ⟨restored, hm⟩ := exists_move?_of_remove? hd hr hb
    exact ⟨restored, FileAction.run_change_of_some _ hm⟩

/-! ### Commands that cannot read the hook -/

lemma run_eq_unreadable (hk : command.isKnown = true)
    (hc : tree.contains (directory.hookAt .commitMsg) = true)
    (ht : tree.text? (directory.hookAt .commitMsg) = none) :
    command.run directory tree = (.error (directory.unreadable .commitMsg), tree) := by
  have hforeign := run_isForeign_of_unreadable hc ht
  rw [Command.run_of_isKnown hk]
  cases command.program? with
  | none =>
    change (directory.uninstallHook .commitMsg).run.run tree = _
    rw [run_uninstallHook_of_contains hc]
    exact FileAction.run_bind_of_error hforeign
  | some program =>
    change (discard (directory.installHook .commitMsg program.1 program.2)).run.run tree = _
    rw [FileAction.discard_eq_bind]
    exact FileAction.run_bind_of_error (run_installHook_of_error hforeign)

/-! ### Putting aside and bringing back -/

lemma status_eq_false_iff : directory.status tree = [("commit-msg", false)] ↔
    ¬ directory.HasScript .commitMsg true tree := by
  rw [← status_eq_iff, status_eq]
  cases tree.contains (directory.hookAt .commitMsg) &&
    (directory.isOwn .commitMsg tree).toOption.getD false <;> simp

/-- The first command puts the hook of the user aside for a script that runs a program, and the second
one, coming after it, leaves everything as it was. -/
structure Exchanges (directory : HooksDirectory) (install removal : Command) (binary : String)
    (content : ByteArray) (tree : FileTree) : Prop where
  installed : (install.run directory tree).1 = .ok ()
  script : (install.run directory tree).2.bytes? (directory.hookAt .commitMsg) =
    some (Hook.commitMsg.script binary).toUTF8
  aside : (install.run directory tree).2.bytes? (directory.backupAt .commitMsg) = some content
  removed : (removal.run directory (install.run directory tree).2).1 = .ok ()
  restored : tree.Agrees (removal.run directory (install.run directory tree).2).2

lemma IsFresh.exchanges {text : String} {install removal : Command} (h : directory.IsFresh tree)
    (hf : tree.find? (directory.hookAt .commitMsg) = some (.file text.toUTF8))
    (ho : Hook.isOwnScript text = false) (hi : install.isKnown = true)
    (hr : removal.isKnown = true) (hp : install.program? = some (binary, true))
    (hn : removal.program? = none) :
    directory.Exchanges install removal binary text.toUTF8 tree := by
  have hs : directory.HasScript .commitMsg false tree := ⟨text, FileTree.text?_of_find? hf, ho⟩
  have hagrees : tree.Agrees tree := fun _ => rfl
  obtain ⟨after, hrun, hscript⟩ := exists_run_installHook hs h.isDirectory h.backup binary
  have hinstall : install.run directory tree = (.ok (), after) := by
    rw [Command.run_of_isKnown hi, hp]
    exact hrun
  have hinstalled : directory.IsInstalled tree after :=
    Step.isInstalled_of_install (hinstall ▸ step_run directory install tree) h (.inl hagrees) hp
  obtain ⟨restored, hrun⟩ := exists_run_uninstallHook hinstalled.hasScript
    (h.isDirectory_location (.inr hinstalled))
  have hremove : removal.run directory after = (.ok (), restored) := by
    rw [Command.run_of_isKnown hr, hn]
    exact hrun
  have hrestored : tree.Agrees restored :=
    Step.agrees_of_uninstall (hremove ▸ step_run directory removal after) h (.inr hinstalled) hn
  have haside : after.bytes? (directory.backupAt .commitMsg) = some text.toUTF8 :=
    FileTree.bytes?_eq_some_iff.2 (hinstalled.backup.trans hf)
  constructor <;> rw [hinstall]
  · exact FileTree.bytes?_eq_some_iff.2 hscript
  · exact haside
  · rw [hremove]
  · rw [hremove]
    exact hrestored

/-- A hook of the user that does not hold the marker is shown as not installed. A forced installation
puts it aside and a removal brings it back if and only if its bytes are those of a text; otherwise both
fail because the hook cannot be read, and change nothing. -/
theorem exchanges_iff_exists_text (directory : HooksDirectory) (tree : FileTree) (ht : tree.IsTree)
    (content : ByteArray) (hf : tree.bytes? (directory.hookAt .commitMsg) = some content)
    (hb : tree.find? (directory.backupAt .commitMsg) = none) (hm : Hook.IsUnmarked content) :
    directory.status tree = [("commit-msg", false)] ∧
    ∀ (install removal : Command) (binary : String), install.isKnown = true →
      removal.isKnown = true → install.program? = some (binary, true) → removal.program? = none →
      (directory.Exchanges install removal binary content tree ↔
        ∃ text : String, text.toUTF8 = content) ∧
      ((¬ ∃ text : String, text.toUTF8 = content) →
        install.run directory tree = (.error (directory.unreadable .commitMsg), tree) ∧
        removal.run directory tree = (.error (directory.unreadable .commitMsg), tree)) := by
  have hfind := FileTree.bytes?_eq_some_iff.1 hf
  have hc : tree.contains (directory.hookAt .commitMsg) = true := by
    rw [FileTree.contains, hfind]
    rfl
  have hd : tree.isDirectory directory.location = true :=
    parent_hookAt directory .commitMsg ▸ ht _ hc
  refine ⟨status_eq_false_iff.2 fun hs => hs.bytes?_ne hm.isForeign hf,
    fun install removal binary hi hr hp hn => ?_⟩
  have hfail : (¬ ∃ text : String, text.toUTF8 = content) →
      install.run directory tree = (.error (directory.unreadable .commitMsg), tree) ∧
      removal.run directory tree = (.error (directory.unreadable .commitMsg), tree) := by
    intro hno
    have hnone : tree.text? (directory.hookAt .commitMsg) = none := by
      rw [FileTree.text?, hf, Option.eq_none_iff_forall_ne_some]
      exact fun text h => hno ⟨text, FileTree.fromUTF8?_eq_some_iff.1 h⟩
    exact ⟨run_eq_unreadable hi hc hnone, run_eq_unreadable hr hc hnone⟩
  refine ⟨⟨fun h => ?_, ?_⟩, hfail⟩
  · by_contra hno
    have hinstalled := h.installed
    rw [(hfail hno).1] at hinstalled
    cases hinstalled
  · rintro ⟨text, rfl⟩
    have ho : Hook.isOwnScript text = false := hm.isForeign text (FileTree.fromUTF8?_toUTF8 text)
    exact IsFresh.exchanges ⟨hd, hb, .inr ⟨text, hfind, ho⟩⟩ hfind ho hi hr hp hn

theorem exchanges_iff_exists_text_plain :
    plainTree.IsTree ∧ plainTree.bytes? ["hooks", "commit-msg"] = some "exit 0\n".toUTF8 ∧
    plainTree.find? ["hooks", "commit-msg.backup"] = none ∧ Hook.IsUnmarked "exit 0\n".toUTF8 ∧
    status ⟨["hooks"]⟩ plainTree = [("commit-msg", false)] ∧
    Exchanges ⟨["hooks"]⟩ (.install "commit-msg" "cmtlint" true) .uninstallAll "cmtlint"
      "exit 0\n".toUTF8 plainTree := by
  have ht : plainTree.IsTree := FileTree.isTree_of_entries (by decide)
  have hm : Hook.IsUnmarked "exit 0\n".toUTF8 := by
    unfold Hook.IsUnmarked
    decide +kernel
  obtain ⟨hs, he⟩ := exchanges_iff_exists_text ⟨["hooks"]⟩ plainTree ht "exit 0\n".toUTF8 rfl rfl hm
  exact ⟨ht, rfl, rfl, hm, hs, (he (.install "commit-msg" "cmtlint" true) .uninstallAll "cmtlint"
    rfl rfl rfl rfl).1.2 ⟨_, rfl⟩⟩

def compiled : ByteArray := ⟨#[0x7f, 0x45, 0x4c, 0x46, 0xff]⟩

def compiledTree : FileTree where
  entries := [(["hooks"], .directory), (["hooks", "commit-msg"], .file compiled)]

theorem not_exchanges_compiled :
    compiledTree.IsTree ∧ compiledTree.bytes? ["hooks", "commit-msg"] = some compiled ∧
    compiledTree.find? ["hooks", "commit-msg.backup"] = none ∧ Hook.IsUnmarked compiled ∧
    status ⟨["hooks"]⟩ compiledTree = [("commit-msg", false)] ∧
    ((Command.install "commit-msg" "cmtlint" true).run ⟨["hooks"]⟩ compiledTree).1 ≠ .ok () ∧
    ¬ Exchanges ⟨["hooks"]⟩ (.install "commit-msg" "cmtlint" true) (.uninstall "commit-msg") "cmtlint"
      compiled compiledTree := by
  have ht : compiledTree.IsTree := FileTree.isTree_of_entries (by decide)
  have hm : Hook.IsUnmarked compiled := by
    unfold Hook.IsUnmarked
    decide +kernel
  have hnone : compiledTree.text? ["hooks", "commit-msg"] = none := by decide +kernel
  have hr : (Command.install "commit-msg" "cmtlint" true).run ⟨["hooks"]⟩ compiledTree =
      (.error (unreadable ⟨["hooks"]⟩ .commitMsg), compiledTree) :=
    run_eq_unreadable rfl rfl hnone
  have hs : ((Command.install "commit-msg" "cmtlint" true).run ⟨["hooks"]⟩ compiledTree).1 ≠
      .ok () := by
    rw [hr]
    exact nofun
  exact ⟨ht, rfl, rfl, hm, by decide +kernel, hs, fun h => hs h.installed⟩

end HooksDirectory

end CommitStyle
