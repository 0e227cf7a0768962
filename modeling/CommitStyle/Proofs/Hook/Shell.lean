import CommitStyle.Hook
import CommitStyle.Proofs.Lines

/-!
# What the script runs

How a shell reads a word in double quotes, and what this makes of the line by which the script of a
hook hands over to a program. The word names the program exactly if the path of the program reads the
same with quotes around it as without.
-/

namespace CommitStyle

namespace Shell

/-- The characters that have a meaning of their own between double quotes: `$` begins an expansion,
a backquote a command substitution, a double quote ends the word and a backslash quotes. -/
def isSpecial (c : Char) : Bool := c == '$' || c == '\x60' || c == '"' || c == '\\'

/-- What is read behind an opening double quote: a source denotes a text as it stands, without any
expansion in it, and the rest of it follows the closing quote. -/
inductive Quoted : List Char → List Char → List Char → Prop
  | closed (rest : List Char) : Quoted ('"' :: rest) [] rest
  | plain {c : Char} {source text rest : List Char} (hc : isSpecial c = false)
      (h : Quoted source text rest) : Quoted (c :: source) (c :: text) rest
  | escaped {c : Char} {source text rest : List Char} (hc : isSpecial c = true)
      (h : Quoted source text rest) : Quoted ('\\' :: c :: source) (c :: text) rest
  | joined {source text rest : List Char} (h : Quoted source text rest) :
      Quoted ('\\' :: '\n' :: source) text rest
  | backslash {c : Char} {source text rest : List Char} (hc : isSpecial c = false) (hn : c ≠ '\n')
      (h : Quoted (c :: source) text rest) : Quoted ('\\' :: c :: source) ('\\' :: text) rest

/-- A text that reads the same between double quotes: it has no special character but backslashes, and
these stand neither at its end nor before one another or a line feed. -/
structure IsLiteral (text : List Char) : Prop where
  plain : ∀ c ∈ text, c = '\\' ∨ isSpecial c = false
  last : text.getLast? ≠ some '\\'
  pair : ¬ ['\\', '\\'] <:+: text
  joined : ¬ ['\\', '\n'] <:+: text

variable {c d : Char} {source text rest : List Char}

lemma Quoted.length_lt (h : Quoted source text rest) : text.length + rest.length < source.length := by
  induction h with
  | closed => simp
  | plain _ _ ih | escaped _ _ ih | joined _ ih | backslash _ _ _ ih =>
    simp only [List.length_cons] at ih ⊢
    omega

lemma isLiteral_nil : IsLiteral [] := ⟨by simp, by simp, by simp, by simp⟩

lemma isLiteral_cons_iff (hc : c ≠ '\\') :
    IsLiteral (c :: text) ↔ isSpecial c = false ∧ IsLiteral text := by
  have hl : (c :: text).getLast? ≠ some '\\' ↔ text.getLast? ≠ some '\\' := by
    cases text with
    | nil => simpa using hc
    | cons d rest => rw [List.getLast?_cons_cons]
  have hp (e : Char) : ['\\', e] <:+: c :: text ↔ ['\\', e] <:+: text := by
    rw [List.infix_cons_iff, List.cons_prefix_cons]
    exact or_iff_right fun h => hc h.1.symm
  constructor
  · intro h
    exact ⟨(h.plain c (.head _)).resolve_left hc,
      ⟨fun e he => h.plain e (.tail _ he), hl.1 h.last, (hp _).not.1 h.pair, (hp _).not.1 h.joined⟩⟩
  · rintro ⟨hs, h⟩
    exact ⟨List.forall_mem_cons.2 ⟨.inr hs, h.plain⟩, hl.2 h.last, (hp _).not.2 h.pair,
      (hp _).not.2 h.joined⟩

lemma isLiteral_backslash_iff :
    IsLiteral ('\\' :: text) ↔ ∃ c rest, text = c :: rest ∧ c ≠ '\\' ∧ c ≠ '\n' ∧ IsLiteral text := by
  constructor
  · intro h
    cases text with
    | nil => exact absurd rfl h.last
    | cons c rest =>
      refine ⟨c, rest, rfl, ?_, ?_, fun e he => h.plain e (.tail _ he),
        List.getLast?_cons_cons ▸ h.last, ?_, ?_⟩
      · rintro rfl
        exact h.pair ⟨[], rest, rfl⟩
      · rintro rfl
        exact h.joined ⟨[], rest, rfl⟩
      · exact fun hp => h.pair (hp.trans (List.suffix_cons _ _).isInfix)
      · exact fun hp => h.joined (hp.trans (List.suffix_cons _ _).isInfix)
  · rintro ⟨c, rest, rfl, hc, hn, h⟩
    have hp {e : Char} (he : c ≠ e) (hi : ¬ ['\\', e] <:+: c :: rest) :
        ¬ ['\\', e] <:+: '\\' :: c :: rest := by
      rw [List.infix_cons_iff, List.cons_prefix_cons, List.cons_prefix_cons]
      rintro (⟨-, rfl, -⟩ | h)
      exacts [he rfl, hi h]
    exact ⟨List.forall_mem_cons.2 ⟨.inl rfl, h.plain⟩, by rw [List.getLast?_cons_cons]; exact h.last,
      hp hc h.pair, hp hn h.joined⟩

lemma IsLiteral.quoted (h : IsLiteral text) (rest : List Char) :
    Quoted (text ++ '"' :: rest) text rest := by
  induction text with
  | nil => exact .closed rest
  | cons c text ih =>
    by_cases hc : c = '\\'
    · subst hc
      obtain ⟨d, more, rfl, hd, hn, ht⟩ := isLiteral_backslash_iff.1 h
      exact .backslash ((ht.plain d (.head _)).resolve_left hd) hn (ih ht)
    · obtain ⟨hs, ht⟩ := (isLiteral_cons_iff hc).1 h
      exact .plain hs (ih ht)

lemma Quoted.isLiteral (h : Quoted (text ++ '"' :: rest) text rest) : IsLiteral text := by
  induction text with
  | nil => exact isLiteral_nil
  | cons c text ih =>
    rw [List.cons_append] at h
    generalize hs : text ++ '"' :: rest = source at h
    have hl : source.length = text.length + rest.length + 1 := by
      rw [← hs]
      simp [Nat.add_assoc]
    cases h with
    | plain hc h => exact (isLiteral_cons_iff (by rintro rfl; cases hc)).2 ⟨hc, ih (hs ▸ h)⟩
    | escaped hc h =>
      have hlt := h.length_lt
      simp only [List.length_cons] at hl
      omega
    | joined h =>
      have hlt := h.length_lt
      simp only [List.length_cons] at hl hlt
      omega
    | @backslash d source _ _ hd hn h =>
      refine isLiteral_backslash_iff.2 ?_
      cases text with
      | nil =>
        obtain ⟨rfl, -⟩ := List.cons.inj hs
        cases hd
      | cons e more =>
        obtain ⟨rfl, -⟩ := List.cons.inj hs
        exact ⟨e, more, rfl, (by rintro rfl; cases hd), hn, ih (hs ▸ h)⟩

def execLines (script : List Char) : List (List Char) :=
  (Text.rawLines script).filter ("exec ".toList.isPrefixOf ·)

/-- Whether a line hands over to a program: the word in double quotes behind `exec` denotes the program
and nothing else, it ends at a blank, and the arguments follow. -/
def Executes (line program arguments : List Char) : Prop :=
  ∃ source, line = "exec \"".toList ++ source ∧ Quoted source program (' ' :: arguments)

end Shell

namespace Hook

open Text

/-- The arguments that the script gives to a program: the file of the message, which the script is
given itself. -/
def arguments : List Char := "lint --edit \"$1\"".toList

def execLine (binary : String) : List Char :=
  "exec \"".toList ++ (binary.toList ++ '"' :: ' ' :: arguments)

def openingLines : List (List Char) :=
  ["#!/bin/sh".toList, ("# " ++ marker ++ " v" ++ version).toList,
    "# Lints the commit message before git records it.".toList]

lemma toList_script (hook : Hook) (binary : String) : (hook.script binary).toList =
    joinLines openingLines ++ '\n' :: (execLine binary ++ '\n' :: []) := by
  obtain ⟨front, hf⟩ : ∃ front, front = "#!/bin/sh\n# " ++ marker ++ " v" ++ version ++
      "\n# Lints the commit message before git records it.\nexec \"" := ⟨_, rfl⟩
  obtain ⟨back, hb⟩ : ∃ back, back = "\" lint --edit \"$1\"\n" := ⟨_, rfl⟩
  have hfront : front.toList = joinLines openingLines ++ '\n' :: "exec \"".toList := by
    rw [hf]
    decide
  have hback : back.toList = '"' :: ' ' :: arguments ++ ['\n'] := by
    rw [hb]
    decide
  have hscript : hook.script binary = front ++ binary ++ back := by
    rw [hf, hb]
    rfl
  rw [hscript, String.toList_append, String.toList_append, hfront, hback]
  change _ = joinLines openingLines ++
    '\n' :: (("exec \"".toList ++ (binary.toList ++ '"' :: ' ' :: arguments)) ++ ['\n'])
  generalize "exec \"".toList = exec
  simp

lemma newline_not_mem_openingLines : ∀ line ∈ openingLines, '\n' ∉ line := by decide

lemma newline_not_mem_execLine {binary : String} (hn : '\n' ∉ binary.toList) :
    '\n' ∉ execLine binary := by
  change '\n' ∉ "exec \"".toList ++ (binary.toList ++ '"' :: ' ' :: arguments)
  rw [List.mem_append, List.mem_append]
  rintro (h | h | h)
  · revert h
    decide
  · exact hn h
  · revert h
    decide

lemma execLines_script (hook : Hook) {binary : String} (hn : '\n' ∉ binary.toList) :
    Shell.execLines (hook.script binary).toList = [execLine binary] := by
  have hlines : rawLines (hook.script binary).toList = openingLines ++ [execLine binary, []] := by
    rw [toList_script, rawLines_append_cons, rawLines_append_cons,
      rawLines_of_newline_not_mem (newline_not_mem_execLine hn),
      rawLines_joinLines newline_not_mem_openingLines (by decide)]
    rfl
  have hopening : openingLines.filter ("exec ".toList.isPrefixOf ·) = [] := by decide
  rw [Shell.execLines, hlines, List.filter_append, hopening]
  rfl

lemma executes_execLine_iff {binary : String} :
    Shell.Executes (execLine binary) binary.toList arguments ↔ Shell.IsLiteral binary.toList := by
  constructor
  · rintro ⟨source, hs, hq⟩
    rw [← List.append_cancel_left hs] at hq
    exact hq.isLiteral
  · intro h
    exact ⟨_, rfl, h.quoted _⟩

/-- The script for a program whose path has no line feed hands over once, and it hands over to the
program of exactly that path if and only if the path reads the same between double quotes. -/
theorem script_executes_iff (hook : Hook) (binary : String) (hn : '\n' ∉ binary.toList) :
    ∃ line, Shell.execLines (hook.script binary).toList = [line] ∧
      (Shell.Executes line binary.toList "lint --edit \"$1\"".toList ↔
        Shell.IsLiteral binary.toList) :=
  ⟨execLine binary, execLines_script hook hn, executes_execLine_iff⟩

theorem script_executes_iff_backslash :
    '\n' ∉ "/opt/my tools\\cmtlint".toList ∧ Shell.IsLiteral "/opt/my tools\\cmtlint".toList ∧
    ∃ line, Shell.execLines (commitMsg.script "/opt/my tools\\cmtlint").toList = [line] ∧
      Shell.Executes line "/opt/my tools\\cmtlint".toList "lint --edit \"$1\"".toList := by
  have hn : '\n' ∉ "/opt/my tools\\cmtlint".toList := by decide
  have hl : Shell.IsLiteral "/opt/my tools\\cmtlint".toList :=
    ⟨by simp [Shell.isSpecial], by decide, Text.hasInfix_iff.not.1 (by decide),
      Text.hasInfix_iff.not.1 (by decide)⟩
  obtain ⟨line, hexec, h⟩ := script_executes_iff commitMsg "/opt/my tools\\cmtlint" hn
  exact ⟨hn, hl, line, hexec, h.2 hl⟩

/-- A shell expands a variable in the path of a program, so that it runs another one. -/
theorem not_script_executes_variable :
    '\n' ∉ "/opt/$tools/cmtlint".toList ∧ '\x00' ∉ "/opt/$tools/cmtlint".toList ∧
    ∃ line, Shell.execLines (commitMsg.script "/opt/$tools/cmtlint").toList = [line] ∧
      ¬ Shell.Executes line "/opt/$tools/cmtlint".toList "lint --edit \"$1\"".toList := by
  have hn : '\n' ∉ "/opt/$tools/cmtlint".toList := by decide
  refine ⟨hn, by decide, _, execLines_script commitMsg hn, fun h => ?_⟩
  have hplain := (executes_execLine_iff.1 h).plain '$' (by decide)
  revert hplain
  decide

end Hook

end CommitStyle
